import KubeManifest.Proofs.Model.Models
import KubeManifest.Proofs.Resource.Pods

/-!
# Resources that are read and written again

* `Resource.rewrite` : the entries that are written for a resource that was read from entries;
* `Resource.toOption_ofFields` : to read and to write a resource does that, or fails;
* `Resource.rewriteBody_cases` : entries that were written are those that were there, or have their pods written
  again;
* `Resource.rewriteBody_repeat`, `Resource.rewriteBody_pods` : entries that were written and pruned can be written
  again, and come out the same exactly if no known entry of their pods is an empty mapping, at any depth.
-/

namespace KubeManifest.Resource

open Model

/-! ## Reading and writing again -/

/-- The entries beside kind, version and metadata, with the specification of the pods written again. -/
def rewriteBody (kind : Value) (body : Fields) : Option Fields :=
  match takePodSpec kind body with
  | (none, rest) => some (Fields.plain rest)
  | (some pods, rest) => do
    let pods ← pods.withFields PodSpec.layout.write
    (putPodSpec kind (Fields.plain rest) pods).toOption

/-- The entries beside kind, version and metadata, with plain values. -/
def bodyOf (fs : Fields) : Fields :=
  Fields.plainValues (Fields.except fs headerNames)

/-- The metadata, or an empty mapping if none is given. -/
def metadataOf (fs : Fields) : Value :=
  (Fields.get fs "metadata").orElse (.ofFields [])

def manifest (apiVersion kind metadata : Value) (body : Fields) : Fields :=
  (.ofString "apiVersion", apiVersion) :: (.ofString "kind", kind) :: (.ofString "metadata", metadata) :: body

/-- The entries that are written for a resource that was read from entries. -/
def rewrite (fs : Fields) : Option Fields := do
  let metadata ← (metadataOf fs).withFields ObjectMeta.layout.write
  let body ← rewriteBody (Fields.get fs "kind") (bodyOf fs)
  return manifest (Fields.get fs "apiVersion") (Fields.get fs "kind") metadata body

/-! ### Opening entries -/

/-- Entries none of which is one that opens a manifest. -/
def Headless (body : Fields) : Prop :=
  ∀ name ∈ headerNames, Fields.find? body name = none

theorem headless_bodyOf (fs : Fields) : Headless (bodyOf fs) := by
  intro name hname
  rw [bodyOf, Fields.find?_plainValues, Fields.find?_except_of_mem hname]
  rfl

theorem wellKnown_of_header {name : String} (h : name ∈ headerNames) : name ∈ Value.wellKnown ∧ name ≠ "spec" := by
  simp only [headerNames, List.mem_cons, List.not_mem_nil, or_false] at h
  rcases h with rfl | rfl | rfl <;> decide

section

variable {body out : Fields} {kind pods : Value} {name : String}

/-- To take the pods out of entries changes no other entry than the specification. -/
theorem find?_takePodSpec (hne : name ≠ "spec") :
    Fields.find? (takePodSpec kind body).2 name = Fields.find? body name := by
  unfold takePodSpec
  split
  · split
    · exact Fields.find?_erase hne
    · split
      · rfl
      · split
        · split
          · exact Fields.find?_set_ne _ _ hne.symm
          · rfl
        · rfl
  · rfl

theorem find?_putPodSpec (hne : name ≠ "spec") (h : putPodSpec kind body pods = .ok out) :
    Fields.find? out name = Fields.find? body name := by
  unfold putPodSpec at h
  split at h
  · exact Except.ok.inj h ▸ Fields.find?_set_ne _ _ hne.symm
  · split at h
    · split at h
      · exact Except.ok.inj h ▸ Fields.find?_set_ne _ _ hne.symm
      · cases h
    · cases h

end

namespace Headless

variable {body out : Fields} {kind pods : Value}

theorem except (h : Headless body) : Fields.except body headerNames = body := by
  rw [Fields.except, List.filter_eq_self]
  intro e he
  change (!headerNames.any e.1.isText) = true
  rw [Bool.not_eq_true', List.any_eq_false]
  intro name hname hk
  rw [Fields.find?_eq_none_iff.mp (h name hname) e he] at hk
  cases hk

theorem withHeader (h : Headless body) (apiVersion kind metadata : Value) :
    withHeader apiVersion kind metadata body = manifest apiVersion kind metadata body := by
  rw [Resource.withHeader, h.except]
  dsimp only
  rw [h "apiVersion" (by decide), h "kind" (by decide), h "metadata" (by decide)]
  rfl

theorem plain (h : Headless body) : Headless (Fields.plain body) :=
  fun name hname => Fields.find?_plain_eq_none (wellKnown_of_header hname).1 (h name hname)

theorem take (h : Headless body) (kind : Value) : Headless (takePodSpec kind body).2 := fun name hname => by
  rw [find?_takePodSpec (wellKnown_of_header hname).2, h name hname]

theorem put (h : Headless body) (hput : putPodSpec kind body pods = .ok out) : Headless out := fun name hname => by
  rw [find?_putPodSpec (wellKnown_of_header hname).2 hput, h name hname]

end Headless

theorem metadataOf_isNull (fs : Fields) : (metadataOf fs).isNull = false := by
  unfold metadataOf Value.orElse
  split
  · rename_i h
    cases hn : (Fields.get fs "metadata").isNull with
    | false => rfl
    | true =>
      obtain ⟨mark, heq⟩ := Value.isNull_iff.mp hn
      rw [heq] at h
      cases h
  · rfl

theorem read_metadataOf (fs : Fields) :
    ((ObjectMeta.read? (metadataOf fs)).map fun m => (m.getD {}).toValue).toOption =
      (metadataOf fs).withFields ObjectMeta.layout.write := by
  rw [← ObjectMeta.writes.item]
  cases hr : ObjectMeta.read? (metadataOf fs) with
  | error e => rfl
  | ok m =>
    cases m with
    | some m => rfl
    | none =>
      cases hf : (metadataOf fs).fields? with
      | none =>
        have ho := ObjectMeta.writes.other _ hf
        rw [hr, metadataOf_isNull] at ho
        cases ho
      | some gs =>
        cases hv : metadataOf fs with
        | map gs mark =>
          rw [hv] at hr
          exact absurd hr (ObjectMeta.writes.given gs mark)
        | _ =>
          rw [hv] at hf
          cases hf

/-- To read and to write a resource rewrites its entries, or fails. -/
theorem toOption_ofFields (fs : Fields) : (ofFields fs >>= toFields?).toOption = rewrite fs := by
  rw [rewrite, ← read_metadataOf, rewriteBody, ofFields]
  rw [show (Fields.get fs "metadata").orElse (.ofFields []) = metadataOf fs from rfl,
    show Fields.plainValues (Fields.except fs headerNames) = bodyOf fs from rfl]
  cases ObjectMeta.read? (metadataOf fs) with
  | error e => rfl
  | ok m =>
    dsimp only
    rcases htake : takePodSpec (Fields.get fs "kind") (bodyOf fs) with ⟨pods, rest⟩
    have hrest : Headless (Fields.plain rest) := by
      have htaken := ((headless_bodyOf fs).take (Fields.get fs "kind")).plain
      rwa [htake] at htaken
    cases pods with
    | none =>
      simp only [ok_bind]
      change (toFields? ⟨Fields.get fs "kind", Fields.get fs "apiVersion", m.getD {}, rest, none⟩).toOption = _
      rw [toFields?]
      exact congrArg some (hrest.withHeader _ _ _)
    | some v =>
      have hfst := takePodSpec_fst (Fields.get fs "kind") (bodyOf fs)
      rw [htake] at hfst
      obtain ⟨spec, -, hpods⟩ := Option.bind_eq_some_iff.mp hfst.symm
      obtain ⟨pfs, mark, rfl⟩ := (pods?_eq_some.mp hpods).isMap
      have hwrite : Value.withFields (.map pfs mark) PodSpec.layout.write = _ := (PodSpec.writes.map pfs mark).symm
      dsimp only
      rw [hwrite]
      cases hr : PodSpec.read? (.map pfs mark) with
      | error e => rfl
      | ok p =>
        cases p with
        | none => exact absurd hr (PodSpec.writes.given pfs mark)
        | some p =>
          simp only [ok_bind, writeOne]
          change (toFields? ⟨Fields.get fs "kind", Fields.get fs "apiVersion", m.getD {}, rest, some p⟩).toOption = _
          rw [toFields?]
          dsimp only
          cases p.toValue? with
          | error e => rfl
          | ok w =>
            simp only [ok_bind, toOption_ok, Option.bind_eq_bind, Option.bind_some]
            cases hput : putPodSpec (Fields.get fs "kind") (Fields.plain rest) w with
            | error e => rfl
            | ok body => exact congrArg some ((hrest.put hput).withHeader _ _ _)

/-! ## The other entries -/

theorem rewriteBody_of_none {kind : Value} {body : Fields}
    (h : (Fields.find? body "spec").bind (pods? kind) = none) :
    rewriteBody kind body = some (Fields.plain body) := by
  rw [rewriteBody, takePodSpec_of_none h]

/-- What is written for entries with pods: those without them, and the pods written again in their place. -/
theorem rewriteBody_of_pods {kind : Value} {body : Fields} (hb : IsBody body) {spec : Value} {pods : Fields}
    {mark : Option Mark} (hspec : Fields.find? body "spec" = some spec) (h : HasPods kind spec (.map pods mark)) :
    ∃ rest, LeftOf kind body rest ∧ rewriteBody kind body = (PodSpec.layout.write pods).map fun w =>
      Fields.set (Fields.plain rest) "spec" (withPods kind spec w) := by
  obtain ⟨rest, htake, hleft, hput⟩ := take_put hb hspec h
  refine ⟨rest, hleft, ?_⟩
  rw [rewriteBody, htake]
  change (PodSpec.layout.write pods).bind (fun w => (putPodSpec kind (Fields.plain rest) w).toOption) = _
  cases PodSpec.layout.write pods with
  | none => rfl
  | some w => rw [Option.bind_some, hput w, toOption_ok, Option.map_some]

/-- Entries that were written are those that were there, or have their pods written again. -/
theorem rewriteBody_cases {kind : Value} {body out : Fields} (hb : IsBody body)
    (h : rewriteBody kind body = some out) :
    (Fields.find? body "spec").bind (pods? kind) = none ∧ out = Fields.plain body ∨
      ∃ spec pods mark w rest, Fields.find? body "spec" = some spec ∧ HasPods kind spec (.map pods mark) ∧
        LeftOf kind body rest ∧ PodSpec.layout.write pods = some w ∧
        out = Fields.set (Fields.plain rest) "spec" (withPods kind spec w) := by
  cases hp : (Fields.find? body "spec").bind (pods? kind) with
  | none =>
    rw [rewriteBody_of_none hp] at h
    exact .inl ⟨rfl, (Option.some.inj h).symm⟩
  | some pods =>
    obtain ⟨spec, hspec, hpods⟩ := Option.bind_eq_some_iff.mp hp
    rw [pods?_eq_some] at hpods
    obtain ⟨pods, mark, rfl⟩ := hpods.isMap
    obtain ⟨rest, hleft, heq⟩ := rewriteBody_of_pods hb hspec hpods
    rw [heq, Option.map_eq_some_iff] at h
    obtain ⟨w, hw, rfl⟩ := h
    exact .inr ⟨spec, pods, mark, w, rest, hspec, hpods, hleft, hw, rfl⟩

/-- Whether the pods among some entries are settled. -/
def PodsSettled (kind : Value) (body : Fields) : Prop :=
  ∀ spec pods, Fields.find? body "spec" = some spec → HasPods kind spec pods →
    (Shape.model PodSpec.layout).Settled pods

theorem settled_model_iff {layout : Layout} {fs : Fields} {mark : Option Mark} :
    (Shape.model layout).Settled (.map fs mark) ↔ layout.Settled fs := by
  rw [Shape.Settled]
  exact ⟨fun h => h fs rfl, fun h gs hgs => Option.some.inj hgs ▸ h⟩

theorem podsSettled_of_none {kind : Value} {body : Fields}
    (h : (Fields.find? body "spec").bind (pods? kind) = none) :
    PodsSettled kind body := by
  intro spec pods hspec hpods
  rw [hspec, Option.bind_some, pods?_eq_some.mpr hpods] at h
  cases h

theorem HasPods.unique {kind spec pods pods' : Value} (h : HasPods kind spec pods) (h' : HasPods kind spec pods') :
    pods = pods' := by
  rw [← pods?_eq_some] at h h'
  exact Option.some.inj (h.symm.trans h')

theorem podsSettled_iff {kind spec : Value} {body pods : Fields} (hspec : Fields.find? body "spec" = some spec)
    (hpods : HasPods kind spec (.ofFields pods)) : PodsSettled kind body ↔ PodSpec.layout.Settled pods := by
  have hmodel : (Shape.model PodSpec.layout).Settled (.ofFields pods) ↔ PodSpec.layout.Settled pods :=
    settled_model_iff
  rw [← hmodel]
  refine ⟨fun h => h spec _ hspec hpods, fun h spec' pods' hspec' hpods' => ?_⟩
  obtain rfl : spec = spec' := Option.some.inj (hspec.symm.trans hspec')
  exact hpods.unique hpods' ▸ h

theorem rewriteBody_isPlain {kind : Value} {body out : Fields} (hb : IsBody body)
    (h : rewriteBody kind body = some out) : out.IsPlain := by
  rcases rewriteBody_cases hb h with ⟨-, rfl⟩ | ⟨spec, pods, mark, w, rest, hspec, hpods, -, hw, rfl⟩
  · exact Fields.plain_isPlain body
  · have hspecp := hb.of_find? hspec
    have hwp := Layout.write_isPlain (by decide) (Fields.IsPlain.of_map (hpods.isPlain hspecp)) hw
    exact (Fields.plain_isPlain rest).set _ (hpods.withPods_isPlain hspecp hwp)

theorem find?_pruneEntries_of_pruned {fs : Fields} (h : Fields.Distinct fs) (hp : Value.pruneEntries fs = fs)
    (name : String) :
    ((Fields.find? fs name).map Value.prune).filter (fun v => !v.isNull) = Fields.find? fs name := by
  rw [← Fields.find?_pruneEntries h, hp]

/-- Plain entries that were pruned and ordered, with their pods written again. -/
theorem rewriteBody_repeat (kind : Value) {body : Fields} (hb : body.IsPlain) (hpr : Value.pruneEntries body = body)
    (hrep : ∀ spec pods, Fields.find? body "spec" = some spec → HasPods kind spec (.ofFields pods) →
      withPods kind spec (.ofFields pods) = spec ∧ ∃ out, PodSpec.layout.write pods = some (.ofFields out) ∧
        (Value.pruneEntries out = pods ↔ PodSpec.layout.Settled pods)) :
    ∃ out, rewriteBody kind body = some out ∧ out.IsPlain ∧
      Manifest.others Manifest.leadingNames (Value.pruneEntries out) = Manifest.others Manifest.leadingNames body ∧
      (∀ name, name ≠ "spec" → Fields.find? (Value.pruneEntries out) name = Fields.find? body name) ∧
      (Fields.find? (Value.pruneEntries out) "spec" = Fields.find? body "spec" ↔ PodsSettled kind body) := by
  cases hp : (Fields.find? body "spec").bind (pods? kind) with
  | none =>
    refine ⟨body, by rw [rewriteBody_of_none hp, hb.plain_eq], hb, by rw [hpr], fun name _ => by rw [hpr],
      iff_of_true (by rw [hpr]) (podsSettled_of_none hp)⟩
  | some pods =>
    obtain ⟨spec, hspec, hpods⟩ := Option.bind_eq_some_iff.mp hp
    rw [pods?_eq_some] at hpods
    have hspecp := hb.of_find? hspec
    have hplain := hpods.isPlain hspecp
    obtain ⟨pods, mark, rfl⟩ := hpods.isMap
    obtain rfl : mark = none := by
      cases hplain
      rfl
    obtain ⟨hsame, out, hout, hiff⟩ := hrep spec pods hspec hpods
    obtain ⟨rest, hleft, heq⟩ := rewriteBody_of_pods ⟨hb.distinct, hb.values⟩ hspec hpods
    have hrest := hleft.isPlain hb
    rw [heq, hout, Option.map_some, hrest.plain_eq]
    have hwp := Layout.write_isPlain (by decide) (Fields.IsPlain.of_map hplain) hout
    have hwith := hpods.withPods_isPlain hspecp hwp
    have hset := hrest.set "spec" hwith
    refine ⟨_, rfl, hset, ?_, fun name hname => ?_, ?_⟩
    · rw [Fields.others_pruneEntries, Fields.others_set (by decide), hleft.others, ← Fields.others_pruneEntries, hpr]
    · rw [Fields.find?_pruneEntries hset.distinct, Fields.find?_set_ne _ _ hname.symm, hleft.find? name hname,
        find?_pruneEntries_of_pruned hb.distinct hpr]
    · have hsp : spec.prune = spec := by
        have hs := find?_pruneEntries_of_pruned hb.distinct hpr "spec"
        rw [hspec, Option.map_some, Option.filter_eq_some_iff] at hs
        exact Option.some.inj hs.1
      have hprune := hpods.prune_withPods hspecp (w := .ofFields out) rfl
      rw [hsp, Value.prune] at hprune
      obtain ⟨fs, mark, hmap⟩ := (hpods.withPods (Value.pruneEntries out) none).spec_isMap
      have hshown : Option.filter (fun v => !v.isNull) (some (withPods kind spec (.ofFields out)).prune) =
          some (withPods kind spec (.ofFields (Value.pruneEntries out))) := by
        rw [hprune, hmap]
        rfl
      rw [Fields.find?_pruneEntries hset.distinct, Fields.find?_set_self, hspec, Option.map_some, hshown,
        podsSettled_iff hspec hpods, ← hiff, Option.some.injEq]
      have hinj := hpods.withPods_inj (v := .ofFields (Value.pruneEntries out)) (w := .ofFields pods)
      rw [hsame] at hinj
      rw [hinj, Value.map.injEq, and_iff_left rfl]

/-- The pods that were written and pruned can be written again in their place. -/
theorem rewriteBody_pods {kind : Value} {body out : Fields} (hb : IsBody body)
    (h : rewriteBody kind body = some out) {spec : Value} {pods : Fields}
    (hspec : Fields.find? (Value.pruneEntries out) "spec" = some spec)
    (hpods : HasPods kind spec (.ofFields pods)) :
    withPods kind spec (.ofFields pods) = spec ∧ ∃ again, PodSpec.layout.write pods = some (.ofFields again) ∧
      (Value.pruneEntries again = pods ↔ PodSpec.layout.Settled pods) := by
  have hplain := rewriteBody_isPlain hb h
  rw [Fields.find?_pruneEntries hplain.distinct, Option.filter_eq_some_iff, Option.map_eq_some_iff] at hspec
  obtain ⟨⟨written, hwritten, rfl⟩, -⟩ := hspec
  rcases rewriteBody_cases hb h with ⟨hp, rfl⟩ | ⟨spec, first, mark, w, rest, hspec, hfirst, -, hw, rfl⟩
  · -- there were no pods, and pruning brings none forth
    rw [Fields.find?_plain_of_mem hb.distinct (by decide), Option.map_eq_some_iff] at hwritten
    obtain ⟨spec, hspec, rfl⟩ := hwritten
    have hspecp := hb.of_find? hspec
    rw [hspecp.plain_eq, ← pods?_eq_some, pods?_prune hspecp, Option.map_eq_some_iff] at hpods
    obtain ⟨pods, hpods, -⟩ := hpods
    rw [hspec, Option.bind_some, hpods] at hp
    cases hp
  · have hspecp := hb.of_find? hspec
    rw [Fields.find?_set_self] at hwritten
    obtain rfl : withPods kind spec w = written := Option.some.inj hwritten
    obtain ⟨ps, hps, rfl⟩ := Layout.write_eq_some hw
    obtain ⟨again, hagain, hiff⟩ := Layout.write_prune (by decide) hw
    have hpruned := hfirst.prune hspecp
    rw [Value.prune] at hpruned
    rw [hfirst.prune_withPods hspecp rfl] at hpods ⊢
    have hsame := hpods.unique (hpruned.withPods _ none)
    rw [Value.map.injEq, and_iff_left rfl] at hsame
    subst hsame
    exact ⟨hpruned.withPods_withPods _ _, again, hagain, hiff⟩

theorem rewriteBody_find? {kind : Value} {body out : Fields} (hb : IsBody body)
    (h : rewriteBody kind body = some out) {name : String} (hname : name ∈ Value.wellKnown) (hne : name ≠ "spec") :
    Fields.find? out name = (Fields.find? body name).map Value.plain := by
  rcases rewriteBody_cases hb h with ⟨-, rfl⟩ | ⟨spec, pods, mark, w, rest, -, -, hleft, -, rfl⟩
  · exact Fields.find?_plain_of_mem hb.distinct hname
  · rw [Fields.find?_set_ne _ _ hne.symm, Fields.find?_plain_of_mem hleft.distinct hname, hleft.find? name hne]

/-! ## The entries of a manifest -/

variable {fs : Fields}

theorem find?_bodyOf {name : String} (h : name ∉ headerNames) :
    Fields.find? (bodyOf fs) name = (Fields.find? fs name).map Value.plain := by
  rw [bodyOf, Fields.find?_plainValues, Fields.find?_except h]

theorem isBody_bodyOf (h : Fields.Distinct fs) : IsBody (bodyOf fs) :=
  ⟨(h.filter _).map_value Value.plain, Fields.plainValues_values _⟩

variable {apiVersion kind metadata : Value} {body : Fields}

theorem named_manifest (hb : body.Named) (hno : Headless body) :
    (manifest apiVersion kind metadata body).Named := by
  have hmeta : Fields.Named ((.ofString "metadata", metadata) :: body) :=
    hb.cons (hno "metadata" (by decide)) metadata
  have hkind : Fields.Named ((.ofString "kind", kind) :: (.ofString "metadata", metadata) :: body) := by
    refine hmeta.cons ?_ kind
    rw [Fields.find?_cons, if_neg (by decide)]
    exact hno "kind" (by decide)
  refine hkind.cons ?_ apiVersion
  rw [Fields.find?_cons, if_neg (by decide), Fields.find?_cons, if_neg (by decide)]
  exact hno "apiVersion" (by decide)

theorem find?_manifest {name : String} (h : name ∉ headerNames) :
    Fields.find? (manifest apiVersion kind metadata body) name = Fields.find? body name := by
  simp only [headerNames, List.mem_cons, List.not_mem_nil, or_false, not_or] at h
  simp [manifest, Fields.find?_cons, Ne.symm h.1, Ne.symm h.2.1, Ne.symm h.2.2]

theorem except_manifest (hno : Headless body) :
    Fields.except (manifest apiVersion kind metadata body) headerNames = body :=
  hno.except

theorem Headless.rewriteBody {out : Fields} (hb : IsBody body) (h : rewriteBody kind body = some out)
    (hno : Headless body) : Headless out := by
  intro name hname
  have hwell := wellKnown_of_header hname
  rw [rewriteBody_find? hb h hwell.1 hwell.2, hno name hname]
  rfl

end KubeManifest.Resource
