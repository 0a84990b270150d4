import KubeManifest.Proofs.Value.Order
import KubeManifest.Resource

/-!
# The pods in a resource

* `Resource.pods?`, `Resource.withPods` : the specification of the pods in that of a resource, and another one in
  its place;
* `Resource.pods?_prune`, `Resource.HasPods.prune_withPods` : both get along with pruning;
* `Resource.LeftOf` : entries that differ from others in the specification alone;
* `Resource.take_put` : to take the specification of the pods out and to put one back is to set it in its place.
-/

namespace KubeManifest

namespace Fields

/-! ## Setting entries -/

theorem erase_set (fs : Fields) (name : String) (v : Value) : erase (set fs name v) name = erase fs name := by
  induction fs with
  | nil => simp [set, erase]
  | cons e fs ih =>
    obtain ⟨k, old⟩ := e
    rw [set]
    unfold erase at ih ⊢
    split <;> rename_i hk
    · simp [hk]
    · simp [hk, ih]

theorem erase_erase (fs : Fields) (name : String) : erase (erase fs name) name = erase fs name := by
  unfold erase
  rw [List.filter_filter]
  simp only [Bool.and_self]

theorem others_set {names : List String} {name : String} (h : name ∈ names) (fs : Fields) (v : Value) :
    Manifest.others names (set fs name v) = Manifest.others names fs := by
  have hany : ∀ k : Value, k.isText name = true → names.any k.isText = true :=
    fun k hk => List.any_eq_true.mpr ⟨name, h, hk⟩
  unfold Manifest.others
  induction fs with
  | nil => simp [set, hany (.ofString name) (by simp)]
  | cons e fs ih =>
    obtain ⟨k, old⟩ := e
    rw [set]
    split <;> rename_i hk
    · rw [List.filter_cons, List.filter_cons, hany k hk]
      rfl
    · rw [List.filter_cons, List.filter_cons, ih]

theorem others_erase {names : List String} {name : String} (h : name ∈ names) (fs : Fields) :
    Manifest.others names (erase fs name) = Manifest.others names fs := by
  unfold Manifest.others erase
  rw [List.filter_filter]
  refine List.filter_congr fun e _ => ?_
  change (!names.any e.1.isText && !e.1.isText name) = !names.any e.1.isText
  cases hk : e.1.isText name with
  | false => rw [Bool.not_false, Bool.and_true]
  | true =>
    rw [List.any_eq_true.mpr ⟨name, h, hk⟩]
    rfl

theorem others_pruneEntries (names : List String) (fs : Fields) :
    Manifest.others names (Value.pruneEntries fs) = Value.pruneEntries (Manifest.others names fs) :=
  (Value.pruneEntries_filter fs fun k => !names.any k.isText).symm

theorem pruneEntries_set {fs : Fields} {name : String} {old v : Value} (h : find? fs name = some old)
    (hold : old.prune.isNull = false) (hv : v.prune.isNull = false) :
    Value.pruneEntries (set fs name v) = set (Value.pruneEntries fs) name v.prune := by
  induction fs with
  | nil => cases h
  | cons e fs ih =>
    obtain ⟨k, w⟩ := e
    rw [find?_cons] at h
    rw [set]
    split at h <;> rename_i hk
    · obtain rfl : w = old := Option.some.inj h
      rw [if_pos hk, Value.pruneEntries, Value.pruneEntries, hv, hold]
      simp [set, hk]
    · rw [if_neg hk, Value.pruneEntries, Value.pruneEntries, ih h]
      cases w.prune.isNull <;> simp [set, hk]

theorem pruneEntries_erase (fs : Fields) (name : String) :
    Value.pruneEntries (erase fs name) = erase (Value.pruneEntries fs) name :=
  Value.pruneEntries_filter fs fun k => !k.isText name

theorem pruneEntries_set_erase (fs : Fields) (name : String) {v : Value} (hv : v.prune.isNull = false) :
    Value.pruneEntries (set (erase fs name) name v) = set (erase (Value.pruneEntries fs) name) name v.prune := by
  rw [set_of_find?_eq_none (find?_erase_self fs name), set_of_find?_eq_none (find?_erase_self _ name),
    Value.pruneEntries_append, pruneEntries_erase]
  simp [Value.pruneEntries, hv]

end Fields

/-! ## The place of the pods -/

namespace Resource

/-- The specification of the pods in that of a resource: it is that of a pod, and stands in the template of a
controller. -/
def pods? (kind spec : Value) : Option Value :=
  match spec with
  | .map fs mark =>
    if kind.isText "Pod" then some (.map fs mark)
    else if (Workload.ofKind? kind).isNone then none
    else
      match Fields.find? fs "template" with
      | some (.map template _) =>
        match Fields.find? template "spec" with
        | some (.map pods pmark) => some (.map pods pmark)
        | _ => none
      | _ => none
  | _ => none

def withSpec (template : Fields) (pods : Value) : Fields :=
  Fields.set (Fields.erase template "spec") "spec" pods

theorem get_withSpec_self (template : Fields) (pods : Value) : Fields.get (withSpec template pods) "spec" = pods :=
  Fields.get_set_self _ _ _

theorem get_withSpec_ne (template : Fields) (pods : Value) {name : String} (h : name ≠ "spec") :
    Fields.get (withSpec template pods) name = Fields.get template name := by
  rw [withSpec, Fields.get_set_ne _ _ (Ne.symm h), Fields.get, Fields.get, Fields.find?_erase h]

def withPods (kind spec pods : Value) : Value :=
  if kind.isText "Pod" then pods
  else
    match spec with
    | .map fs mark =>
      match Fields.find? fs "template" with
      | some (.map template tmark) => .map (Fields.set fs "template" (.map (withSpec template pods) tmark)) mark
      | _ => spec
    | _ => spec

/-- A specification that has pods is that of a pod, or that of a controller with a template for them. -/
inductive HasPods (kind : Value) : Value → Value → Prop
  | pod {fs : Fields} {mark : Option Mark} (h : kind.isText "Pod" = true) : HasPods kind (.map fs mark) (.map fs mark)
  | workload {fs template pods : Fields} {mark tmark pmark : Option Mark} (h : kind.isText "Pod" = false)
      (hw : (Workload.ofKind? kind).isNone = false) (ht : Fields.find? fs "template" = some (.map template tmark))
      (hp : Fields.find? template "spec" = some (.map pods pmark)) : HasPods kind (.map fs mark) (.map pods pmark)

theorem pods?_eq_some {kind spec pods : Value} : pods? kind spec = some pods ↔ HasPods kind spec pods := by
  constructor
  · intro h
    cases spec with
    | scalar s mark => cases h
    | list items mark => cases h
    | map fs mark =>
      rw [pods?] at h
      split at h
      · rename_i hpod
        obtain rfl : .map fs mark = pods := Option.some.inj h
        exact .pod hpod
      · rename_i hpod
        split at h
        · cases h
        · rename_i hw
          split at h
          · rename_i ht
            split at h
            · rename_i hp
              obtain rfl := Option.some.inj h
              exact .workload (eq_false_of_ne_true hpod) (eq_false_of_ne_true hw) ht hp
            · cases h
          · cases h
  · intro h
    cases h with
    | pod h => rw [pods?, if_pos h]
    | workload h hw ht hp => simp [pods?, h, hw, ht, hp]

theorem HasPods.isMap {kind spec pods : Value} (h : HasPods kind spec pods) : ∃ fs mark, pods = .map fs mark := by
  cases h <;> exact ⟨_, _, rfl⟩

theorem HasPods.spec_isMap {kind spec pods : Value} (h : HasPods kind spec pods) :
    ∃ fs mark, spec = .map fs mark := by
  cases h <;> exact ⟨_, _, rfl⟩

theorem HasPods.isPlain {kind spec pods : Value} (h : HasPods kind spec pods) (hs : spec.IsPlain) :
    pods.IsPlain := by
  cases h with
  | pod h => exact hs
  | workload h hw ht hp =>
    have ht := (Fields.IsPlain.of_map hs).of_find? ht
    exact (Fields.IsPlain.of_map ht).of_find? hp

theorem withPods_of_pod {kind : Value} (h : kind.isText "Pod" = true) (spec pods : Value) :
    withPods kind spec pods = pods := by
  unfold withPods
  rw [if_pos h]

theorem withPods_of_workload {kind : Value} {fs template : Fields} {mark tmark : Option Mark}
    (h : kind.isText "Pod" = false) (ht : Fields.find? fs "template" = some (.map template tmark)) (pods : Value) :
    withPods kind (.map fs mark) pods =
      .map (Fields.set fs "template" (.map (withSpec template pods) tmark)) mark := by
  simp [withPods, h, ht]

/-- The texts of the kind alone decide where the pods are. -/
theorem HasPods.of_text?_eq {kind kind' spec pods : Value} (h : HasPods kind spec pods)
    (hk : kind'.text? = kind.text?) :
    HasPods kind' spec pods := by
  have hpod : ∀ s, kind'.isText s = kind.isText s := fun s => by rw [Value.isText, Value.isText, hk]
  have hof : Workload.ofKind? kind' = Workload.ofKind? kind := by
    unfold Workload.ofKind?
    simp only [hpod]
  cases h with
  | pod h => exact .pod ((hpod _).trans h)
  | workload h hw ht hp => exact .workload ((hpod _).trans h) (hof ▸ hw) ht hp

theorem withPods_of_text?_eq {kind kind' : Value} (h : kind'.text? = kind.text?) (spec pods : Value) :
    withPods kind' spec pods = withPods kind spec pods := by
  have hpod : kind'.isText "Pod" = kind.isText "Pod" := by rw [Value.isText, Value.isText, h]
  unfold withPods
  rw [hpod]

theorem takePodSpec_of_none {kind : Value} {body : Fields}
    (h : (Fields.find? body "spec").bind (pods? kind) = none) :
    takePodSpec kind body = (none, body) := by
  unfold takePodSpec
  split
  · rename_i spec mark hspec
    rw [hspec, Option.bind_some, pods?] at h
    split
    · rename_i hpod
      rw [if_pos hpod] at h
      cases h
    · rename_i hpod
      rw [if_neg hpod] at h
      split
      · rfl
      · rename_i hw
        rw [if_neg hw] at h
        split
        · rename_i ht
          rw [ht] at h
          split
          · rename_i hp
            simp [hp] at h
          · rfl
        · rfl
  · rfl

theorem takePodSpec_fst (kind : Value) (body : Fields) :
    (takePodSpec kind body).1 = (Fields.find? body "spec").bind (pods? kind) := by
  cases h : (Fields.find? body "spec").bind (pods? kind) with
  | none => rw [takePodSpec_of_none h]
  | some pods =>
    obtain ⟨spec, hspec, hpods⟩ := Option.bind_eq_some_iff.mp h
    rw [pods?_eq_some] at hpods
    cases hpods with
    | pod hpod => simp [takePodSpec, hspec, hpod]
    | workload hpod hw ht hp => simp [takePodSpec, hspec, hpod, hw, ht, hp]

/-! ## Pruning -/

theorem HasPods.prune {kind spec pods : Value} (h : HasPods kind spec pods) (hs : spec.IsPlain) :
    HasPods kind spec.prune pods.prune := by
  cases h with
  | pod h => exact .pod h
  | @workload fs template pods mark tmark pmark h hw ht hp =>
    have hfs := Fields.IsPlain.of_map hs
    have htemplate := Fields.IsPlain.of_map (hfs.of_find? ht)
    have ht' : Fields.find? (Value.pruneEntries fs) "template" = some (.ofFields (Value.pruneEntries template)) := by
      rw [Fields.find?_pruneEntries hfs.distinct, ht]
      rfl
    have hp' : Fields.find? (Value.pruneEntries template) "spec" = some (.ofFields (Value.pruneEntries pods)) := by
      rw [Fields.find?_pruneEntries htemplate.distinct, hp]
      rfl
    exact .workload h hw ht' hp'

theorem exists_map_of_prune {v : Value} {fs : Fields} {mark : Option Mark} (h : v.prune = .map fs mark) :
    ∃ gs mark', v = .map gs mark' ∧ fs = Value.pruneEntries gs := by
  cases v with
  | scalar s mark => cases h
  | list items mark =>
    rw [Value.prune] at h
    split at h <;> cases h
  | map gs mark =>
    cases h
    exact ⟨gs, mark, rfl, rfl⟩

theorem exists_find?_of_pruneEntries {fs gs : Fields} {name : String} {mark : Option Mark} (hd : Fields.Distinct fs)
    (h : Fields.find? (Value.pruneEntries fs) name = some (.map gs mark)) :
    ∃ hs mark', Fields.find? fs name = some (.map hs mark') ∧ gs = Value.pruneEntries hs := by
  rw [Fields.find?_pruneEntries hd, Option.filter_eq_some_iff, Option.map_eq_some_iff] at h
  obtain ⟨⟨v, hv, hp⟩, -⟩ := h
  obtain ⟨hs, mark', rfl, heq⟩ := exists_map_of_prune hp
  exact ⟨hs, mark', hv, heq⟩

/-- Pruning takes no pods away and adds none. -/
theorem pods?_prune {kind spec : Value} (hs : spec.IsPlain) :
    pods? kind spec.prune = (pods? kind spec).map Value.prune := by
  cases h : pods? kind spec with
  | some pods =>
    rw [pods?_eq_some] at h
    exact pods?_eq_some.mpr (h.prune hs)
  | none =>
    refine Option.eq_none_iff_forall_ne_some.mpr fun pods hpods => ?_
    have hno : ∀ pods, ¬ HasPods kind spec pods := by
      intro pods hp
      rw [pods?_eq_some.mpr hp] at h
      cases h
    generalize hps : spec.prune = pruned at hpods
    rw [pods?_eq_some] at hpods
    cases hpods with
    | pod hpod =>
      obtain ⟨fs, mark, rfl, -⟩ := exists_map_of_prune hps
      exact hno _ (.pod hpod)
    | workload hpod hw ht hp =>
      obtain ⟨fs, mark, rfl, rfl⟩ := exists_map_of_prune hps
      have hfs := Fields.IsPlain.of_map hs
      obtain ⟨template, tmark, ht', rfl⟩ := exists_find?_of_pruneEntries hfs.distinct ht
      have htemplate := Fields.IsPlain.of_map (hfs.of_find? ht')
      obtain ⟨pods, pmark, hp', rfl⟩ := exists_find?_of_pruneEntries htemplate.distinct hp
      exact hno _ (.workload hpod hw ht' hp')

/-- The specification of a resource with other pods, after pruning. -/
theorem HasPods.prune_withPods {kind spec pods : Value} (h : HasPods kind spec pods) (hs : spec.IsPlain) {w : Value}
    (hw : w.prune.isNull = false) : (withPods kind spec w).prune = withPods kind spec.prune w.prune := by
  cases h with
  | pod h => rw [withPods_of_pod h, withPods_of_pod h]
  | @workload fs template pods mark tmark pmark h _ ht hp =>
    have hfs := Fields.IsPlain.of_map hs
    have ht' : Fields.find? (Value.pruneEntries fs) "template" = some (.ofFields (Value.pruneEntries template)) := by
      rw [Fields.find?_pruneEntries hfs.distinct, ht]
      rfl
    rw [withPods_of_workload h ht, Value.prune, Value.prune, withPods_of_workload h ht',
      Fields.pruneEntries_set ht rfl rfl, Value.prune, withSpec, Fields.pruneEntries_set_erase _ _ hw]
    rfl

/-! ## Other pods -/

theorem HasPods.withPods {kind spec pods : Value} (h : HasPods kind spec pods) (fs : Fields) (mark : Option Mark) :
    HasPods kind (withPods kind spec (.map fs mark)) (.map fs mark) := by
  cases h with
  | pod h =>
    rw [withPods_of_pod h]
    exact .pod h
  | workload h hw ht hp =>
    rw [withPods_of_workload h ht]
    exact .workload h hw (Fields.find?_set_self _ _ _) (Fields.find?_set_self _ _ _)

theorem HasPods.withPods_withPods {kind spec pods : Value} (h : HasPods kind spec pods) (v w : Value) :
    Resource.withPods kind (Resource.withPods kind spec v) w = Resource.withPods kind spec w := by
  cases h with
  | pod h => rw [withPods_of_pod h, withPods_of_pod h]
  | workload h hw ht hp =>
    rw [withPods_of_workload h ht, withPods_of_workload h ht,
      withPods_of_workload h (Fields.find?_set_self _ _ _), Fields.set_set, withSpec, withSpec, Fields.erase_set,
      Fields.erase_erase]
    rfl

theorem HasPods.withPods_inj {kind spec pods v w : Value} (h : HasPods kind spec pods) :
    Resource.withPods kind spec v = Resource.withPods kind spec w ↔ v = w := by
  refine ⟨fun heq => ?_, fun heq => by rw [heq]⟩
  cases h with
  | pod h => rwa [withPods_of_pod h, withPods_of_pod h] at heq
  | @workload fs template pods mark tmark pmark h hw ht hp =>
    have hfind : ∀ u, ((Resource.withPods kind (.map fs mark) u).fields?.bind (Fields.find? · "template")).bind
        (fun t => t.fields?.bind (Fields.find? · "spec")) = some u := by
      intro u
      rw [withPods_of_workload h ht]
      change (Fields.find? (Fields.set fs "template" _) "template").bind _ = some u
      rw [Fields.find?_set_self]
      exact Fields.find?_set_self _ _ _
    have hv := hfind v
    rw [heq, hfind w] at hv
    exact (Option.some.inj hv).symm

theorem HasPods.withPods_isPlain {kind spec pods w : Value} (h : HasPods kind spec pods) (hs : spec.IsPlain)
    (hw : w.IsPlain) : (Resource.withPods kind spec w).IsPlain := by
  cases h with
  | pod h =>
    rw [withPods_of_pod h]
    exact hw
  | @workload fs template pods mark tmark pmark h _ ht _ =>
    have hfs := Fields.IsPlain.of_map hs
    have htemplate := Fields.IsPlain.of_map (hfs.of_find? ht)
    have hnew : (withSpec template w).IsPlain := (htemplate.filter _).set _ hw
    rw [withPods_of_workload h ht]
    cases hs with
    | map keys distinct values =>
      cases tmark with
      | none => exact (hfs.set _ hnew.ofFields).ofFields
      | some m =>
        have := hfs.of_find? ht
        cases this

/-! ## Taking and putting -/

/-- Different entries with plain values. -/
structure IsBody (body : Fields) : Prop where
  distinct : Fields.Distinct body
  values : ∀ e ∈ body, e.2.IsPlain

theorem IsBody.of_find? {body : Fields} (h : IsBody body) {name : String} {v : Value}
    (hv : Fields.find? body name = some v) : v.IsPlain := by
  obtain ⟨k, hmem, -⟩ := Fields.mem_of_find? hv
  exact h.values _ hmem

/-- What is left of some entries without their pods: only the specification differs. That of a pod is gone, that of
a controller is in its place. -/
structure LeftOf (kind : Value) (body rest : Fields) : Prop extends IsBody rest where
  keys : ∀ e ∈ rest, ∃ e' ∈ body, e'.1 = e.1
  find? : ∀ name, name ≠ "spec" → Fields.find? rest name = Fields.find? body name
  others : Manifest.others Manifest.leadingNames rest = Manifest.others Manifest.leadingNames body
  pod : kind.isText "Pod" = true → rest = Fields.erase body "spec"
  controller : kind.isText "Pod" = false → ∃ v, rest = Fields.set body "spec" v

theorem LeftOf.isPlain {kind : Value} {body rest : Fields} (h : LeftOf kind body rest) (hb : body.IsPlain) :
    rest.IsPlain := by
  refine ⟨⟨fun e he => ?_, h.distinct⟩, h.values⟩
  obtain ⟨e', he', hk⟩ := h.keys e he
  exact hk ▸ hb.keys e' he'

theorem leftOf_erase {kind : Value} {body : Fields} (hk : kind.isText "Pod" = true) (h : IsBody body) :
    LeftOf kind body (Fields.erase body "spec") where
  distinct := h.distinct.filter _
  values e he := h.values e (List.mem_filter.mp he).1
  keys e he := ⟨e, (List.mem_filter.mp he).1, rfl⟩
  find? _ hname := Fields.find?_erase hname
  others := Fields.others_erase (by decide) body
  pod _ := rfl
  controller hno := by
    rw [hk] at hno
    cases hno

theorem leftOf_set {kind : Value} {body : Fields} (hk : kind.isText "Pod" = false) (h : IsBody body)
    (hspec : (Fields.find? body "spec").isSome = true) {v : Value} (hv : v.IsPlain) :
    LeftOf kind body (Fields.set body "spec" v) where
  distinct := h.distinct.set _ _
  values e he := by
    rcases Fields.mem_set he with he | he
    · exact h.values e he
    · exact he ▸ hv
  keys e he := by
    have hmem : e.1 ∈ (Fields.set body "spec" v).map Prod.fst := List.mem_map_of_mem he
    rw [Fields.map_fst_set hspec] at hmem
    obtain ⟨e', he', heq⟩ := List.mem_map.mp hmem
    exact ⟨e', he', heq⟩
  find? _ hname := Fields.find?_set_ne _ _ hname.symm
  others := Fields.others_set (by decide) _ _
  pod hyes := by
    rw [hk] at hyes
    cases hyes
  controller _ := ⟨v, rfl⟩

/-- To take the specification of the pods out of the entries of a resource and to put another one back is to set
it in its place. -/
theorem take_put {kind : Value} {body : Fields} (hb : IsBody body) {spec pods : Value}
    (hspec : Fields.find? body "spec" = some spec) (h : HasPods kind spec pods) :
    ∃ rest, takePodSpec kind body = (some pods, rest) ∧ LeftOf kind body rest ∧
      ∀ w, putPodSpec kind (Fields.plain rest) w =
        .ok (Fields.set (Fields.plain rest) "spec" (Resource.withPods kind spec w)) := by
  have hplain := hb.of_find? hspec
  cases h with
  | pod h =>
    refine ⟨Fields.erase body "spec", ?_, leftOf_erase h hb, fun w => ?_⟩
    · rw [takePodSpec, hspec]
      dsimp only
      rw [if_pos h]
    · rw [putPodSpec, if_pos h, withPods_of_pod h]
  | @workload fs template pods mark tmark pmark h hw ht hp =>
    have hfs := Fields.IsPlain.of_map hplain
    have htemplate := Fields.IsPlain.of_map (hfs.of_find? ht)
    have hmark : mark = none := by
      cases hplain
      rfl
    have htmark : tmark = none := by
      have := hfs.of_find? ht
      cases this
      rfl
    subst hmark htmark
    have hnew : (Value.ofFields (Fields.set fs "template" (.ofFields (Fields.erase template "spec")))).IsPlain :=
      (hfs.set _ (htemplate.filter _).ofFields).ofFields
    have hleft := leftOf_set h hb (by rw [hspec]; rfl) hnew
    refine ⟨_, ?_, hleft, fun w => ?_⟩
    · simp [takePodSpec, hspec, h, hw, ht, hp]
    · have hfind : Fields.find? (Fields.plain _) "spec" = _ := Fields.find?_plain_of_mem hleft.distinct (by decide)
      rw [Fields.find?_set_self, Option.map_some, hnew.plain_eq] at hfind
      rw [withPods_of_workload h ht]
      simp [putPodSpec, h, hfind, Fields.find?_set_self, Fields.set_set, withSpec]

end Resource

end KubeManifest
