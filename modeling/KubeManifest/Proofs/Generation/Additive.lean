import KubeManifest.Generation.Assembly
import KubeManifest.Proofs.Fragment.Enrich
import KubeManifest.Proofs.Resource.Additive

/-!
# What users write is kept

* `Fragment.Acceptable` : fragments with texts as keys and without gaps, whose typed entries are of their types;
* `Fragment.Exempt` : blank texts at the places where they count as missing;
* `Fragment.Retained` : every other scalar of a fragment stands at its place in a manifest;
* `Config.retained_iff` : a manifest retains its fragment exactly if the fragment is no controller, or else its pods
  are a mapping and no other scalar than a blank text stands for the missing name of its first container.
-/

namespace KubeManifest

open Value

namespace Fragment

def Blank : Scalar → Prop
  | .text s _ => Text.isBlankText s = true
  | _ => False

def firstName : List Step :=
  Resource.podsPlace ++ PodSpec.firstName

/-- A blank text that counts as missing: a kind, a version, the name in the metadata or that of the first
container. -/
def Exempt (fs : Fields) (path : List Step) (s : Scalar) : Prop :=
  Blank s ∧ (path = [.key "kind"] ∨ path = [.key "apiVersion"] ∨ NamesMetadata fs path ∨ path = firstName)

def podsPlace? (kind : Value) : Option (List Step) :=
  if kind.isText "Pod" then some [.key "spec"]
  else (Workload.ofKind? kind).map fun _ => Resource.podsPlace

/-- A fragment with different texts as keys, no null and no empty list in its lists, mappings as labels and
annotations, and lists as containers, variables, ports and mounts. -/
structure Acceptable (kind : Value) (fs : Fields) : Prop where
  regular : (Value.ofFields fs).Regular
  coherent : (Value.ofFields fs).Coherent
  metadata : Resource.TypedMaps (at? (.ofFields fs) [.key "metadata"])
  pods : ∀ place, podsPlace? kind = some place → Resource.TypedLists (at? (.ofFields fs) place)

/-- Whether every scalar of a fragment but null and the exempt ones stands at its place in a manifest. -/
def Retained (fs out : Fields) : Prop :=
  ∀ path s mark, s ≠ .null → at? (.ofFields fs) path = some (.scalar s mark) → ¬ Exempt fs path s →
    at? (.ofFields out) path = some (.scalar s mark)

/-- Whether the pods are a mapping, or hold nothing that is not exempt. -/
def HoldsPods (fs : Fields) : Prop :=
  (∃ pods mark, at? (.ofFields fs) Resource.podsPlace = some (.map pods mark)) ∨
    ∀ path s mark, s ≠ .null → at? (.ofFields fs) (Resource.podsPlace ++ path) = some (.scalar s mark) →
      Exempt fs (Resource.podsPlace ++ path) s

/-- Whether no scalar but null and blank texts counts as the missing name of the first container, where no default
container gives it one. -/
def HoldsName (d : PodSpec) (fs : Fields) : Prop :=
  d.list = [] → ∀ s mark, at? (.ofFields fs) firstName = some (.scalar s mark) → PodSpec.CountsAsNameless s →
    s = .null ∨ Blank s

/-! ## Enriching -/

variable {fs e : Fields} {name : String}

theorem blank_of_isVacant {s : Scalar} {mark : Option Mark} (h : isVacant (.scalar s mark) = true)
    (hs : s ≠ .null) :
    Blank s := by
  cases s with
  | null => exact absurd rfl hs
  | text s style => exact h
  | _ => cases h

/-- The texts that count as no name are the blank ones. -/
theorem blank_of_countsAsNameless {t : String} {style : TextStyle} (h : PodSpec.CountsAsNameless (.text t style)) :
    Blank (.text t style) := by
  rw [PodSpec.CountsAsNameless, PodSpec.lacksName] at h
  split at h
  · rename_i hempty
    obtain rfl : t = "" := by simpa [isTruthy] using hempty
    rfl
  · exact Except.ok.inj h

theorem exempt_of_supplied {path : List Step} {s : Scalar} {mark : Option Mark} (h : Supplied fs path)
    (hs : s ≠ .null)
    (hat : at? (.ofFields fs) path = some (.scalar s mark)) : Exempt fs path s := by
  cases h with
  | @header other path hname hvacant =>
    obtain ⟨_, _, x, hmap, hx, hrest⟩ := exists_map_of_at?_key hat
    obtain ⟨rfl, -⟩ := Value.map.inj hmap
    rw [Fields.get, hx] at hvacant
    obtain ⟨s', m', rfl⟩ := exists_scalar_of_isVacant hvacant
    cases path with
    | cons step path => cases step <;> cases hrest
    | nil =>
      obtain ⟨rfl, -⟩ := Value.scalar.inj (Option.some.inj hrest)
      refine ⟨blank_of_isVacant hvacant hs, ?_⟩
      rcases hname with rfl | rfl
      · exact .inl rfl
      · exact .inr (.inl rfl)
  | metadata h =>
    obtain ⟨_, _, x, hmap, hx, hrest⟩ := exists_map_of_at?_key hat
    obtain ⟨rfl, -⟩ := Value.map.inj hmap
    rw [Fields.get, hx] at h
    obtain ⟨m, rfl⟩ := isNull_iff.mp h
    obtain ⟨rfl, -⟩ := Value.scalar.inj (Option.some.inj hrest)
    exact absurd rfl hs
  | name hname hv =>
    rw [hat] at hv
    exact ⟨blank_of_isVacant hv hs, .inr (.inr (.inl hname))⟩

theorem Enriched.at?_of_not_exempt (hc : (Value.ofFields fs).Coherent) (h : Enriched fs name e) {path : List Step}
    {s : Scalar} {mark : Option Mark} (hs : s ≠ .null) (hat : at? (.ofFields fs) path = some (.scalar s mark))
    (hno : ¬ Exempt fs path s) : at? (.ofFields e) path = some (.scalar s mark) :=
  (h.alike hc path).elim (fun hl => hl.scalar hat) fun hsup => absurd (exempt_of_supplied hsup hs hat) hno

theorem NamesMetadata.exists_append {path : List Step} (h : NamesMetadata fs path) :
    ∃ q, path = q ++ [.key "name"] := by
  rcases h with rfl | ⟨ms, mark, -, q, gs, m, rfl, -, -⟩
  · exact ⟨[.key "metadata"], rfl⟩
  · exact ⟨q, rfl⟩

/-- At the places of typed entries nothing is supplied. -/
theorem Enriched.alike_of_last (hc : (Value.ofFields fs).Coherent) (h : Enriched fs name e) {other : String}
    {path q : List Step} {last : Step} (hpath : .key other :: path = q ++ [last]) (hlast : last ≠ .key "name")
    (hother : other ≠ "kind" ∧ other ≠ "apiVersion") (hne : path ≠ []) :
    AlikeAt (.ofFields fs) (.ofFields e) (.key other :: path) := by
  refine (h.alike hc _).resolve_right fun hsup => ?_
  cases hsup with
  | header hname hvacant => exact hname.elim hother.1 hother.2
  | metadata hnull => exact hne rfl
  | name hname hv =>
    obtain ⟨q', hq'⟩ := hname.exists_append
    rw [hpath] at hq'
    exact hlast (List.cons.inj (List.append_inj_right' hq' rfl)).1

theorem listOrNull_of_alikeAt {v w : Value} {path : List Step} (h : AlikeAt v w path)
    (hv : Resource.ListOrNull (v.at? path)) : Resource.ListOrNull (w.at? path) := by
  intro y hy
  obtain ⟨x, hx, hxy⟩ := h.of_some hy
  cases hxy with
  | scalar s mark => exact hv _ hx
  | list xs ys mark mark' => exact .inr ⟨_, _, rfl⟩
  | map gs gs' mark mark' => rcases hv _ hx with hn | ⟨_, _, heq⟩ <;> contradiction

theorem mapOrNull_of_alikeAt {v w : Value} {path : List Step} (h : AlikeAt v w path)
    (hv : Resource.MapOrNull (v.at? path)) : Resource.MapOrNull (w.at? path) := by
  intro y hy
  obtain ⟨x, hx, hxy⟩ := h.of_some hy
  cases hxy with
  | scalar s mark => exact hv _ hx
  | list xs ys mark mark' => rcases hv _ hx with hn | ⟨_, _, heq⟩ <;> contradiction
  | map gs gs' mark mark' => exact .inr ⟨_, _, rfl⟩

theorem at?_bodyOf {other : String} (hother : other ∉ Resource.headerNames)
    (ht : (Fields.get e other).Textual) (path : List Step) :
    at? (.ofFields (Resource.bodyOf e)) (.key other :: path) = (at? (.ofFields e) (.key other :: path)).map plain := by
  rw [at?_key, at?_key, Resource.find?_bodyOf hother]
  rw [Fields.get] at ht
  cases hx : Fields.find? e other with
  | none => rfl
  | some x =>
    rw [hx] at ht
    exact ht.at?_plain path

/-- The typed lists of a fragment are lists after enriching, and so are those of the body that is read. -/
theorem Enriched.typedLists (hc : (Value.ofFields fs).Coherent) (hr : (Value.ofFields fs).Regular)
    (h : Enriched fs name e) {place : List Step}
    (hplace : Resource.TypedLists (at? (.ofFields fs) (.key "spec" :: place))) :
    Resource.TypedLists (at? (.ofFields (Resource.bodyOf e)) (.key "spec" :: place)) := by
  have ht : (Fields.get e "spec").Textual := (h.regular_of_header hr (.inr (by decide))).textual
  have hlist : ∀ (rest : List Step) (last : Step), last ≠ .key "name" →
      Resource.ListOrNull ((at? (.ofFields fs) (.key "spec" :: place)).bind (·.at? (rest ++ [last]))) →
      Resource.ListOrNull
        ((at? (.ofFields (Resource.bodyOf e)) (.key "spec" :: place)).bind (·.at? (rest ++ [last]))) := by
    intro rest last hlast hv
    rw [← at?_append] at hv ⊢
    rw [List.cons_append, at?_bodyOf (by decide) ht]
    refine (listOrNull_of_alikeAt ?_ hv).plain
    exact h.alike_of_last hc (q := .key "spec" :: (place ++ rest)) (by simp) hlast (by decide) (by simp)
  refine ⟨hlist [] _ (by decide) hplace.containers, fun i part hpart => ?_⟩
  refine hlist [.key "containers", .item i] (.key part) ?_ (hplace.parts i part hpart)
  rintro heq
  obtain rfl := Step.key.inj heq
  revert hpart
  decide

/-- Labels and annotations of a fragment are mappings after enriching. -/
theorem Enriched.typedMaps (hc : (Value.ofFields fs).Coherent) (h : Enriched fs name e)
    (hmaps : Resource.TypedMaps (at? (.ofFields fs) [.key "metadata"])) :
    Resource.TypedMaps (at? (.ofFields e) [.key "metadata"]) := by
  have hmap : ∀ last : String, last ≠ "name" →
      Resource.MapOrNull ((at? (.ofFields fs) [.key "metadata"]).bind (·.at? [.key last])) →
      Resource.MapOrNull ((at? (.ofFields e) [.key "metadata"]).bind (·.at? [.key last])) := by
    intro last hlast hv
    rw [← at?_append] at hv ⊢
    refine mapOrNull_of_alikeAt ?_ hv
    refine h.alike_of_last hc (q := [.key "metadata"]) rfl (fun heq => hlast (Step.key.inj heq)) (by decide) ?_
    exact List.cons_ne_nil _ _
  exact ⟨hmap "labels" (by decide) hmaps.labels, hmap "annotations" (by decide) hmaps.annotations⟩

/-- What is not supplied of an enriched fragment has no gaps. -/
theorem Enriched.solid (hr : (Value.ofFields fs).Regular) (h : Enriched fs name e) {other : String}
    {path : List Step}
    (hno : ¬ Supplied fs (.key other :: path)) : (Fields.get e other).Solid := by
  refine (h.regular_of_header hr ?_).solid
  cases hv : isVacant (Fields.get fs other) with
  | false => exact .inl rfl
  | true =>
    exact .inr ⟨fun hkind => hno (.header (.inl hkind) hv), fun hversion => hno (.header (.inr hversion) hv)⟩

end Fragment

/-! ## Manifests -/

theorem Manifest.at?_arrange_of_keeps {e written : Fields} {lost : List Step → Scalar → Prop} {name : String}
    {path : List Step} {s : Scalar} {mark : Option Mark} (hk : Keeps lost (.ofFields e) (.ofFields written))
    (hnamed : written.Named) (hsolid : (Fields.get e name).Solid) (hs : s ≠ .null)
    (hat : at? (.ofFields e) (.key name :: path) = some (.scalar s mark)) (hno : ¬ lost (.key name :: path) s) :
    at? (.ofFields (arrange written)) (.key name :: path) = some (.scalar s mark) := by
  have hfirm : firm? (.ofFields e) (.key name :: path) = some (.scalar s mark) := by
    rw [firm?_key hs, hsolid.firm?_eq]
    obtain ⟨_, _, x, hmap, hx, hrest⟩ := exists_map_of_at?_key hat
    obtain ⟨rfl, -⟩ := Value.map.inj hmap
    rw [Fields.get, hx]
    exact hrest
  have hsurv : (Value.scalar s mark).survives = true := bne_iff_ne.mpr hs
  exact at?_arrange hnamed (hk _ s mark hs hfirm hno) hsurv

namespace Config

open Fragment

variable {config : Config} {d : PodSpec} {info : Classification} {filename : String} {fs e out : Fields}
  {r r' : Resource}

theorem exists_toFields? {r : Resource} (h : (Exportable.resource r).tree = .ok out) :
    ∃ written, r.toFields? = .ok written ∧ out = Manifest.arrange written := by
  obtain ⟨written, hw, h⟩ := bind_eq_ok.mp h
  exact ⟨written, hw, (Except.ok.inj h).symm⟩

/-- A fragment on its way to a manifest. -/
structure Exported (config : Config) (d : PodSpec) (fs e : Fields) (r : Resource) (written : Fields) : Prop where
  enriched : ∃ name, Enriched fs name e
  acceptable : Acceptable (Fields.get e "kind") fs
  read : Resource.ReadFrom e r
  filled : ∃ r', config.fill d r = .ok r' ∧ r'.toFields? = .ok written

namespace Exported

variable {written : Fields} (h : Exported config d fs e r written)
include h

theorem keyed : e.Keyed := by
  obtain ⟨name, henriched⟩ := h.enriched
  exact henriched.keyed h.acceptable.regular.keyed

theorem textual {other : String} (hother : other ∉ Resource.headerNames) : (Fields.get e other).Textual := by
  obtain ⟨name, henriched⟩ := h.enriched
  refine (henriched.regular_of_header h.acceptable.regular (.inr ⟨?_, ?_⟩)).textual <;> rintro rfl <;>
    exact hother (by decide)

theorem keeps_metadata : Keeps nothing (Fields.get e "metadata") r.metadata.toValue := by
  obtain ⟨name, henriched⟩ := h.enriched
  obtain ⟨ms, mark, hms⟩ := henriched.metadata
  have hget : Fields.get e "metadata" = .map ms mark := by
    rw [Fields.get, hms]
    rfl
  have hmaps := henriched.typedMaps h.acceptable.coherent h.acceptable.metadata
  have hat : at? (.ofFields e) [.key "metadata"] = some (.map ms mark) := by
    rw [at?_of_find? hms, at?_nil]
  rw [hat] at hmaps
  have hregular : (Fields.get e "metadata").Regular :=
    henriched.regular_of_header h.acceptable.regular (.inr (by decide))
  rw [hget] at hregular
  exact h.read.keeps_metadata hget hregular.textual hmaps

theorem keeps {lost : List Step → Scalar → Prop} {body : Fields}
    (hp : Resource.Placed lost (Resource.bodyOf e) body)
    (hwritten : written = Resource.manifest r.apiVersion r.kind r.metadata.toValue body) :
    Keeps lost (.ofFields e) (.ofFields written) ∧ written.Named := by
  rw [hwritten, h.read.apiVersion, h.read.kind]
  exact ⟨hp.keeps_manifest (fun name hname => h.textual hname) h.keeps_metadata,
    Resource.named_manifest hp.named hp.header⟩

/-- Scalars that are neither exempt nor lost on the way are retained. -/
theorem retained {lost : List Step → Scalar → Prop} (hk : Keeps lost (.ofFields e) (.ofFields written))
    (hnamed : written.Named)
    (hlost : ∀ path s mark, s ≠ .null → at? (.ofFields fs) path = some (.scalar s mark) → lost path s →
      Exempt fs path s) :
    Retained fs (Manifest.arrange written) := by
  intro path s mark hs hat hno
  obtain ⟨name, henriched⟩ := h.enriched
  have hsupplied : ¬ Supplied fs path := fun hsup => hno (exempt_of_supplied hsup hs hat)
  have hate := henriched.at?_of_not_exempt h.acceptable.coherent hs hat hno
  cases path with
  | nil => cases hat
  | cons step path =>
    cases step with
    | item i => cases hat
    | key other =>
      exact Manifest.at?_arrange_of_keeps hk hnamed (henriched.solid h.acceptable.regular hsupplied) hs hate
        fun hl => hno (hlost _ s mark hs hat hl)

/-! ### Other kinds -/

theorem retained_of_not_controller (hno : (Workload.ofKind? (Fields.get e "kind")).isSome = false) :
    Retained fs (Manifest.arrange written) := by
  obtain ⟨r', hfill, hw⟩ := h.filled
  rw [Config.fill, Resource.workload?, h.read.kind, if_neg (by rw [hno]; decide)] at hfill
  obtain rfl : r = r' := Except.ok.inj hfill
  have hlists : (Fields.get e "kind").isText "Pod" = true →
      Resource.TypedLists (Fields.find? (Resource.bodyOf e) "spec") := by
    intro hpod
    obtain ⟨name, henriched⟩ := h.enriched
    have htyped := henriched.typedLists h.acceptable.coherent h.acceptable.regular
      (h.acceptable.pods [.key "spec"] (by rw [podsPlace?, if_pos hpod]))
    have hat : at? (.ofFields (Resource.bodyOf e)) [.key "spec"] = Fields.find? (Resource.bodyOf e) "spec" :=
      at?_singleton_key _ _ _
    rwa [hat] at htyped
  obtain ⟨body, hwritten, hp⟩ := Resource.placed_of_read h.keyed h.read hno hlists hw
  obtain ⟨hk, hnamed⟩ := h.keeps hp hwritten
  exact h.retained hk hnamed fun _ _ _ _ _ hl => hl.elim

/-! ### Controllers -/

/-- The manifest of a controller, and the pods in it. -/
theorem controller (hyes : (Workload.ofKind? (Fields.get e "kind")).isSome = true) :
    ∃ p w, ((r.podSpec.getD {}).merge d (.ofString config.appName)).finished = .ok p ∧ p.toValue? = .ok w ∧
      Keeps (Resource.lostInController d (Resource.bodyOf e)) (.ofFields e) (.ofFields written) ∧ written.Named ∧
      ∀ path, firm? (.ofFields written) (Resource.podsPlace ++ path) = w.firm? path := by
  obtain ⟨r', hfill, hw⟩ := h.filled
  rw [Config.fill, Resource.workload?, h.read.kind, if_pos hyes] at hfill
  obtain ⟨name, henriched⟩ := h.enriched
  have hplace : podsPlace? (Fields.get e "kind") = some Resource.podsPlace := by
    obtain ⟨w, hw⟩ := Option.isSome_iff_exists.mp hyes
    rw [podsPlace?, if_neg (by rw [Resource.isText_pod_of_workload hyes]; decide), hw]
    rfl
  have hlists := henriched.typedLists h.acceptable.coherent h.acceptable.regular (h.acceptable.pods _ hplace)
  obtain ⟨body, p, w, hwritten, hp, hmerge, hpw, hfirm⟩ :=
    Resource.placed_of_merge h.keyed h.read hyes hlists hfill hw
  obtain ⟨hk, hnamed⟩ := h.keeps hp hwritten
  refine ⟨p, w, hmerge, hpw, hk, hnamed, fun path => ?_⟩
  rw [← hfirm path, hwritten]
  change (Fields.find? (Resource.manifest _ _ _ body) "spec").bind _ = (Fields.find? body "spec").bind _
  rw [Resource.find?_manifest (by decide)]

/-- What stands at the place of the pods before they are merged. -/
theorem at?_bodyOf_podsPlace (path : List Step) :
    at? (.ofFields (Resource.bodyOf e)) (Resource.podsPlace ++ path) =
      (at? (.ofFields e) (Resource.podsPlace ++ path)).map plain :=
  at?_bodyOf (by decide) (h.textual (by decide)) _

theorem retained_of_holds (hyes : (Workload.ofKind? (Fields.get e "kind")).isSome = true) (hpods : HoldsPods fs)
    (hname : HoldsName d fs) : Retained fs (Manifest.arrange written) := by
  obtain ⟨p, w, -, -, hk, hnamed, -⟩ := h.controller hyes
  refine h.retained hk hnamed ?_
  rintro path s mark hs hat ⟨rest, rfl, hno | ⟨rfl, hd, hless⟩⟩
  · rcases hpods with ⟨pods, m, hmap⟩ | hexempt
    · obtain ⟨name, henriched⟩ := h.enriched
      have hplace : Resource.podsPlace = [.key "spec", .key "template"] ++ [.key "spec"] := rfl
      have halike : AlikeAt (.ofFields fs) (.ofFields e) Resource.podsPlace :=
        henriched.alike_of_last h.acceptable.coherent hplace (by decide) (by decide) (by simp)
      obtain ⟨gs, m', hgs⟩ := halike.map hmap
      have hbody := h.at?_bodyOf_podsPlace []
      rw [List.append_nil, hgs] at hbody
      exact absurd hbody (hno _ _)
    · exact hexempt rest s mark hs hat
  · rcases hname hd s mark hat hless with hnull | hblank
    · exact absurd hnull hs
    · exact ⟨hblank, .inr (.inr (.inr rfl))⟩

/-- What remains of the merged pods stands at their place in the manifest. -/
theorem at?_podsPlace (hyes : (Workload.ofKind? (Fields.get e "kind")).isSome = true) :
    ∃ p w, ((r.podSpec.getD {}).merge d (.ofString config.appName)).finished = .ok p ∧ p.toValue? = .ok w ∧
      ∀ path v, w.firm? path = some v → v.survives = true →
        at? (.ofFields (Manifest.arrange written)) (Resource.podsPlace ++ path) = some v.prune := by
  obtain ⟨p, w, hmerge, hpw, -, hnamed, hfirm⟩ := h.controller hyes
  refine ⟨p, w, hmerge, hpw, fun path v hv hsurv => ?_⟩
  rw [← hfirm path] at hv
  exact Manifest.at?_arrange hnamed hv hsurv

theorem holdsPods (hyes : (Workload.ofKind? (Fields.get e "kind")).isSome = true)
    (hretained : Retained fs (Manifest.arrange written)) : HoldsPods fs := by
  obtain ⟨p, w, -, hpw, hplace⟩ := h.at?_podsPlace hyes
  obtain ⟨_, -, rfl⟩ := PodSpec.toValue?_eq_ok hpw
  have hmap := hplace [] _ rfl rfl
  rw [List.append_nil] at hmap
  by_cases hpods : ∃ pods mark, at? (.ofFields fs) Resource.podsPlace = some (.map pods mark)
  · exact .inl hpods
  · refine .inr fun path s mark hs hat => Classical.byContradiction fun hno => ?_
    have hout := hretained _ s mark hs hat hno
    rw [at?_append, hmap] at hout
    rw [at?_append, Option.bind_eq_some_iff] at hat
    obtain ⟨x, hx, hat⟩ := hat
    -- no path leads both through a mapping and through what is none
    cases x with
    | map pods m => exact hpods ⟨pods, m, hx⟩
    | scalar _ _ =>
      cases path with
      | nil => cases hout
      | cons step path => cases step <;> cases hat
    | list _ _ =>
      cases path with
      | nil => cases hout
      | cons step path =>
        cases step with
        | key name => cases hat
        | item i => cases hout

theorem holdsName (hyes : (Workload.ofKind? (Fields.get e "kind")).isSome = true)
    (hretained : Retained fs (Manifest.arrange written)) : HoldsName d fs := by
  intro hd s mark hat hless
  by_cases hnull : s = .null
  · exact .inl hnull
  refine .inr (Classical.byContradiction fun hblank => ?_)
  have hno : ¬ Exempt fs firstName s := fun hexempt => hblank hexempt.1
  obtain ⟨name, henriched⟩ := h.enriched
  have hate : at? (.ofFields e) (Resource.podsPlace ++ PodSpec.firstName) = some (.scalar s mark) :=
    henriched.at?_of_not_exempt h.acceptable.coherent hnull hat hno
  have hbody := h.at?_bodyOf_podsPlace PodSpec.firstName
  rw [hate, at?_append, Option.map_some] at hbody
  obtain ⟨pods, hpods, hfirst⟩ := Option.bind_eq_some_iff.mp hbody
  obtain ⟨fs', mark', _, rfl, -, -⟩ := exists_map_of_at?_key hfirst
  obtain ⟨q, hq, hread⟩ := h.read.read?_of_at? h.keyed hyes hpods
  obtain ⟨p, w, hmerge, hpw, hplace⟩ := h.at?_podsPlace hyes
  rw [hq] at hmerge
  have hfallback := hplace _ _ (PodSpec.firm?_of_merge hread hfirst hless hd hmerge rfl hpw) rfl
  have hout := hretained firstName s mark hnull hat hno
  obtain ⟨rfl, -⟩ := Value.scalar.inj (Option.some.inj (hout.symm.trans hfallback))
  exact hblank (blank_of_countsAsNameless hless)

end Exported

/-- **A manifest holds every scalar of its fragment** at its place, but for null and the exempt ones, exactly if the
fragment is no controller, or its pods and the name of its first container hold nothing that gets lost. -/
theorem retained_iff (he : enrich config.versions info filename config.appName fs = .ok e)
    (hfs : Acceptable (Fields.get e "kind") fs) (hread : Resource.ofFields e = .ok r)
    (hfill : config.fill d r = .ok r') (htree : (Exportable.resource r').tree = .ok out) :
    Retained fs out ↔
      ((Workload.ofKind? (Fields.get e "kind")).isSome = true → HoldsPods fs ∧ HoldsName d fs) := by
  obtain ⟨written, hwritten, rfl⟩ := exists_toFields? htree
  have h : Exported config d fs e r written :=
    ⟨⟨_, enriched_of_enrich he⟩, hfs, Resource.readFrom_of_ofFields hread, r', hfill, hwritten⟩
  constructor
  · exact fun hretained hyes => ⟨h.holdsPods hyes hretained, h.holdsName hyes hretained⟩
  · intro hholds
    cases hyes : (Workload.ofKind? (Fields.get e "kind")).isSome with
    | false => exact h.retained_of_not_controller hyes
    | true => exact h.retained_of_holds hyes (hholds hyes).1 (hholds hyes).2

/-- A deployment with a text in the place of its pods loses it. -/
theorem retained_iff_text :
    let config : Config := { appName := "web", fragmentsDir := {}, outputDir := {} }
    let info : Classification := ⟨some "web", some "deployment", "yml", some "Deployment"⟩
    let fragment (pods : Value) : Fields :=
      [(.ofString "spec", .ofFields [(.ofString "template", .ofFields [(.ofString "spec", pods)])])]
    let version : Value × Value := (.ofString "apiVersion", .ofString "extensions/v1beta1")
    let kind : Value × Value := (.ofString "kind", .ofString "Deployment")
    let metadata : Value × Value := (.ofString "metadata", .ofFields [(.ofString "name", .ofString "web")])
    let e := fragment (.ofString "keep me") ++ [kind, version, metadata]
    let r : Resource := {
      kind := kind.2
      apiVersion := version.2
      metadata := { name := .ofString "web" }
      body := fragment (.ofString "keep me") }
    let out := [version, kind, metadata] ++ fragment (.ofFields [])
    enrich config.versions info "web-deployment.yml" config.appName (fragment (.ofString "keep me")) = .ok e ∧
      Acceptable (Fields.get e "kind") (fragment (.ofString "keep me")) ∧ Resource.ofFields e = .ok r ∧
      config.fill {} r = .ok { r with podSpec := some {} } ∧
      (Exportable.resource { r with podSpec := some {} }).tree = .ok out ∧
      ¬ Retained (fragment (.ofString "keep me")) out := by
  intro config info fragment version kind metadata e r out
  have he : enrich config.versions info "web-deployment.yml" config.appName (fragment (.ofString "keep me")) = .ok e := by
    rfl
  have hread : Resource.ofFields e = .ok r := by rfl
  have hfill : config.fill {} r = .ok { r with podSpec := some {} } := by rfl
  have htree : (Exportable.resource { r with podSpec := some {} }).tree = .ok out := by rfl
  have hplain : ∀ name v, v.IsPlain → (Value.ofFields [(.ofString name, v)]).IsPlain := fun name v hv =>
    .map (List.forall_mem_singleton.mpr ⟨name, rfl⟩) (by simp [Fields.Distinct]) (List.forall_mem_singleton.mpr hv)
  have hsolid : ∀ name v, v.Solid → (Value.ofFields [(.ofString name, v)]).Solid :=
    fun name v hv => .map (List.forall_mem_singleton.mpr hv)
  have hpods := hplain "spec" _ (hplain "template" _ (hplain "spec" _ (.scalar (.text "keep me" .plain) none)))
  have hfs : Acceptable (Fields.get e "kind") (fragment (.ofString "keep me")) :=
    { regular := ⟨hpods.textual, hsolid "spec" _ (hsolid "template" _ (hsolid "spec" _ (.scalar _ _)))⟩
      coherent := hpods.coherent
      metadata := ⟨fun x hx => (by cases hx), fun x hx => (by cases hx)⟩
      pods := by
        intro place hplace
        obtain rfl : Resource.podsPlace = place := Option.some.inj hplace
        exact ⟨fun x hx => (by cases hx), fun i name hname x hx => (by cases hx)⟩ }
  refine ⟨he, hfs, hread, hfill, htree, fun hretained => ?_⟩
  rcases ((retained_iff he hfs hread hfill htree).mp hretained rfl).1 with ⟨pods, mark, hmap⟩ | hexempt
  · cases hmap
  · have hblank := (hexempt [] (.text "keep me" .plain) none (by decide) rfl).1
    exact absurd hblank (by unfold Blank; decide)

end Config

end KubeManifest
