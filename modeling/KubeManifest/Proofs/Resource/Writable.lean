import KubeManifest.Proofs.Merge.Whole
import KubeManifest.Proofs.Resource.Additive

/-!
# Resources that can be written

* `Resource.HasPlace` : entries in which the specification of the pods of a controller has its place;
* `Resource.exists_toValue?_iff` : a resource with pods can be written exactly if these can, and have their place;
* `Resource.ownsPods_of_ofFields` : only pods and controllers are read with pods.
-/

namespace KubeManifest

open Value

namespace Resource

def MapOrMissing (v : Option Value) : Prop :=
  ∀ x, v = some x → ∃ fs mark, x = .map fs mark

/-- Entries in which the specification of the pods of a controller has its place: nothing but mappings stand on the
way to it. -/
structure HasPlace (body : Fields) : Prop where
  spec : MapOrMissing (at? (.ofFields body) [.key "spec"])
  template : MapOrMissing (at? (.ofFields body) [.key "spec", .key "template"])

def OwnsPods (r : Resource) : Prop :=
  r.kind.isText "Pod" = true ∨ r.workload?.isSome

/-! ## The place of the pods -/

theorem mapOrMissing_iff {v : Option Value} :
    MapOrMissing v ↔ ∃ fs mark, v.getD (.ofFields []) = .map fs mark := by
  cases v with
  | none => exact iff_of_true (fun x hx => by cases hx) ⟨[], none, rfl⟩
  | some v => exact ⟨fun h => h v rfl, fun h x hx => Option.some.inj hx ▸ h⟩

theorem at?_template_of_getD {body spec : Fields} {mark : Option Mark}
    (h : (Fields.find? body "spec").getD (.ofFields []) = .map spec mark) :
    at? (.ofFields body) [.key "spec", .key "template"] = Fields.find? spec "template" := by
  rw [Value.ofFields, at?_key]
  cases hf : Fields.find? body "spec" with
  | none =>
    rw [hf, Option.getD_none, Value.ofFields, Value.map.injEq] at h
    rw [← h.1]
    rfl
  | some v =>
    rw [hf, Option.getD_some] at h
    rw [Option.bind_some, h, at?_singleton_key]

theorem exists_putPodSpec_iff {kind w : Value} {body : Fields} (hkind : kind.isText "Pod" = false) :
    (∃ body', putPodSpec kind body w = .ok body') ↔ HasPlace body := by
  constructor
  · rintro ⟨body', h⟩
    obtain ⟨spec, mark, template, tmark, hspec, htemplate, -⟩ := putPodSpec_eq_ok hkind h
    refine ⟨?_, ?_⟩
    · rw [Value.ofFields, at?_singleton_key, mapOrMissing_iff]
      exact ⟨spec, mark, hspec⟩
    · rw [at?_template_of_getD hspec, mapOrMissing_iff]
      exact ⟨template, tmark, htemplate⟩
  · rintro ⟨hspec, htemplate⟩
    rw [Value.ofFields, at?_singleton_key, mapOrMissing_iff] at hspec
    obtain ⟨spec, mark, hspec⟩ := hspec
    rw [at?_template_of_getD hspec, mapOrMissing_iff] at htemplate
    obtain ⟨template, tmark, htemplate⟩ := htemplate
    rw [putPodSpec, if_neg (by rw [hkind]; decide), hspec]
    dsimp only
    rw [htemplate]
    exact ⟨_, rfl⟩

/-! ## Writing -/

variable {r : Resource}

theorem exists_toValue?_of_none (h : r.podSpec = none) : ∃ v, r.toValue? = .ok v := by
  rw [toValue?, toFields?, h]
  exact ⟨_, rfl⟩

/-- A resource with pods can be written exactly if no list of them holds a null, and a controller has a place for
them. -/
theorem exists_toValue?_iff {p : PodSpec} (h : r.podSpec = some p) :
    (∃ v, r.toValue? = .ok v) ↔ p.Whole ∧ (r.kind.isText "Pod" = false → HasPlace (Fields.plain r.body)) := by
  have hput : ∀ w, (∃ body, putPodSpec r.kind (Fields.plain r.body) w = .ok body) ↔
      (r.kind.isText "Pod" = false → HasPlace (Fields.plain r.body)) := by
    intro w
    cases hkind : r.kind.isText "Pod" with
    | true =>
      rw [putPodSpec, if_pos hkind]
      simp
    | false =>
      rw [exists_putPodSpec_iff hkind]
      simp
  rw [← PodSpec.exists_toValue?_iff]
  constructor
  · rintro ⟨v, hv⟩
    obtain ⟨written, hwritten, -⟩ := bind_eq_ok.mp hv
    obtain ⟨body, -, ⟨hnone, -⟩ | ⟨p', w, hp', hw, hbody⟩⟩ := toFields?_eq_ok hwritten
    · rw [h] at hnone
      cases hnone
    · obtain rfl := Option.some.inj (h.symm.trans hp')
      exact ⟨⟨w, hw⟩, (hput w).mp ⟨body, hbody⟩⟩
  · rintro ⟨⟨w, hw⟩, hplace⟩
    obtain ⟨body, hbody⟩ := (hput w).mpr hplace
    rw [toValue?, toFields?, h]
    simp only [hw, ok_bind, hbody]
    exact ⟨_, rfl⟩

/-- Only a pod or a controller is read with pods. -/
theorem ownsPods_of_ofFields {fs : Fields} (h : ofFields fs = .ok r) (hp : r.podSpec.isSome) : r.OwnsPods := by
  have hr := readFrom_of_ofFields h
  rcases hr.pods with ⟨-, hnone⟩ | ⟨pods, htake, -⟩
  · rw [hnone] at hp
    cases hp
  · obtain ⟨spec, -, hpods⟩ := hasPods_of_taken htake
    rw [← hr.kind] at hpods
    cases hpods with
    | pod hpod => exact .inl hpod
    | workload _ hw _ _ =>
      refine .inr ?_
      rw [workload?, ← Option.not_isNone, hw]
      rfl

end Resource

end KubeManifest
