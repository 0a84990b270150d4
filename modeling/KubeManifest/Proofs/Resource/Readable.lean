import KubeManifest.Proofs.Model.WellFormed
import KubeManifest.Proofs.Resource.Additive
import KubeManifest.Proofs.Value.Restated

/-!
# Resources that can be read again

* `Resource.PodsReadable` : a specification whose pods, if it has any by its kind, can be read;
* `Resource.exists_ofFields` : entries with metadata and readable pods are those of a resource;
* `Resource.WellFormed` : a resource whose pods are in order and taken out of its other entries;
* `Resource.WellFormed.podsReadable` : what is written for such a resource has pods that can be read;
* `Resource.wellFormed_of_ofFields`, `Resource.WellFormed.merge` : resources that are read are such, and stay so when
  pods are merged into them.
-/

namespace KubeManifest

open Model Value

/-! ## Values under a name -/

namespace Value

/-- A value that has texts as keys if it is a mapping, and a property under each key that is a name. -/
def Under (name : String) (P : Value → Prop) (v : Value) : Prop :=
  ∀ fs, v.fields? = some fs → ∀ e ∈ fs, ∃ s, e.1.text? = some s ∧ (s = name → P e.2)

theorem Under.thin {f : Value → Value} (hf : Thinning f) {name : String} {P : Value → Prop} {v : Value}
    (hP : ∀ w, P w → P (f w)) (h : Under name P v) : Under name P (f v) := by
  intro gs hgs e he
  obtain ⟨fs, hfs, hfrom⟩ := hf.exists_fields hgs
  obtain ⟨e', he', hv, hkey⟩ := hfrom e he
  obtain ⟨s, hs, hp⟩ := h fs hfs e' he'
  exact ⟨s, hkey s hs, fun hname => hv ▸ hP _ (hp hname)⟩

theorem Under.of_find? {name : String} {P : Value → Prop} {fs : Fields} {mark : Option Mark} {v : Value}
    (h : Under name P (.map fs mark)) (hv : Fields.find? fs name = some v) : P v := by
  obtain ⟨k, hmem, hk⟩ := Fields.mem_of_find? hv
  obtain ⟨s, hs, hp⟩ := h fs rfl _ hmem
  exact hp (Option.some.inj (hs.symm.trans (isText_iff.mp hk)))

/-- What is under a name in a plain value is what is found there. -/
theorem under_of_isPlain {name : String} {P : Value → Prop} {v : Value} (hv : v.IsPlain)
    (h : ∀ fs mark w, v = .map fs mark → Fields.find? fs name = some w → P w) : Under name P v := by
  intro fs hfs e he
  cases v with
  | map gs mark =>
    obtain rfl : gs = fs := Option.some.inj hfs
    have hplain := Fields.IsPlain.of_map hv
    obtain ⟨s, hs⟩ := hplain.keys e he
    refine ⟨s, by rw [hs]; rfl, ?_⟩
    rintro rfl
    exact h _ mark _ rfl (hplain.distinct.find?_of_mem he (by rw [hs]; simp))
  | _ => cases hfs

end Value

namespace Resource

/-! ## Pods that can be read -/

/-- Pods that can be read if they are a mapping. -/
def IsReadable (pods : Value) : Prop :=
  ∀ fs, pods.fields? = some fs → PodSpec.layout.Readable fs

/-- A specification whose pods, if it has any by its kind, can be read. -/
structure PodsReadable (kind spec : Value) : Prop where
  pod : kind.isText "Pod" = true → IsReadable spec
  workload : (Workload.ofKind? kind).isSome = true → Under "template" (Under "spec" IsReadable) spec

variable {kind spec pods : Value} {f : Value → Value}

theorem IsReadable.thin (hf : Thinning f) (h : IsReadable pods) : IsReadable (f pods) := by
  intro gs hgs
  obtain ⟨fs, hfs, hfrom⟩ := hf.exists_fields hgs
  exact (h fs hfs).thin hf hfrom

theorem PodsReadable.thin (hf : Thinning f) (h : PodsReadable kind spec) : PodsReadable kind (f spec) where
  pod hk := (h.pod hk).thin hf
  workload hw := (h.workload hw).thin hf fun _ ht => ht.thin hf fun _ hp => hp.thin hf

theorem PodsReadable.isReadable (h : PodsReadable kind spec) (hpods : HasPods kind spec pods) : IsReadable pods := by
  cases hpods with
  | pod hk => exact h.pod hk
  | workload _ hw ht hp =>
    rw [Option.isNone_eq_false_iff] at hw
    exact ((h.workload hw).of_find? ht).of_find? hp

/-- The text of the kind alone decides whether there are pods. -/
theorem PodsReadable.of_text?_eq {kind' : Value} (h : PodsReadable kind spec) (hk : kind'.text? = kind.text?) :
    PodsReadable kind' spec := by
  have hpod : ∀ s, kind'.isText s = kind.isText s := fun s => by rw [Value.isText, Value.isText, hk]
  have hof : Workload.ofKind? kind' = Workload.ofKind? kind := by
    unfold Workload.ofKind?
    simp only [hpod]
  exact ⟨fun hp => h.pod ((hpod _).symm.trans hp), fun hw => h.workload (hof ▸ hw)⟩

/-- A plain specification without pods has none that could not be read. -/
theorem podsReadable_of_none (hs : spec.IsPlain) (h : pods? kind spec = none) : PodsReadable kind spec := by
  have hno : ∀ pods, ¬ HasPods kind spec pods := by
    intro pods hp
    rw [pods?_eq_some.mpr hp] at h
    cases h
  refine ⟨fun hk fs hfs => ?_, fun hw => under_of_isPlain hs fun fs mark t heq ht => ?_⟩
  · cases spec with
    | map gs mark => exact absurd (.pod hk) (hno _)
    | _ => cases hfs
  · subst heq
    have htemplate := (Fields.IsPlain.of_map hs).of_find? ht
    refine under_of_isPlain htemplate fun ts tmark p heq hp ps hps => ?_
    subst heq
    cases p with
    | map qs qmark =>
      exact absurd (.workload (isText_pod_of_workload hw) (Option.isNone_eq_false_iff.mpr hw) ht hp) (hno _)
    | _ => cases hps

/-- Entries with metadata and readable pods are those of a resource. -/
theorem exists_ofFields {doc ms : Fields} {mark : Option Mark} (hmeta : Fields.get doc "metadata" = .map ms mark)
    (hspec : ∀ spec, Fields.find? doc "spec" = some spec → PodsReadable (Fields.get doc "kind") spec) :
    ∃ r, ofFields doc = .ok r ∧ r.kind = Fields.get doc "kind" ∧ r.name = Model.field ms "name" := by
  have hread : ∃ m, ObjectMeta.read? (metadataOf doc) = .ok (some m) ∧ m.name = Model.field ms "name" := by
    rw [metadataOf, hmeta, orElse]
    split
    · exact ⟨_, rfl, rfl⟩
    · rename_i ht
      cases ms with
      | nil => exact ⟨_, rfl, rfl⟩
      | cons e ms => exact absurd rfl ht
  obtain ⟨m, hm, hname⟩ := hread
  rw [ofFields, show (Fields.get doc "metadata").orElse (.ofFields []) = metadataOf doc from rfl, hm,
    show Fields.plainValues (Fields.except doc headerNames) = bodyOf doc from rfl]
  rcases htake : takePodSpec (Fields.get doc "kind") (bodyOf doc) with ⟨pods, rest⟩
  cases pods with
  | none => exact ⟨_, rfl, rfl, hname⟩
  | some pods =>
    have hfst := takePodSpec_fst (Fields.get doc "kind") (bodyOf doc)
    rw [htake] at hfst
    obtain ⟨spec, hfind, hpods⟩ := Option.bind_eq_some_iff.mp hfst.symm
    rw [pods?_eq_some] at hpods
    rw [find?_bodyOf (by decide), Option.map_eq_some_iff] at hfind
    obtain ⟨spec, hfind, rfl⟩ := hfind
    have hreadable := ((hspec spec hfind).thin thinning_plain).isReadable hpods
    obtain ⟨fs, pmark, rfl⟩ := hpods.isMap
    obtain ⟨p, hp⟩ := PodSpec.writes.exists_read (hreadable fs rfl) pmark
    simp only [ok_bind, hp]
    exact ⟨_, rfl, rfl, hname⟩

/-! ## Resources in order -/

/-- A resource whose pods are in order and are taken out of its other entries, none of which is kind or metadata. -/
structure WellFormed (r : Resource) : Prop where
  noKind : Fields.find? r.body "kind" = none
  noMetadata : Fields.find? r.body "metadata" = none
  taken : r.podSpec = none → (Fields.find? (Fields.plain r.body) "spec").bind (pods? r.kind) = none
  pods : ∀ p, r.podSpec = some p → p.WellFormed

variable {r : Resource}

/-- Only the entry that is set has its name. -/
theorem under_set {fs : Fields} {name : String} {v : Value} (mark : Option Mark) {P : Value → Prop} (hfs : fs.IsPlain)
    (hv : P v) : Under name P (.map (Fields.set fs name v) mark) := by
  intro gs hgs e he
  obtain rfl : Fields.set fs name v = gs := Option.some.inj hgs
  obtain ⟨s, hs⟩ := (hfs.toNamed.set name v).keys e he
  refine ⟨s, by rw [hs]; rfl, ?_⟩
  rintro rfl
  have hkey : e.1.isText s = true := by
    rw [hs]
    simp
  have hfind := (hfs.distinct.set s v).find?_of_mem he hkey
  rw [Fields.find?_set_self] at hfind
  exact Option.some.inj hfind ▸ hv

theorem isPlain_of_getD {fs gs : Fields} {name : String} {mark : Option Mark} (hfs : fs.IsPlain)
    (h : (Fields.find? fs name).getD (.ofFields []) = .map gs mark) : gs.IsPlain := by
  cases hf : Fields.find? fs name with
  | none =>
    rw [hf, Option.getD_none, Value.map.injEq] at h
    rw [← h.1]
    exact Fields.plain_isPlain []
  | some v =>
    rw [hf, Option.getD_some] at h
    exact Fields.IsPlain.of_map (h ▸ hfs.of_find? hf)

/-- Readable pods that are put in their place can be read there. -/
theorem under_putPodSpec {kind w : Value} {body body' : Fields} (hbody : body.IsPlain) (hw : IsReadable w)
    (h : putPodSpec kind body w = .ok body') : Under "spec" (PodsReadable kind) (.ofFields body') := by
  cases hk : kind.isText "Pod" with
  | true =>
    rw [putPodSpec, if_pos hk] at h
    obtain rfl := Except.ok.inj h
    refine under_set none hbody ⟨fun _ => hw, fun hwork => ?_⟩
    rw [isText_pod_of_workload hwork] at hk
    cases hk
  | false =>
    obtain ⟨spec, mark, template, tmark, hspec, htemplate, rfl⟩ := putPodSpec_eq_ok hk h
    refine under_set none hbody ⟨fun hpod => ?_, fun _ => ?_⟩
    · rw [hk] at hpod
      cases hpod
    · have hspec := isPlain_of_getD hbody hspec
      exact under_set mark hspec (under_set tmark (isPlain_of_getD hspec htemplate) hw)

/-- What is written for a resource in order has pods that can be read. -/
theorem WellFormed.podsReadable (hr : r.WellFormed) {fs : Fields} (h : r.toFields? = .ok fs) :
    ∀ e ∈ fs, e.1.isText "spec" = true → PodsReadable r.kind e.2 := by
  obtain ⟨body, rfl, hbody⟩ := toFields?_eq_ok h
  have hplain := Fields.plain_isPlain r.body
  have hunder : Under "spec" (PodsReadable r.kind) (.ofFields body) := by
    rcases hbody with ⟨hnone, rfl⟩ | ⟨p, w, hp, hw, hput⟩
    · refine under_of_isPlain hplain.ofFields fun fs mark spec heq hfind => ?_
      obtain ⟨rfl, -⟩ := Value.map.inj heq
      have htaken := hr.taken hnone
      rw [hfind] at htaken
      exact podsReadable_of_none (hplain.of_find? hfind) htaken
    · obtain ⟨ws, hws, hreadable⟩ := (hr.pods p hp).readable_toValue? hw
      exact under_putPodSpec hplain (fun qs hqs => Option.some.inj (hws.symm.trans hqs) ▸ hreadable) hput
  intro e he hk
  simp only [withHeader, List.mem_cons] at he
  rcases he with rfl | rfl | rfl | he
  · cases hk
  · cases hk
  · cases hk
  · obtain ⟨s, hs, hp⟩ := hunder body rfl e (List.mem_filter.mp he).1
    exact hp (Option.some.inj (hs.symm.trans (isText_iff.mp hk)))

/-! ## Where resources in order come from -/

/-- A resource that is read from different entries is in order. -/
theorem wellFormed_of_ofFields {fs : Fields} (hd : fs.Distinct) (h : ofFields fs = .ok r) : r.WellFormed := by
  have hread := readFrom_of_ofFields h
  have hno := hread.headless
  have hb := isBody_bodyOf hd
  refine ⟨hno "kind" (by decide), hno "metadata" (by decide), fun hnone => ?_, fun p hp => ?_⟩ <;>
    rcases hread.pods with ⟨htake, hnone'⟩ | ⟨pods, htake, hpods⟩
  · have hfst := takePodSpec_fst (Fields.get fs "kind") (bodyOf fs)
    rw [htake] at hfst
    rw [body_of_not_taken htake, hread.kind, Fields.find?_plain_of_mem hb.distinct (by decide)]
    cases hf : Fields.find? (bodyOf fs) "spec" with
    | none => rfl
    | some spec =>
      rw [Option.map_some, (hb.of_find? hf).plain_eq, ← hf]
      exact hfst.symm
  · obtain ⟨spec, -, hhas⟩ := hasPods_of_taken htake
    obtain ⟨ps, mark, rfl⟩ := hhas.isMap
    rw [hnone] at hpods
    exact absurd hpods (PodSpec.writes.given ps mark)
  · rw [hnone'] at hp
    cases hp
  · obtain ⟨spec, hspec, hhas⟩ := hasPods_of_taken htake
    rw [hp] at hpods
    exact PodSpec.wellFormed_of_read? (hhas.isPlain (hb.of_find? hspec)).textual hpods

/-- A resource stays in order when pods in order are merged into it. -/
theorem WellFormed.merge {r r' : Resource} {other : PodSpec} {fallback : Value} (hr : r.WellFormed)
    (ho : other.WellFormed) (h : (r.merge other fallback).finished = .ok r') : r'.WellFormed := by
  obtain ⟨p, hp, rfl⟩ := merge_eq_ok h
  have hown : (r.podSpec.getD {}).WellFormed := by
    cases hpods : r.podSpec with
    | none => exact ⟨fun c hc => (List.not_mem_nil hc).elim, foreign_nil _⟩
    | some q => exact hr.pods q hpods
  refine ⟨hr.noKind, hr.noMetadata, nofun, fun q hq => ?_⟩
  obtain rfl := Option.some.inj hq
  exact hown.merge ho hp

end Resource

end KubeManifest
