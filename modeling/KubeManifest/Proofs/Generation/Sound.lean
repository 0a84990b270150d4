import KubeManifest.Generation.Output
import KubeManifest.Proofs.Build.Containers
import KubeManifest.Proofs.Generation.Outputs
import KubeManifest.Proofs.Manifest.Writable
import KubeManifest.Proofs.Resource.Writable

/-!
# Resources that make it to the end

A resource may be read and yet not be filled, counted or written: nulls in lists, a specification or template that
is no mapping, containers that are null, and a first name that is no text are all read without complaint.

* `PodSpec.ofContainers`, `Project.containers_whole` : the default containers, whose lists hold no null;
* `Config.Passes` : a resource that can be filled, counted and written;
* `Config.Sound` : a resource without any of that;
* `Config.passes_iff_sound` : these are the same.
-/

namespace KubeManifest

open Value

/-! ## Default containers -/

def PodSpec.ofContainers (containers : List Container) : PodSpec where
  containers := some (containers.map some)

theorem PodSpec.list_ofContainers (containers : List Container) :
    (ofContainers containers).list = containers.map some := rfl

namespace Project

variable {p : Project} {s : Settings}

theorem container_whole {image : Image} {last : Bool} {c : Container} (h : p.container s image last = .ok c) :
    c.Whole := by
  obtain ⟨liveness, readiness, name, policy, ports, -, -, -, -, rfl⟩ := container_eq_ok h
  refine ⟨fun e he => ?_, fun e he => ?_, fun e he => ?_⟩
  · obtain ⟨v, -, rfl⟩ := List.mem_map.mp he
    rfl
  · cases ports with
    | none => cases he
    | some ports =>
      obtain ⟨v, -, rfl⟩ := List.mem_map.mp he
      rfl
  · obtain ⟨v, -, rfl⟩ := List.mem_map.mp he
    rfl

/-- No default container has a null among its variables, ports and mounts. -/
theorem containers_whole {images : List Image} {containers : List Container}
    (h : p.containers s images = .ok containers) : (PodSpec.ofContainers containers).Whole := by
  intro c hc
  obtain ⟨m, hm, rfl⟩ := List.mem_map.mp hc
  obtain ⟨image, -, last, hcontainer⟩ := exists_container h m hm
  exact ⟨m, rfl, container_whole hcontainer⟩

end Project

/-! ## The way of a resource -/

/-- A resource whose containers can be counted, if it is a controller. -/
def Resource.Counted (r : Resource) : Prop :=
  r.workload?.isSome → ∀ p, r.podSpec = some p → p.containers.isSome

namespace Config

variable {config : Config} {containers : List Container} {r r' : Resource}

/-- A resource that can be filled with some default containers, counted and written. -/
def Passes (config : Config) (containers : List Container) (r : Resource) : Prop :=
  ∃ r', config.fill (.ofContainers containers) r = .ok r' ∧ r'.Counted ∧
    ∃ text, (Exportable.resource r').text config.format.name = .ok text

/-- A resource in which nothing stands in the way of its manifest: no list of its pods holds a null; where a
controller needs mappings there is nothing else; without default containers it has a list of its own, the first of
which has no name or one that is a text; and in JSON all keys that remain can be written. -/
structure Sound (config : Config) (containers : List Container) (r : Resource) : Prop where
  whole : (r.podSpec.getD {}).Whole
  placed : r.workload?.isSome → Resource.HasPlace (Fields.plain r.body)
  listed : r.workload?.isSome → containers = [] → (r.podSpec.getD {}).Listed
  keyed : config.format = .json → ∀ r' v, config.fill (.ofContainers containers) r = .ok r' → r'.toValue? = .ok v →
    Json.Keyed v.prune

theorem whole_empty : ({} : PodSpec).Whole := by
  intro c hc
  cases hc

theorem fill_of_not_workload (h : r.workload?.isSome = false) (d : PodSpec) : config.fill d r = .ok r := by
  rw [fill, if_neg (by rw [h]; decide)]

theorem fill_of_workload (h : r.workload?.isSome = true) (d : PodSpec) :
    config.fill d r = (r.merge d (.ofString config.appName)).finished := by
  rw [fill, if_pos h]

/-- Whether a resource that is filled can be written, but for its keys. -/
theorem exists_toValue?_of_not_workload (hno : r.workload?.isSome = false) (hown : r.podSpec.isSome → r.OwnsPods) :
    (∃ v, r.toValue? = .ok v) ↔ (r.podSpec.getD {}).Whole := by
  cases hp : r.podSpec with
  | none => exact iff_of_true (Resource.exists_toValue?_of_none hp) whole_empty
  | some p =>
    rw [Resource.exists_toValue?_iff hp, Option.getD_some, and_iff_left]
    intro hkind
    rcases hown (by rw [hp]; rfl) with hpod | hyes
    · rw [hpod] at hkind
      cases hkind
    · rw [hno] at hyes
      cases hyes

/-- Whether a controller can be filled and counted, and written but for its keys. -/
theorem exists_fill_of_workload (hyes : r.workload?.isSome = true)
    (hd : (PodSpec.ofContainers containers).Whole) :
    (∃ r', config.fill (.ofContainers containers) r = .ok r' ∧ r'.Counted ∧ ∃ v, r'.toValue? = .ok v) ↔
      (r.podSpec.getD {}).Whole ∧ Resource.HasPlace (Fields.plain r.body) ∧
        (containers = [] → (r.podSpec.getD {}).Listed) := by
  have hnil : (PodSpec.ofContainers containers).list = [] ↔ containers = [] := by
    rw [PodSpec.list_ofContainers, List.map_eq_nil_iff]
  have hmerge : (∃ q, ((r.podSpec.getD {}).merge (.ofContainers containers) (.ofString config.appName)).finished =
      .ok q ∧ q.containers.isSome ∧ q.Whole) ↔ _ := PodSpec.exists_merge_iff hd
  rw [fill_of_workload hyes, ← hnil]
  have hkind := Resource.isText_pod_of_workload hyes
  constructor
  · rintro ⟨r', hr', hcounted, hvalue⟩
    obtain ⟨q, hq, rfl⟩ := Resource.merge_eq_ok hr'
    obtain ⟨hwhole, hplace⟩ := (Resource.exists_toValue?_iff rfl).mp hvalue
    obtain ⟨ht, hlisted⟩ := hmerge.mp ⟨q, hq, hcounted hyes q rfl, hwhole⟩
    exact ⟨ht, hplace hkind, hlisted⟩
  · rintro ⟨ht, hplace, hlisted⟩
    obtain ⟨q, hq, hsome, hwhole⟩ := hmerge.mpr ⟨ht, hlisted⟩
    refine ⟨{ r with podSpec := some q }, ?_, fun _ p hp => Option.some.inj hp ▸ hsome, ?_⟩
    · rw [Resource.merge]
      rcases hm : (r.podSpec.getD {}).merge (.ofContainers containers) (.ofString config.appName) with ⟨q', misfit⟩
      rw [hm] at hq
      cases misfit with
      | some misfit => cases hq
      | none =>
        obtain rfl := Except.ok.inj hq
        rfl
    · exact (Resource.exists_toValue?_iff rfl).mpr ⟨hwhole, fun _ => hplace⟩

/-- **A resource makes it to the end exactly if it is sound.** -/
theorem passes_iff_sound (hown : r.podSpec.isSome → r.OwnsPods) (hd : (PodSpec.ofContainers containers).Whole) :
    config.Passes containers r ↔ config.Sound containers r := by
  have hshape : (∃ r', config.fill (.ofContainers containers) r = .ok r' ∧ r'.Counted ∧ ∃ v, r'.toValue? = .ok v) ↔
      (r.podSpec.getD {}).Whole ∧ (r.workload?.isSome → Resource.HasPlace (Fields.plain r.body)) ∧
        (r.workload?.isSome → containers = [] → (r.podSpec.getD {}).Listed) := by
    cases hw : r.workload?.isSome with
    | true =>
      rw [exists_fill_of_workload hw hd]
      exact ⟨fun ⟨hwhole, hplaced, hlisted⟩ => ⟨hwhole, fun _ => hplaced, fun _ => hlisted⟩,
        fun ⟨hwhole, hplaced, hlisted⟩ => ⟨hwhole, hplaced rfl, hlisted rfl⟩⟩
    | false =>
      rw [fill_of_not_workload hw, ← exists_toValue?_of_not_workload hw hown]
      have hcounted : r.Counted := fun hyes => by
        rw [hw] at hyes
        cases hyes
      constructor
      · rintro ⟨r', hr', -, hvalue⟩
        obtain rfl := Except.ok.inj hr'
        exact ⟨hvalue, by simp, by simp⟩
      · exact fun ⟨hvalue, _⟩ => ⟨r, rfl, hcounted, hvalue⟩
  simp only [Passes, Exportable.exists_text_resource_iff]
  constructor
  · rintro ⟨r', hfill, hcounted, v, hv, hkeyed⟩
    obtain ⟨hwhole, hplaced, hlisted⟩ := hshape.mp ⟨r', hfill, hcounted, v, hv⟩
    refine ⟨hwhole, hplaced, hlisted, fun hjson r'' w hfill' hw => ?_⟩
    obtain rfl := Except.ok.inj (hfill.symm.trans hfill')
    obtain rfl := Except.ok.inj (hv.symm.trans hw)
    exact hkeyed hjson
  · intro h
    obtain ⟨r', hfill, hcounted, v, hv⟩ := hshape.mpr ⟨h.whole, h.placed, h.listed⟩
    exact ⟨r', hfill, hcounted, v, hv, fun hjson => h.keyed hjson r' v hfill hv⟩

end Config

end KubeManifest
