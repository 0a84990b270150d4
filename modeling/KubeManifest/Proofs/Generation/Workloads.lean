import KubeManifest.Proofs.Build.Containers
import KubeManifest.Proofs.Generation.DryRun
import KubeManifest.Proofs.Merge.GapFilling

/-!
# Containers reach all controllers

Whether a deployment is added is decided by the kinds as they are written, and what is filled by the controller that
a kind names. Both see the same resources, so that containers are never left without a controller.

* `Container.Given` : a container with a name and an image;
* `Project.containers_given` : the default containers have both, if the images have names;
* `Collection.hasKind_workloads_iff` : the kinds that are looked up are those of controllers;
* `PodSpec.Covers` : the default containers have reached the containers of a specification;
* `Config.Completed`, `Config.Reached` : the resources that are filled, and what becomes of each of them;
* `Config.assemble_reached` : every default container reaches every controller, and nothing else is changed;
* `Config.reached_of_load` : so it is with a configuration that was read, whose images have names.
-/

namespace KubeManifest

/-! ## Containers with a name and an image -/

structure Container.Given (c : Container) : Prop where
  name : c.name.isNull = false
  image : c.image.isNull = false

/-- What is filled from a container with a name and an image has both. -/
theorem Container.Filled.given {t d c : Container} (h : t.Filled d c) (hd : d.Given) : c.Given := by
  have hsimple : ∀ field ∈ simpleFields, (field d).isNull = false → (field c).isNull = false := by
    intro field hfield hgiven
    rw [h.simple field hfield]
    split
    · exact hgiven
    · rename_i hown
      exact eq_false_of_ne_true hown
  exact ⟨hsimple Container.name (by simp [simpleFields]) hd.name,
    hsimple Container.image (by simp [simpleFields]) hd.image⟩

namespace Project

variable {p : Project} {s : Settings} {images : List Image} {containers : List Container}

theorem containerName_isNull {image : Image} {name : Value} (h : p.containerName image = .ok name) :
    name.isNull = false := by
  unfold containerName at h
  split at h
  · rename_i hgiven
    obtain rfl := Except.ok.inj h
    exact Value.isNull_of_isTruthy hgiven
  · obtain ⟨parsed, -, h⟩ := bind_eq_ok.mp h
    obtain rfl := Except.ok.inj h
    rfl

theorem container_given {image : Image} {last : Bool} {c : Container} (h : p.container s image last = .ok c)
    (hnamed : image.name.isNull = false) : c.Given := by
  obtain ⟨liveness, readiness, name, policy, ports, -, -, hname, -, rfl⟩ := container_eq_ok h
  exact ⟨containerName_isNull hname, hnamed⟩

/-- The default containers have names and images, if the images have names. -/
theorem containers_given (h : p.containers s images = .ok containers)
    (hnamed : ∀ image ∈ images, image.name.isNull = false) : ∀ c ∈ containers, c.Given := by
  intro c hc
  obtain ⟨image, himage, last, hcontainer⟩ := exists_container h c hc
  exact container_given hcontainer (hnamed image himage)

end Project

/-- An image that is read has a name. -/
theorem Image.name_of_read {v : Value} {image : Image} (h : Image.read v = .ok image) : image.name.isNull = false := by
  obtain ⟨fs, -, h⟩ := bind_eq_ok.mp h
  dsimp only at h
  split at h
  · cases h
  · rename_i htruthy
    have hname : (Fields.get fs "name").isNull = false := Value.isNull_of_isTruthy (by simpa using htruthy)
    split at h
    · obtain rfl := Except.ok.inj h
      exact hname
    · obtain ⟨build, -, h⟩ := bind_eq_ok.mp h
      obtain rfl := Except.ok.inj h
      exact hname

/-! ## Controllers -/

namespace Collection

variable {c : Collection}

/-- A kind is one of those of controllers exactly if it names a controller. -/
theorem any_isText_workload (r : Resource) :
    (Workload.all.map Workload.name).any r.kind.isText = r.workload?.isSome := by
  unfold Resource.workload? Workload.ofKind?
  rw [List.any_map, Bool.eq_iff_iff, List.any_eq_true, List.find?_isSome]
  rfl

/-- The kinds of controllers are found exactly if there is a controller. -/
theorem hasKind_workloads_iff {found : Bool} (h : c.hasKind (Workload.all.map Workload.name) = .ok found) :
    found = true ↔ ∃ r ∈ c.items, r.workload?.isSome = true := by
  have hiff : found = true ↔ false = true ∨ ∃ r ∈ c.items, r.workload?.isSome = true := by
    unfold hasKind at h
    generalize false = start at h ⊢
    generalize c.items = items at h ⊢
    induction items generalizing start with
    | nil =>
      obtain rfl : start = found := Except.ok.inj h
      simp
    | cons r items ih =>
      rw [List.foldlM_cons] at h
      obtain ⟨next, hnext, h⟩ := bind_eq_ok.mp h
      simp only [ih next h, List.mem_cons, exists_eq_or_imp]
      rw [← or_assoc]
      refine or_congr_left ?_
      split at hnext
      · rename_i hstart
        obtain rfl := Except.ok.inj hnext
        simp [hstart]
      · rename_i hstart
        split at hnext
        · cases hnext
        · obtain rfl := Except.ok.inj hnext
          rw [any_isText_workload]
          simp [hstart]
  simpa using hiff

end Collection

/-! ## Specifications -/

/-- Containers that have reached a specification: each stands at its place, or has filled the container there. -/
structure PodSpec.Covers (containers : List Container) (t r : PodSpec) : Prop where
  length : containers.length ≤ r.list.length
  reached : ∀ (i : Nat) (d : Container), containers[i]? = some d → ∃ c, r.list[i]? = some (some c) ∧ c.Given ∧
    (t.list[i]? = none ∧ c = d ∨ ∃ tc, t.list[i]? = some (some tc) ∧ tc.Filled d c)

/-- Containers with names and images reach every specification that they are merged into. -/
theorem PodSpec.covers_of_merge {containers : List Container} {t r : PodSpec} {fallback : Value}
    (hgiven : ∀ c ∈ containers, c.Given) (h : (t.merge (ofContainers containers) fallback).finished = .ok r) :
    Covers containers t r := by
  have hlist := list_ofContainers containers
  obtain ⟨-, ⟨hnil, -⟩ | ⟨-, hmerge⟩⟩ := list_of_merge h
  · obtain rfl : containers = [] := by simpa [hlist] using hnil
    exact ⟨Nat.zero_le _, fun i d hd => by simp at hd⟩
  · rw [hlist] at hmerge
    obtain ⟨hlength, hadded, -, hfilled⟩ := mergeContainers_spec hmerge
    rw [List.length_map] at hlength
    refine ⟨by omega, fun i d hd => ?_⟩
    have hdefault : (containers.map some)[i]? = some (some d) := by rw [List.getElem?_map, hd]; rfl
    have hd' := hgiven d (List.mem_of_getElem? hd)
    cases ht : t.list[i]? with
    | none =>
      refine ⟨d, ?_, hd', .inl ⟨rfl, rfl⟩⟩
      rw [hadded i (List.getElem?_eq_none_iff.mp ht), hdefault]
    | some tc =>
      obtain ⟨tc, dc, c, rfl, hdc, hc, hm⟩ := hfilled i _ _ ht hdefault
      obtain rfl : d = dc := Option.some.inj hdc
      have hfill := Container.filled_of_merge hm
      exact ⟨c, hc, hfill.given hd', .inr ⟨tc, rfl, hfill⟩⟩

namespace Config

variable {config : Config} {files : Files} {fragments : Collection} {containers : List Container} {assembly : Assembly}

/-! ## Resources -/

/-- The resources that are filled: those of the fragments, and after them one deployment with the name of the
application if there are containers but no controller. What is added is known by that name. -/
structure Completed (config : Config) (fragments : Collection) (containers : List Container) (source : Assembly) :
    Prop where
  added : containers ≠ [] → (∀ r ∈ fragments.items, r.workload? = none) →
    source.added = [config.appName] ∧ ∃ d, config.deployment = .ok d ∧ d.kind = .ofString "Deployment" ∧
      d.name = .ofString config.appName ∧ source.collection.items = fragments.items ++ [d]
  kept : containers = [] ∨ (∃ r ∈ fragments.items, r.workload?.isSome) →
    source.added = [] ∧ source.collection.items = fragments.items

/-- What becomes of a resource: a controller gets pods that the containers have reached, and any other resource stays
as it is. -/
structure Reached (containers : List Container) (r r' : Resource) : Prop where
  kept : r.workload? = none → r' = r
  filled : r.workload?.isSome → ∃ p, r' = { r with podSpec := some p } ∧
    PodSpec.Covers containers (r.podSpec.getD {}) p

theorem completed_of_complete (h : config.complete fragments containers = .ok assembly) :
    config.Completed fragments containers assembly := by
  unfold complete at h
  split at h
  · rename_i hnone
    obtain rfl := Except.ok.inj h
    exact ⟨fun hsome => absurd (List.isEmpty_iff.mp hnone) hsome, fun _ => ⟨rfl, rfl⟩⟩
  · rename_i hsome
    obtain ⟨found, hfound, h⟩ := bind_eq_ok.mp h
    have hiff := Collection.hasKind_workloads_iff hfound
    split at h
    · rename_i hyes
      obtain rfl := Except.ok.inj h
      obtain ⟨r, hr, hworkload⟩ := hiff.mp hyes
      refine ⟨fun _ hno => ?_, fun _ => ⟨rfl, rfl⟩⟩
      rw [hno r hr] at hworkload
      cases hworkload
    · rename_i hno
      obtain ⟨d, hd, h⟩ := bind_eq_ok.mp h
      obtain rfl := Except.ok.inj h
      refine ⟨fun _ _ => ⟨rfl, d, hd, ?_, ?_, rfl⟩, fun hor => ?_⟩
      · obtain ⟨version, -, hd⟩ := bind_eq_ok.mp hd
        obtain rfl := Except.ok.inj hd
        rfl
      · obtain ⟨version, -, hd⟩ := bind_eq_ok.mp hd
        obtain rfl := Except.ok.inj hd
        rfl
      · rcases hor with rfl | hyes
        · exact absurd rfl hsome
        · exact absurd (hiff.mpr hyes) hno

theorem reached_of_fill {r r' : Resource} (hgiven : ∀ c ∈ containers, c.Given)
    (h : config.fill (.ofContainers containers) r = .ok r') : Reached containers r r' := by
  cases hw : r.workload?.isSome with
  | false =>
    rw [fill_of_not_workload hw] at h
    refine ⟨fun _ => (Except.ok.inj h).symm, fun hyes => ?_⟩
    rw [hw] at hyes
    cases hyes
  | true =>
    rw [fill_of_workload hw] at h
    obtain ⟨p, hp, rfl⟩ := Resource.merge_eq_ok h
    refine ⟨fun hno => ?_, fun _ => ⟨p, rfl, PodSpec.covers_of_merge hgiven hp⟩⟩
    rw [hno] at hw
    cases hw

/-- Where there are containers there is a controller for them. -/
theorem Completed.exists_workload {source : Assembly} (h : config.Completed fragments containers source)
    (hsome : containers ≠ []) : ∃ r ∈ source.collection.items, r.workload?.isSome := by
  by_cases hyes : ∃ r ∈ fragments.items, r.workload?.isSome
  · rw [(h.kept (.inr hyes)).2]
    exact hyes
  · have hno : ∀ r ∈ fragments.items, r.workload? = none := by
      intro r hr
      exact Option.not_isSome_iff_eq_none.mp fun hr' => hyes ⟨r, hr, hr'⟩
    obtain ⟨-, d, -, hkind, -, hitems⟩ := h.added hsome hno
    refine ⟨d, hitems ▸ List.mem_append_right _ List.mem_cons_self, ?_⟩
    rw [Resource.workload?, hkind]
    decide

theorem assemble_eq_ok (h : config.assemble files = .ok assembly) :
    ∃ fragments containers source, Collection.ofDirectory files config.context config.fragmentsDir = .ok fragments ∧
      config.project.containers config.settings config.images = .ok containers ∧
      config.complete fragments containers = .ok source ∧ assembly.added = source.added ∧
      source.collection.items.mapM (config.fill (.ofContainers containers)) = .ok assembly.collection.items := by
  obtain ⟨fragments, hfragments, h⟩ := bind_eq_ok.mp h
  obtain ⟨containers, hcontainers, h⟩ := bind_eq_ok.mp h
  obtain ⟨source, hsource, h⟩ := bind_eq_ok.mp h
  obtain ⟨items, hitems, h⟩ := bind_eq_ok.mp h
  obtain rfl := Except.ok.inj h
  rw [Failure.mapM_lift] at hitems
  exact ⟨fragments, containers, source, hfragments, hcontainers, Failure.lift_eq_ok.mp hsource, rfl,
    Failure.lift_eq_ok.mp hitems⟩

/-- **Every default container reaches every controller.** The resources are those of the fragments in their order, with
one deployment after them if there would be no controller for the containers. Of these the controllers get pods
in which each default container stands, with a name and an image, and the other resources stay as they were read. -/
theorem assemble_reached (hnamed : ∀ image ∈ config.images, image.name.isNull = false)
    (h : config.assemble files = .ok assembly) :
    ∃ fragments containers source, Collection.ofDirectory files config.context config.fragmentsDir = .ok fragments ∧
      config.project.containers config.settings config.images = .ok containers ∧
      config.Completed fragments containers source ∧ assembly.added = source.added ∧
      assembly.collection.items.length = source.collection.items.length ∧
      (∀ (i : Nat) (r : Resource), source.collection.items[i]? = some r →
        ∃ r', assembly.collection.items[i]? = some r' ∧ Reached containers r r') ∧
      (containers ≠ [] → ∃ r ∈ assembly.collection.items, r.workload?.isSome) := by
  obtain ⟨fragments, containers, source, hfragments, hcontainers, hcomplete, hadded, hitems⟩ := assemble_eq_ok h
  have hgiven := Project.containers_given hcontainers hnamed
  have hcompleted := completed_of_complete hcomplete
  refine ⟨fragments, containers, source, hfragments, hcontainers, hcompleted, hadded, mapM_ok_length hitems, ?_, ?_⟩
  · intro i r hr
    obtain ⟨r', hr', hfill⟩ := mapM_ok_getElem? hitems hr
    exact ⟨r', hr', reached_of_fill hgiven hfill⟩
  · intro hsome
    obtain ⟨r, hr, hworkload⟩ := hcompleted.exists_workload hsome
    obtain ⟨r', hr', hfill⟩ := exists_mem_of_mapM_eq_ok hitems r hr
    refine ⟨r', hr', ?_⟩
    rw [Resource.workload?, (fill_eq_ok hfill).1]
    exact hworkload

/-- The images of a configuration that is read have names. -/
theorem ofFields_images_named {base : Path} {fs : Fields} (h : ofFields base fs = .ok config) :
    ∀ image ∈ config.images, image.name.isNull = false := by
  obtain ⟨format, -, h⟩ := bind_eq_ok.mp h
  obtain ⟨versions, -, h⟩ := bind_eq_ok.mp h
  obtain ⟨values, -, h⟩ := bind_eq_ok.mp h
  obtain ⟨project, -, h⟩ := bind_eq_ok.mp h
  dsimp only at h
  split at h
  · cases h
  · obtain ⟨fragmentsDir, -, h⟩ := bind_eq_ok.mp h
    obtain ⟨outputDir, -, h⟩ := bind_eq_ok.mp h
    obtain ⟨settings, -, h⟩ := bind_eq_ok.mp h
    obtain ⟨images, himages, h⟩ := bind_eq_ok.mp h
    obtain rfl := Except.ok.inj h
    intro image himage
    obtain ⟨v, -, hv⟩ := mapM_eq_ok_mem himages image himage
    exact Image.name_of_read hv

/-- In a configuration that was read, every default container reaches every controller. -/
theorem reached_of_load {source : Files} {path : Path} {others : Fields} (hload : load source path others = .ok config)
    (h : config.assemble files = .ok assembly) :
    ∃ containers, config.project.containers config.settings config.images = .ok containers ∧
      ∀ r' ∈ assembly.collection.items, ∃ r, Reached containers r r' := by
  obtain ⟨fs, -, hfields⟩ := bind_eq_ok.mp hload
  obtain ⟨fragments, containers, source, -, hcontainers, -, -, hitems⟩ := assemble_eq_ok h
  have hgiven := Project.containers_given hcontainers (ofFields_images_named hfields)
  refine ⟨containers, hcontainers, fun r' hr' => ?_⟩
  obtain ⟨r, -, hfill⟩ := mapM_eq_ok_mem hitems r' hr'
  exact ⟨r, reached_of_fill hgiven hfill⟩

/-! ## Containers for a controller that is missing -/

def imageConfig : Config :=
  { jsonConfig with images := [{ name := .ofString "shop/app:1", build := some {} }] }

set_option maxRecDepth 100000 in
theorem assemble_blockedFiles :
    (imageConfig.assemble blockedFiles).toOption.map (fun assembly =>
      (assembly.added, assembly.collection.items.map Resource.sortKey)) =
        some (["a"], [("ConfigMap", "a"), ("Deployment", "a")]) := by
  decide +kernel

/-- A deployment is added to a fragment that is no controller. -/
theorem assemble_reached_blockedFiles :
    (∀ image ∈ imageConfig.images, image.name.isNull = false) ∧
      ∃ assembly, imageConfig.assemble blockedFiles = .ok assembly ∧ assembly.added = ["a"] ∧
        ∃ fragments containers source,
          Collection.ofDirectory blockedFiles imageConfig.context imageConfig.fragmentsDir = .ok fragments ∧
            imageConfig.project.containers imageConfig.settings imageConfig.images = .ok containers ∧
            imageConfig.Completed fragments containers source ∧ assembly.added = source.added ∧
            assembly.collection.items.length = source.collection.items.length ∧
            (∀ (i : Nat) (r : Resource), source.collection.items[i]? = some r →
              ∃ r', assembly.collection.items[i]? = some r' ∧ Reached containers r r') ∧
            (containers ≠ [] → ∃ r ∈ assembly.collection.items, r.workload?.isSome) := by
  have hnamed : ∀ image ∈ imageConfig.images, image.name.isNull = false := by decide
  have hrun := assemble_blockedFiles
  rw [Option.map_eq_some_iff] at hrun
  obtain ⟨assembly, hassembly, hkeys⟩ := hrun
  rw [toOption_eq_some] at hassembly
  exact ⟨hnamed, assembly, hassembly, congrArg Prod.fst hkeys, assemble_reached hnamed hassembly⟩

end Config

end KubeManifest
