import KubeManifest.Build.Image
import KubeManifest.Build.Project
import KubeManifest.Build.Settings
import KubeManifest.Proofs.Results
import KubeManifest.Proofs.Value.Entries

/-!
# What stops the reading of a build

The sections of a configuration are read one after the other, and reading stops at the first value that does not fit.
Most of these are reported. Nothing is checked about some values before their items are gone through.

* `Obstacle`, `StopsAt` : what reading stops at, and that it stops at the first of some obstacles or not at all;
* `StopsAt.bind`, `StopsAt.mapM` : the obstacles of steps that follow one another, and of the items of a list;
* `Project.read_stopsAt`, `Settings.read_stopsAt`, `Image.read_stopsAt` : the obstacles in the sections of a build.
-/

namespace KubeManifest

/-! ## Obstacles -/

/-- What the reading of a configuration stops at: a fault that is reported, or the value of an entry that nothing is
checked about. -/
inductive Obstacle
  | reported (fault : ConfigFault)
  | unchecked (entry : String)

namespace Obstacle

def failure : Obstacle → Failure
  | reported fault => .badConfig none fault
  | unchecked _ => .misfit .wrongKind

/-- An obstacle, unless something holds. -/
def ifNot (holds : Bool) (o : Obstacle) : List Obstacle :=
  if holds then [] else [o]

variable {holds : Bool} {entry entry' : String} {fault : ConfigFault}

@[simp] theorem unchecked_mem_ifNot_unchecked :
    unchecked entry ∈ ifNot holds (unchecked entry') ↔ holds = false ∧ entry = entry' := by
  cases holds <;> simp [ifNot]

@[simp] theorem unchecked_mem_ifNot_reported : unchecked entry ∈ ifNot holds (reported fault) ↔ False := by
  cases holds <;> simp [ifNot]

end Obstacle

/-- Whether a reading stops at the first of some obstacles, and comes to its end if there are none. -/
def StopsAt {α : Type} (x : Except Failure α) : List Obstacle → Prop
  | [] => ∃ y, x = .ok y
  | o :: _ => x = .error o.failure

namespace StopsAt

variable {α β : Type} {x : Except Failure α} {f : α → Except Failure β} {os os' : List Obstacle} {o : Obstacle}

theorem ok (y : α) : StopsAt (.ok y : Except Failure α) [] := ⟨y, rfl⟩

/-- The obstacles of a step come before those of the next ones. -/
theorem bind (hx : StopsAt x os) (hf : ∀ y, x = .ok y → StopsAt (f y) os') : StopsAt (x >>= f) (os ++ os') := by
  cases os with
  | nil =>
    obtain ⟨y, rfl⟩ := hx
    exact hf y rfl
  | cons o os =>
    obtain rfl : x = .error o.failure := hx
    rfl

theorem map (hx : StopsAt x os) (g : α → β) : StopsAt (g <$> x) os := by
  cases os with
  | nil =>
    obtain ⟨y, rfl⟩ := hx
    exact ⟨g y, rfl⟩
  | cons o os =>
    obtain rfl : x = .error o.failure := hx
    rfl

theorem ifNot {holds : Bool} (hx : holds = true → StopsAt x os) (hfail : holds = false → x = .error o.failure) :
    StopsAt x (Obstacle.ifNot holds o ++ os) := by
  cases holds with
  | false => exact hfail rfl
  | true => exact hx rfl

theorem ifNot_last {holds : Bool} (hx : holds = true → ∃ y, x = .ok y) (hfail : holds = false → x = .error o.failure) :
    StopsAt x (Obstacle.ifNot holds o) := by
  cases holds with
  | false => exact hfail rfl
  | true => exact hx rfl

/-- The items of a list are read in their order. -/
theorem mapM {g : β → Except Failure α} {obstacles : β → List Obstacle} (h : ∀ v, StopsAt (g v) (obstacles v))
    (vs : List β) : StopsAt (vs.mapM g) (vs.flatMap obstacles) := by
  induction vs with
  | nil => exact ok []
  | cons v vs ih =>
    rw [List.mapM_cons, List.flatMap_cons]
    refine (h v).bind fun y _ => ?_
    rw [bind_pure_comp]
    exact ih.map _

theorem ok_iff (h : StopsAt x os) : (∃ y, x = .ok y) ↔ os = [] := by
  cases os with
  | nil => exact iff_of_true h rfl
  | cons o os =>
    obtain rfl : x = .error o.failure := h
    exact iff_of_false nofun nofun

theorem error_iff (h : StopsAt x os) {failure : Failure} :
    x = .error failure ↔ os.head?.map Obstacle.failure = some failure := by
  cases os with
  | nil =>
    obtain ⟨y, rfl⟩ := h
    exact iff_of_false nofun nofun
  | cons o os =>
    obtain rfl : x = .error o.failure := h
    simp

end StopsAt

/-! ## Sections -/

def Value.hasItems : Value → Bool
  | .list _ _ | .map _ _ | .scalar (.text _ _) _ => true
  | _ => false

theorem Model.itemsOf_eq_error {v : Value} (h : v.hasItems = false) : Model.itemsOf v = .error .wrongKind := by
  cases v with
  | scalar s mark =>
    cases s with
    | text s style => cases h
    | _ => rfl
  | _ => cases h

theorem Model.exists_itemsOf {v : Value} (h : v.hasItems = true) : ∃ items, Model.itemsOf v = .ok items := by
  cases v with
  | scalar s mark =>
    cases s with
    | text s style => exact ⟨_, rfl⟩
    | _ => cases h
  | _ => exact ⟨_, rfl⟩

theorem Model.itemsOf_stopsAt {v : Value} (entry : String) : StopsAt (liftM (itemsOf v) : Except Failure (List Value))
    (Obstacle.ifNot v.hasItems (.unchecked entry)) := by
  refine .ifNot_last (fun h => ?_) fun h => ?_
  · obtain ⟨items, hitems⟩ := exists_itemsOf h
    rw [hitems]
    exact ⟨items, rfl⟩
  · rw [itemsOf_eq_error h]
    rfl

namespace Section

variable {name : String} {v : Value}

/-- The entries of a section, none if it is no mapping. -/
def fields (v : Value) : Fields :=
  v.fields?.getD []

def obstacles (name : String) (v : Value) : List Obstacle :=
  Obstacle.ifNot (v.isMap || v.isNull) (.reported (.sectionNotMapping name v.kindName))

@[simp] theorem unchecked_mem_obstacles {entry : String} : .unchecked entry ∈ obstacles name v ↔ False := by
  rw [obstacles, Obstacle.unchecked_mem_ifNot_reported]

/-- Whether the items under a name can be gone through, if anything is given. -/
def canBeListed (v : Value) : Bool :=
  !v.isTruthy || v.hasItems

/-- The items that are gone through. -/
def listed (v : Value) : List Value :=
  (items v).toOption.getD []

/-- Whether the items under a name can be told apart. -/
def canBeSet (v : Value) : Bool :=
  canBeListed v && (listed v).all (canBeItem v)

theorem entries_of_isMap_or_isNull (h : (v.isMap || v.isNull) = true) : entries name v = .ok (fields v) := by
  cases v with
  | map fs mark => rfl
  | list items mark => cases h
  | scalar s mark =>
    cases s with
    | null => rfl
    | _ => cases h

theorem entries_of_not (h : (v.isMap || v.isNull) = false) :
    entries name v = .error (.badConfig none (.sectionNotMapping name v.kindName)) := by
  cases v with
  | map fs mark => cases h
  | list items mark => rfl
  | scalar s mark =>
    cases s with
    | null => cases h
    | _ => rfl

theorem entries_stopsAt : StopsAt (entries name v) (obstacles name v) :=
  .ifNot_last (fun h => ⟨_, entries_of_isMap_or_isNull h⟩) entries_of_not

theorem entries_eq_ok {fs : Fields} (h : entries name v = .ok fs) : fs = fields v := by
  cases hv : v.isMap || v.isNull with
  | true =>
    rw [entries_of_isMap_or_isNull hv] at h
    exact (Except.ok.inj h).symm
  | false =>
    rw [entries_of_not hv] at h
    cases h

theorem texts_stopsAt : StopsAt (texts name v) (obstacles name v) := by
  rw [texts, bind_pure_comp]
  exact entries_stopsAt.map _

theorem items_of_canBeListed (h : canBeListed v = true) : items v = .ok (listed v) := by
  have hitems : ∃ vs, items v = .ok vs := by
    unfold items
    split
    · rename_i hgiven
      exact Model.exists_itemsOf (by simpa [canBeListed, hgiven] using h)
    · exact ⟨[], rfl⟩
  obtain ⟨vs, hvs⟩ := hitems
  rw [listed, hvs]
  rfl

theorem items_of_not (h : canBeListed v = false) : items v = .error .wrongKind := by
  simp only [canBeListed, Bool.or_eq_false_iff, Bool.not_eq_false'] at h
  rw [items, if_pos h.1, Model.itemsOf_eq_error h.2]

theorem items_stopsAt (entry : String) : StopsAt (liftM (items v) : Except Failure (List Value))
    (Obstacle.ifNot (canBeListed v) (.unchecked entry)) := by
  refine .ifNot_last (fun h => ⟨listed v, ?_⟩) fun h => ?_
  · rw [items_of_canBeListed h]
    rfl
  · rw [items_of_not h]
    rfl

theorem items_eq_ok {vs : List Value} (h : (liftM (items v) : Except Failure (List Value)) = .ok vs) :
    vs = listed v := by
  rw [listed, Failure.lift_eq_ok.mp h]
  rfl

theorem distinct_stopsAt (entry : String) : StopsAt (liftM (distinct v) : Except Failure (List Value))
    (Obstacle.ifNot (canBeSet v) (.unchecked entry)) := by
  unfold canBeSet distinct
  cases h : canBeListed v with
  | false =>
    rw [items_of_not h]
    rfl
  | true =>
    rw [items_of_canBeListed h, ok_bind, Bool.true_and]
    cases hall : (listed v).all (canBeItem v) with
    | false => rfl
    | true => exact ⟨_, rfl⟩

end Section

/-! ## Project -/

def Project.obstacles (v : Value) : List Obstacle :=
  let fs := Section.fields v
  List.flatten [
    Section.obstacles "project" v,
    Section.obstacles "project.properties" (Fields.get fs "properties"),
    Obstacle.ifNot (Section.canBeSet (Fields.get fs "classes")) (.unchecked "project.classes"),
    Section.obstacles "project.application_properties" (Fields.get fs "application_properties")]

theorem Project.read_stopsAt (v : Value) : StopsAt (read v) (obstacles v) := by
  refine Section.entries_stopsAt.bind fun fs hfs => ?_
  rw [← Section.entries_eq_ok hfs]
  refine Section.texts_stopsAt.bind fun _ _ => (Section.distinct_stopsAt _).bind fun _ _ => ?_
  exact Section.texts_stopsAt.bind fun _ _ => .ok _

theorem Project.entry_of_unchecked_mem {v : Value} {entry : String} (h : .unchecked entry ∈ obstacles v) :
    entry = "project.classes" := by
  simp only [obstacles, List.flatten_cons, List.flatten_nil, List.append_nil, List.mem_append,
    Section.unchecked_mem_obstacles, Obstacle.unchecked_mem_ifNot_unchecked, false_or, or_false] at h
  exact h.2

/-! ## Settings -/

def VolumeSettings.obstacles (v : Value) : List Obstacle :=
  let fs := Section.fields v
  List.flatten [
    Section.obstacles "resources.volumes[]" v,
    Obstacle.ifNot (Fields.get fs "name").isTruthy (.reported (.noName "resources.volumes[]")),
    Obstacle.ifNot (Section.canBeListed (Fields.get fs "mounts")) (.unchecked "resources.volumes[].mounts")]

theorem VolumeSettings.read_stopsAt (v : Value) : StopsAt (read v) (obstacles v) := by
  refine Section.entries_stopsAt.bind fun fs hfs => ?_
  rw [← Section.entries_eq_ok hfs]
  refine .ifNot (fun h => ?_) fun h => ?_
  · dsimp only
    rw [h]
    exact (Section.items_stopsAt _).bind fun _ _ => .ok _
  · dsimp only
    rw [h]
    rfl

def ProbeSettings.obstacles (v : Value) : List Obstacle :=
  if v.isTruthy then Section.obstacles "probe" v else []

theorem ProbeSettings.read?_stopsAt (v : Value) : StopsAt (read? v) (obstacles v) := by
  unfold read? obstacles
  cases v.isTruthy with
  | false => exact .ok none
  | true => exact Section.entries_stopsAt.map _

def Settings.obstacles (v : Value) : List Obstacle :=
  let fs := Section.fields v
  List.flatten [
    Section.obstacles "resources" v,
    Obstacle.ifNot (Section.canBeListed (Fields.get fs "volumes")) (.unchecked "resources.volumes"),
    (Section.listed (Fields.get fs "volumes")).flatMap VolumeSettings.obstacles,
    Section.obstacles "resources.env" (Fields.get fs "env"),
    ProbeSettings.obstacles (Fields.get fs "liveness"),
    ProbeSettings.obstacles (Fields.get fs "readiness")]

theorem Settings.read_stopsAt (v : Value) : StopsAt (read v) (obstacles v) := by
  refine Section.entries_stopsAt.bind fun fs hfs => ?_
  rw [← Section.entries_eq_ok hfs]
  refine (Section.items_stopsAt _).bind fun volumes hvolumes => ?_
  rw [← Section.items_eq_ok hvolumes]
  refine (StopsAt.mapM VolumeSettings.read_stopsAt volumes).bind fun _ _ => ?_
  refine Section.texts_stopsAt.bind fun _ _ => ?_
  refine (ProbeSettings.read?_stopsAt _).bind fun _ _ => (ProbeSettings.read?_stopsAt _).bind fun _ _ => .ok _

theorem VolumeSettings.entry_of_unchecked_mem {v : Value} {entry : String} (h : .unchecked entry ∈ obstacles v) :
    entry = "resources.volumes[].mounts" := by
  simp only [obstacles, List.flatten_cons, List.flatten_nil, List.append_nil, List.mem_append,
    Section.unchecked_mem_obstacles, Obstacle.unchecked_mem_ifNot_reported, Obstacle.unchecked_mem_ifNot_unchecked,
    false_or] at h
  exact h.2

theorem ProbeSettings.unchecked_notMem {v : Value} {entry : String} : .unchecked entry ∉ obstacles v := by
  unfold obstacles
  split <;> simp

theorem Settings.entry_of_unchecked_mem {v : Value} {entry : String} (h : .unchecked entry ∈ obstacles v) :
    entry = "resources.volumes" ∨ entry = "resources.volumes[].mounts" := by
  simp only [obstacles, List.flatten_cons, List.flatten_nil, List.append_nil, List.mem_append,
    Section.unchecked_mem_obstacles, Obstacle.unchecked_mem_ifNot_unchecked, ProbeSettings.unchecked_notMem,
    false_or, or_false, List.mem_flatMap] at h
  rcases h with ⟨-, h⟩ | ⟨volume, -, h⟩
  · exact .inl h
  · exact .inr (VolumeSettings.entry_of_unchecked_mem h)

/-! ## Images -/

def ImageBuild.obstacles (v : Value) : List Obstacle :=
  let ports := Fields.get (Section.fields v) "ports"
  List.flatten [
    Section.obstacles "images[].build" v,
    Obstacle.ifNot (ports.isNull || ports.hasItems) (.unchecked "images[].build.ports")]

theorem ImageBuild.read_stopsAt (v : Value) : StopsAt (read v) (obstacles v) := by
  refine Section.entries_stopsAt.bind fun fs hfs => ?_
  rw [← Section.entries_eq_ok hfs]
  cases hports : (Fields.get fs "ports").isNull with
  | true =>
    dsimp only
    rw [hports]
    exact .ok _
  | false =>
    dsimp only
    rw [hports]
    exact (Model.itemsOf_stopsAt _).bind fun _ _ => .ok _

theorem ImageBuild.entry_of_unchecked_mem {v : Value} {entry : String} (h : .unchecked entry ∈ obstacles v) :
    entry = "images[].build.ports" := by
  simp only [obstacles, List.flatten_cons, List.flatten_nil, List.append_nil, List.mem_append,
    Section.unchecked_mem_obstacles, Obstacle.unchecked_mem_ifNot_unchecked, false_or] at h
  exact h.2

def Image.obstacles (v : Value) : List Obstacle :=
  let fs := Section.fields v
  let build := Fields.get fs "build"
  List.flatten [
    Section.obstacles "images[]" v,
    Obstacle.ifNot (Fields.get fs "name").isTruthy (.reported (.noName "images[]")),
    if build.isNull then [] else ImageBuild.obstacles build]

theorem Image.read_stopsAt (v : Value) : StopsAt (read v) (obstacles v) := by
  refine Section.entries_stopsAt.bind fun fs hfs => ?_
  rw [← Section.entries_eq_ok hfs]
  refine .ifNot (fun h => ?_) fun h => ?_
  · dsimp only
    rw [h]
    cases hbuild : (Fields.get fs "build").isNull with
    | true => exact .ok _
    | false => exact ((ImageBuild.read_stopsAt _).map _).bind fun _ _ => .ok _
  · dsimp only
    rw [h]
    rfl

theorem Image.entry_of_unchecked_mem {v : Value} {entry : String} (h : .unchecked entry ∈ obstacles v) :
    entry = "images[].build.ports" := by
  simp only [obstacles, List.flatten_cons, List.flatten_nil, List.append_nil, List.mem_append,
    Section.unchecked_mem_obstacles, Obstacle.unchecked_mem_ifNot_reported, false_or] at h
  split at h
  · cases h
  · exact ImageBuild.entry_of_unchecked_mem h

end KubeManifest
