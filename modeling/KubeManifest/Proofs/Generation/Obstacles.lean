import KubeManifest.Generation.Config
import KubeManifest.Proofs.Build.Obstacles

/-!
# What stops the reading of a configuration

* `Config.obstacles` : everything that reading stops at, in the order of the checks;
* `Config.ofFields_stopsAt` : reading stops at the first of these;
* `Config.ofFields_reported_iff` : what is wrong is reported, except where nothing is checked.
-/

namespace KubeManifest.Config

variable {base : Path} {fs : Fields} {v : Value}

/-! ## General entries -/

def formatName (fs : Fields) : String :=
  Text.lower (entry fs "format").display

def knowsFormat (name : String) : Bool :=
  ([Format.yaml, Format.json].find? (·.name == name)).isSome

def listedImages? (v : Value) : Option (List Value) :=
  match v.orElse (.ofList []) with
  | .list images _ => some images
  | _ => none

/-- What stands for the name of the application: its own entry, else the one of the project. -/
def givenName (fs : Fields) : Value :=
  (Fields.get fs "app_name").orElse
    (.ofString (Section.textOrEmpty (Fields.get (Section.fields (Fields.get fs "project")) "artifact_id")))

def obstacles (fs : Fields) : List Obstacle :=
  List.flatten [
    Obstacle.ifNot (knowsFormat (formatName fs)) (.reported (.badFormat (formatName fs))),
    Obstacle.ifNot ((Fields.get fs "versions").orElse (.ofFields [])).isMap (.reported .versionsNotMapping),
    Obstacle.ifNot (listedImages? (Fields.get fs "images")).isSome (.reported .imagesNotList),
    Project.obstacles (Fields.get fs "project"),
    Obstacle.ifNot (givenName fs).isTruthy (.reported .noAppName),
    Obstacle.ifNot (entry fs "fragments_dir").text?.isSome (.unchecked "fragments_dir"),
    Obstacle.ifNot (entry fs "output_dir").text?.isSome (.unchecked "output_dir"),
    Settings.obstacles (Fields.get fs "resources"),
    ((listedImages? (Fields.get fs "images")).getD []).flatMap Image.obstacles]

theorem formatOf_stopsAt : StopsAt (formatOf v)
    (Obstacle.ifNot (knowsFormat (Text.lower v.display)) (.reported (.badFormat (Text.lower v.display)))) := by
  unfold formatOf knowsFormat
  dsimp only
  cases [Format.yaml, Format.json].find? (·.name == Text.lower v.display) with
  | some format => exact .ok format
  | none => rfl

theorem versionsOf_stopsAt : StopsAt (versionsOf v)
    (Obstacle.ifNot (v.orElse (.ofFields [])).isMap (.reported .versionsNotMapping)) := by
  unfold versionsOf
  cases v.orElse (.ofFields []) with
  | map fs mark => exact .ok _
  | _ => rfl

theorem imageList_stopsAt : StopsAt (imageList v)
    (Obstacle.ifNot (listedImages? v).isSome (.reported .imagesNotList)) := by
  unfold imageList listedImages?
  cases v.orElse (.ofList []) with
  | list items mark => exact .ok items
  | _ => rfl

theorem listedImages?_of_imageList {images : List Value} (h : imageList v = .ok images) :
    listedImages? v = some images := by
  unfold imageList at h
  unfold listedImages?
  cases hv : v.orElse (.ofList []) with
  | list items mark =>
    rw [hv] at h
    exact congrArg some (Except.ok.inj h)
  | _ =>
    rw [hv] at h
    cases h

theorem directory_stopsAt (entry : String) : StopsAt (liftM (directory base v) : Except Failure Path)
    (Obstacle.ifNot v.text?.isSome (.unchecked entry)) := by
  unfold directory
  cases v.text? with
  | some s => exact .ok _
  | none => rfl

theorem artifactId_of_read {project : Project} (h : Project.read v = .ok project) :
    project.artifactId = Section.textOrEmpty (Fields.get (Section.fields v) "artifact_id") := by
  obtain ⟨fs, hfs, h⟩ := bind_eq_ok.mp h
  obtain ⟨_, -, h⟩ := bind_eq_ok.mp h
  obtain ⟨_, -, h⟩ := bind_eq_ok.mp h
  obtain ⟨_, -, h⟩ := bind_eq_ok.mp h
  rw [← Section.entries_eq_ok hfs, ← Except.ok.inj h]

/-! ## All entries -/

/-- Reading a configuration stops at the first of its obstacles. -/
theorem ofFields_stopsAt (base : Path) (fs : Fields) : StopsAt (ofFields base fs) (obstacles fs) := by
  refine formatOf_stopsAt.bind fun _ _ => versionsOf_stopsAt.bind fun _ _ => ?_
  refine imageList_stopsAt.bind fun images himages => (Project.read_stopsAt _).bind fun project hproject => ?_
  have hname : (Fields.get fs "app_name").orElse (.ofString project.artifactId) = givenName fs := by
    rw [givenName, artifactId_of_read hproject]
  dsimp only
  rw [hname]
  refine .ifNot (fun h => ?_) fun h => ?_
  · rw [h]
    refine (directory_stopsAt _).bind fun _ _ => (directory_stopsAt _).bind fun _ _ => ?_
    refine (Settings.read_stopsAt _).bind fun _ _ => ?_
    rw [listedImages?_of_imageList himages]
    exact (StopsAt.mapM Image.read_stopsAt images).bind fun _ _ => .ok _
  · rw [h]
    rfl

/-- The entries that nothing is checked about. -/
def uncheckedEntries : List String :=
  ["project.classes", "fragments_dir", "output_dir", "resources.volumes", "resources.volumes[].mounts",
    "images[].build.ports"]

theorem mem_uncheckedEntries {entry : String} (h : .unchecked entry ∈ obstacles fs) : entry ∈ uncheckedEntries := by
  simp only [obstacles, List.mem_flatten, List.mem_cons, List.not_mem_nil, or_false, exists_eq_or_imp, exists_eq_left,
    Obstacle.unchecked_mem_ifNot_reported, Obstacle.unchecked_mem_ifNot_unchecked, false_or] at h
  rcases h with h | ⟨-, rfl⟩ | ⟨-, rfl⟩ | h | h
  · rw [Project.entry_of_unchecked_mem h]
    decide
  · decide
  · decide
  · rcases Settings.entry_of_unchecked_mem h with rfl | rfl <;> decide
  · obtain ⟨image, -, h⟩ := List.mem_flatMap.mp h
    rw [Image.entry_of_unchecked_mem h]
    decide

/-- **What is wrong with a configuration is reported, except where nothing is checked.** A configuration without
obstacles is read, and any other fails at its first obstacle. So it is read, or its fault is reported, unless the first
obstacle is the value of one of six entries. The digits of numbers that are shown are taken to have no limit, as in
`Value.display`. -/
theorem ofFields_reported_iff (base : Path) (fs : Fields) :
    ((∃ config, ofFields base fs = .ok config) ↔ obstacles fs = []) ∧
    (∀ failure, ofFields base fs = .error failure ↔ (obstacles fs).head?.map Obstacle.failure = some failure) ∧
    (((∃ config, ofFields base fs = .ok config) ∨ ∃ fault, ofFields base fs = .error (.badConfig none fault)) ↔
      ∀ entry ∈ uncheckedEntries, (obstacles fs).head? ≠ some (.unchecked entry)) := by
  have hstops := ofFields_stopsAt base fs
  refine ⟨hstops.ok_iff, fun _ => hstops.error_iff, ?_⟩
  rw [hstops.ok_iff]
  simp only [hstops.error_iff]
  cases hobstacles : obstacles fs with
  | nil => exact iff_of_true (.inl rfl) fun _ _ => nofun
  | cons o os =>
    cases o with
    | reported fault => exact iff_of_true (.inr ⟨fault, rfl⟩) fun _ _ => nofun
    | unchecked entry =>
      have hentry : entry ∈ uncheckedEntries := mem_uncheckedEntries (by rw [hobstacles]; exact List.mem_cons_self)
      refine iff_of_false ?_ fun h => h entry hentry rfl
      rintro (h | ⟨fault, h⟩)
      · cases h
      · cases h

/-- A directory that is a number is not reported. -/
example : obstacles [(.ofString "app_name", .ofString "web"), (.ofString "fragments_dir", .ofInt 5)] =
    [.unchecked "fragments_dir"] := by
  rfl

end KubeManifest.Config
