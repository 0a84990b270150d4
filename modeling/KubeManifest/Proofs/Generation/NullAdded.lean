import KubeManifest.Generation.Config
import KubeManifest.Proofs.Build.NullAdded

/-!
# Configurations with one more entry that is null

* `Config.Looked`, `Config.Reads` : what is looked up in a configuration, and what it is read as;
* `Config.ofFields_eq_ok_iff` : a configuration is accepted if all that is looked up is read;
* `Config.Place` : the mappings of a configuration, with the entries that they may have;
* `Config.ofFields_addsNull` : what becomes of an accepted configuration with one more entry that is null.
-/

namespace KubeManifest.Config

variable {base : Path} {fs gs : Fields} {config : Config} {name : String}

/-! ## What is looked up -/

structure Looked where
  format : Value
  versions : Value
  images : Value
  project : Value
  appName : Value
  fragmentsDir : Value
  outputDir : Value
  resources : Value

def looked (fs : Fields) : Looked where
  format := entry fs "format"
  versions := Fields.get fs "versions"
  images := Fields.get fs "images"
  project := Fields.get fs "project"
  appName := Fields.get fs "app_name"
  fragmentsDir := entry fs "fragments_dir"
  outputDir := entry fs "output_dir"
  resources := Fields.get fs "resources"

structure Reads (base : Path) (found : Looked) (config : Config) : Prop where
  format : formatOf found.format = .ok config.format
  versions : versionsOf found.versions = .ok config.versions
  images : ∃ images, imageList found.images = .ok images ∧ images.mapM Image.read = .ok config.images
  project : Project.read found.project = .ok config.project
  named : (found.appName.orElse (.ofString config.project.artifactId)).isTruthy = true
  appName : (found.appName.orElse (.ofString config.project.artifactId)).display = config.appName
  fragmentsDir : directory base found.fragmentsDir = .ok config.fragmentsDir
  outputDir : directory base found.outputDir = .ok config.outputDir
  settings : Settings.read found.resources = .ok config.settings

/-- Where other directories are looked up, they alone decide. -/
theorem Reads.ofFields_eq {found : Looked} (h : Reads base found config) (hlooked : looked gs =
      { found with fragmentsDir := entry gs "fragments_dir", outputDir := entry gs "output_dir" }) :
    ofFields base gs = do
      let fragmentsDir ← directory base (entry gs "fragments_dir")
      let outputDir ← directory base (entry gs "output_dir")
      return { config with fragmentsDir, outputDir } := by
  obtain ⟨images, himages, hread⟩ := h.images
  have hformat : entry gs "format" = found.format := congrArg Looked.format hlooked
  have hversions : Fields.get gs "versions" = found.versions := congrArg Looked.versions hlooked
  have hlist : Fields.get gs "images" = found.images := congrArg Looked.images hlooked
  have hproject : Fields.get gs "project" = found.project := congrArg Looked.project hlooked
  have happName : Fields.get gs "app_name" = found.appName := congrArg Looked.appName hlooked
  have hresources : Fields.get gs "resources" = found.resources := congrArg Looked.resources hlooked
  rw [ofFields, hformat, h.format, ok_bind, hversions, h.versions, ok_bind, hlist, himages, ok_bind, hproject,
    h.project, ok_bind, happName]
  dsimp only
  rw [h.named, h.appName, hresources, h.settings]
  cases directory base (entry gs "fragments_dir") with
  | error misfit => rfl
  | ok fragmentsDir =>
    cases directory base (entry gs "output_dir") with
    | error misfit => rfl
    | ok outputDir =>
      rw [hread]
      rfl

/-- A configuration is accepted if all that is looked up is read. -/
theorem ofFields_eq_ok_iff : ofFields base fs = .ok config ↔ Reads base (looked fs) config := by
  constructor
  · intro h
    obtain ⟨format, hformat, h⟩ := bind_eq_ok.mp h
    obtain ⟨versions, hversions, h⟩ := bind_eq_ok.mp h
    obtain ⟨items, hitems, h⟩ := bind_eq_ok.mp h
    obtain ⟨project, hproject, h⟩ := bind_eq_ok.mp h
    dsimp only at h
    split at h
    · cases h
    · rename_i hnamed
      simp only [Bool.not_eq_true', Bool.not_eq_false] at hnamed
      obtain ⟨fragmentsDir, hfragmentsDir, h⟩ := bind_eq_ok.mp h
      obtain ⟨outputDir, houtputDir, h⟩ := bind_eq_ok.mp h
      obtain ⟨settings, hsettings, h⟩ := bind_eq_ok.mp h
      obtain ⟨images, himages, h⟩ := bind_eq_ok.mp h
      obtain rfl := Except.ok.inj h
      exact ⟨hformat, hversions, ⟨items, hitems, himages⟩, hproject, hnamed, rfl,
        Failure.lift_eq_ok.mp hfragmentsDir, Failure.lift_eq_ok.mp houtputDir, hsettings⟩
  · intro h
    have hfragmentsDir : directory base (entry fs "fragments_dir") = .ok config.fragmentsDir := h.fragmentsDir
    have houtputDir : directory base (entry fs "output_dir") = .ok config.outputDir := h.outputDir
    rw [h.ofFields_eq rfl, hfragmentsDir, houtputDir]
    rfl

/-! ## One entry more -/

theorem entry_addsNull (h : Fields.AddsNull name fs gs) {other : String} (hne : other ≠ name) :
    entry gs other = entry fs other := by
  rw [entry, entry, h.find?_ne hne]

theorem entry_addsNull_self (h : Fields.AddsNull name fs gs) : entry gs name = .null := by
  rw [entry, h.find?_self]
  rfl

theorem entry_revalues {R : Value → Value → Prop} (h : Fields.Revalues name R fs gs) {other : String}
    (hne : other ≠ name) : entry gs other = entry fs other := by
  rw [entry, entry, h.others other hne]

/-- Entries that a default stands for if they are missing, and nothing if they are null. -/
def strictEntries : List String :=
  ["format", "fragments_dir", "output_dir"]

theorem looked_addsNull (h : Fields.AddsNull name fs gs) (hname : name ∉ strictEntries) : looked gs = looked fs := by
  have hne : ∀ other ∈ strictEntries, other ≠ name := fun other hother heq => hname (heq ▸ hother)
  simp only [looked, h.get, entry_addsNull h (hne "format" (by decide)),
    entry_addsNull h (hne "fragments_dir" (by decide)), entry_addsNull h (hne "output_dir" (by decide))]

theorem ofFields_addsNull_format (h : Fields.AddsNull "format" fs gs) :
    ofFields base gs = .error (.badConfig none (.badFormat "none")) := by
  rw [ofFields, entry_addsNull_self h]
  rfl

theorem looked_addsNull_directory (h : Fields.AddsNull name fs gs) (hname : name ≠ "format") : looked gs =
    { looked fs with fragmentsDir := entry gs "fragments_dir", outputDir := entry gs "output_dir" } := by
  simp only [looked, h.get, entry_addsNull h hname.symm]

theorem ofFields_addsNull_directory (hconfig : Reads base (looked fs) config) (h : Fields.AddsNull name fs gs)
    (hname : name = "fragments_dir" ∨ name = "output_dir") : ofFields base gs = .error (.misfit .wrongKind) := by
  rcases hname with rfl | rfl
  · rw [hconfig.ofFields_eq (looked_addsNull_directory h (by decide)), entry_addsNull_self h]
    rfl
  · have hfragmentsDir : directory base (entry fs "fragments_dir") = .ok config.fragmentsDir := hconfig.fragmentsDir
    rw [hconfig.ofFields_eq (looked_addsNull_directory h (by decide)), entry_addsNull_self h,
      entry_addsNull h (by decide), hfragmentsDir]
    rfl

/-! ## Sections -/

def sections : List String :=
  ["versions", "images", "project", "resources"]

theorem looked_revalues {R : Value → Value → Prop} (h : Fields.Revalues name R fs gs) (hname : name ∈ sections) :
    looked gs =
      { looked fs with
        versions := Fields.get gs "versions"
        images := Fields.get gs "images"
        project := Fields.get gs "project"
        resources := Fields.get gs "resources" } := by
  have hapart : ∀ name ∈ sections, ∀ other ∈ "app_name" :: strictEntries, other ≠ name := by decide
  have hne := hapart name hname
  simp only [looked, h.get_ne "app_name" (hne _ (by decide)), entry_revalues h (hne "format" (by decide)),
    entry_revalues h (hne "fragments_dir" (by decide)), entry_revalues h (hne "output_dir" (by decide))]

namespace Reads

variable {R : Value → Value → Prop}

theorem of_versions (hconfig : Reads base (looked fs) config) (h : Fields.Revalues "versions" R fs gs)
    {versions : Versions} (hversions : versionsOf (Fields.get gs "versions") = .ok versions) :
    Reads base (looked gs) { config with versions } := by
  rw [looked_revalues h (by decide), h.get_ne "images", h.get_ne "project", h.get_ne "resources"]
  exact { hconfig with versions := hversions }

theorem of_images (hconfig : Reads base (looked fs) config) (h : Fields.Revalues "images" R fs gs)
    (himages : ∃ images, imageList (Fields.get gs "images") = .ok images ∧
      images.mapM Image.read = .ok config.images) : Reads base (looked gs) config := by
  rw [looked_revalues h (by decide), h.get_ne "versions", h.get_ne "project", h.get_ne "resources"]
  exact { hconfig with images := himages }

theorem of_project (hconfig : Reads base (looked fs) config) (h : Fields.Revalues "project" R fs gs)
    (hproject : Project.read (Fields.get gs "project") = .ok config.project) : Reads base (looked gs) config := by
  rw [looked_revalues h (by decide), h.get_ne "versions", h.get_ne "images", h.get_ne "resources"]
  exact { hconfig with project := hproject }

theorem of_resources (hconfig : Reads base (looked fs) config) (h : Fields.Revalues "resources" R fs gs)
    {settings : Settings} (hsettings : Settings.read (Fields.get gs "resources") = .ok settings) :
    Reads base (looked gs) { config with settings } := by
  rw [looked_revalues h (by decide), h.get_ne "versions", h.get_ne "images", h.get_ne "project"]
  exact { hconfig with settings := hsettings }

end Reads

def clearVersion (name : String) (versions : Versions) : Versions where
  core := if name = "core" then .null else versions.core
  extensions := if name = "extensions" then .null else versions.extensions
  apps := if name = "apps" then .null else versions.apps

theorem versionsOf_map (fs : Fields) (mark : Option Mark) : versionsOf (.map fs mark) = .ok {
    core := (Fields.find? fs "core").getD (.ofString "v1")
    extensions := (Fields.find? fs "extensions").getD (.ofString "extensions/v1beta1")
    apps := (Fields.find? fs "apps").getD (.ofString "apps/v1beta1") } := by
  cases fs <;> rfl

theorem versionsOf_addsNull {v w : Value} {versions : Versions} (h : Value.AddsNull name [] v w)
    (hv : versionsOf v = .ok versions) : versionsOf w = .ok (clearVersion name versions) := by
  obtain ⟨fs, gs, mark, rfl, rfl, hnull⟩ := h.entries
  rw [versionsOf_map] at hv ⊢
  obtain rfl := Except.ok.inj hv
  simp only [hnull.getD_find?, clearVersion]

theorem imageList_list (xs : List Value) (mark : Option Mark) : imageList (.list xs mark) = .ok xs := by
  cases xs <;> rfl

theorem images_addsNull {v w : Value} {i : Nat} {path : List Value.Step} {images : List Image}
    (h : Value.AddsNull name (.item i :: path) v w)
    (hread : ∀ x y, Value.AddsNull name path x y → Image.read y = Image.read x)
    (hv : ∃ items, imageList v = .ok items ∧ items.mapM Image.read = .ok images) :
    ∃ items, imageList w = .ok items ∧ items.mapM Image.read = .ok images := by
  obtain ⟨before, after, x, y, mark, rfl, rfl, hnull⟩ := h.atItem
  obtain ⟨items, hitems, hread'⟩ := hv
  rw [imageList_list] at hitems
  obtain rfl := Except.ok.inj hitems
  exact ⟨_, imageList_list _ _, mapM_eq_of_item (hread x y hnull) ▸ hread'⟩

theorem settings_addsNull {v w : Value} {other : String} {path : List Value.Step} {settings settings' : Settings}
    (h : Value.AddsNull name (.key other :: path) v w) (hv : Settings.read v = .ok settings)
    (hreads : ∀ fs gs, Fields.Revalues other (Value.AddsNull name path) fs gs → Settings.Reads fs settings →
      Settings.Reads gs settings') : Settings.read w = .ok settings' := by
  obtain ⟨fs, gs, mark, rfl, rfl, hrevalues⟩ := h.atKey
  rw [Settings.read_eq_ok_iff] at hv ⊢
  exact hreads fs gs hrevalues hv

/-! ## Places -/

/-- The mappings of a configuration whose entries are known: all of it, its sections, the probes, a volume, an image and
what it is built from. -/
inductive Place
  | top
  | versions
  | project
  | resources
  | liveness
  | readiness
  | volume (i : Nat)
  | image (i : Nat)
  | build (i : Nat)

namespace Place

def path : Place → List Value.Step
  | top => []
  | versions => [.key "versions"]
  | project => [.key "project"]
  | resources => [.key "resources"]
  | liveness => [.key "resources", .key "liveness"]
  | readiness => [.key "resources", .key "readiness"]
  | volume i => [.key "resources", .key "volumes", .item i]
  | image i => [.key "images", .item i]
  | build i => [.key "images", .item i, .key "build"]

/-- The entries that a mapping may have, and need not. -/
def optional : Place → List String
  | top => ["app_name", "fragments_dir", "output_dir", "format", "versions", "project", "resources", "images"]
  | versions => ["core", "extensions", "apps"]
  | project => ["group_id", "artifact_id", "version", "properties", "classes", "application_properties"]
  | resources => ["image_pull_policy", "env", "privileged", "volumes", "liveness", "readiness"]
  | liveness | readiness => ["get_url", "exec", "tcp_port", "initial_delay_seconds", "timeout_seconds"]
  | volume _ => ["mounts"]
  | image _ => ["alias", "build", "buildable"]
  | build _ => ["ports"]

/-- What an accepted configuration becomes with one more entry that is null. -/
def outcome (name : String) (config : Config) : Place → Except Failure Config
  | top =>
    if name = "format" then .error (.badConfig none (.badFormat "none"))
    else if name = "fragments_dir" ∨ name = "output_dir" then .error (.misfit .wrongKind)
    else .ok config
  | versions => .ok { config with versions := clearVersion name config.versions }
  | liveness =>
    .ok { config with settings := { config.settings with liveness := some (config.settings.liveness.getD {}) } }
  | readiness =>
    .ok { config with settings := { config.settings with readiness := some (config.settings.readiness.getD {}) } }
  | _ => .ok config

/-- Whether an entry that is null counts as not given. -/
def Lenient (name : String) (config : Config) : Place → Prop
  | top => name ∉ strictEntries
  | versions => False
  | liveness => config.settings.liveness.isSome
  | readiness => config.settings.readiness.isSome
  | _ => True

end Place

/-- An accepted configuration with one more entry that is null comes to the outcome of the mapping that it is in. -/
theorem ofFields_eq_outcome {place : Place} (hadded : Value.AddsNull name place.path (.ofFields fs) (.ofFields gs))
    (hname : name ∈ place.optional) (hok : ofFields base fs = .ok config) :
    ofFields base gs = place.outcome name config := by
  rw [ofFields_eq_ok_iff] at hok
  cases place with
  | top =>
    have h := hadded.entries_ofFields
    rw [Place.outcome]
    split
    · rename_i hformat
      exact ofFields_addsNull_format (hformat ▸ h)
    · rename_i hformat
      split
      · rename_i hdirectory
        exact ofFields_addsNull_directory hok h hdirectory
      · rename_i hdirectory
        rw [ofFields_eq_ok_iff, looked_addsNull h (by simp [strictEntries, hformat, not_or.mp hdirectory])]
        exact hok
  | versions =>
    have h := hadded.atKey_ofFields
    exact ofFields_eq_ok_iff.mpr (hok.of_versions h (versionsOf_addsNull h.get_self hok.versions))
  | project =>
    have h := hadded.atKey_ofFields
    exact ofFields_eq_ok_iff.mpr (hok.of_project h (Project.read_addsNull h.get_self ▸ hok.project))
  | resources =>
    have h := hadded.atKey_ofFields
    exact ofFields_eq_ok_iff.mpr (hok.of_resources h (Settings.read_addsNull h.get_self ▸ hok.settings))
  | liveness =>
    have h := hadded.atKey_ofFields
    exact ofFields_eq_ok_iff.mpr (hok.of_resources h
      (settings_addsNull h.get_self hok.settings fun _ _ hprobe hreads => hreads.of_liveness hprobe))
  | readiness =>
    have h := hadded.atKey_ofFields
    exact ofFields_eq_ok_iff.mpr (hok.of_resources h
      (settings_addsNull h.get_self hok.settings fun _ _ hprobe hreads => hreads.of_readiness hprobe))
  | volume i =>
    have h := hadded.atKey_ofFields
    exact ofFields_eq_ok_iff.mpr (hok.of_resources h
      (settings_addsNull h.get_self hok.settings fun _ _ hvolumes hreads => hreads.of_volumes hvolumes))
  | image i =>
    have h := hadded.atKey_ofFields
    exact ofFields_eq_ok_iff.mpr (hok.of_images h
      (images_addsNull h.get_self (fun _ _ => Image.read_addsNull) hok.images))
  | build i =>
    have h := hadded.atKey_ofFields
    obtain rfl : name = "ports" := List.mem_singleton.mp hname
    exact ofFields_eq_ok_iff.mpr (hok.of_images h
      (images_addsNull h.get_self (fun _ _ => Image.read_addsNull_build) hok.images))

theorem clearVersion_ne {v w : Value} {versions : Versions} (h : Value.AddsNull name [] v w)
    (hname : name ∈ Place.versions.optional) (hv : versionsOf v = .ok versions) :
    clearVersion name versions ≠ versions := by
  obtain ⟨fs, gs, mark, rfl, rfl, hnull⟩ := h.entries
  rw [versionsOf_map] at hv
  obtain rfl := Except.ok.inj hv
  simp only [Place.optional, List.mem_cons, List.not_mem_nil, or_false] at hname
  rcases hname with rfl | rfl | rfl <;> simp [clearVersion, hnull.1]

theorem some_getD_eq_self_iff {α : Type} (x : α) {o : Option α} : some (o.getD x) = o ↔ o.isSome = true := by
  cases o <;> simp

/-- The outcome is the configuration itself if the entry counts as not given. -/
theorem outcome_eq_ok_iff {place : Place} (hadded : Value.AddsNull name place.path (.ofFields fs) (.ofFields gs))
    (hname : name ∈ place.optional) (hok : ofFields base fs = .ok config) :
    place.outcome name config = .ok config ↔ place.Lenient name config := by
  cases place with
  | top =>
    rw [Place.outcome, Place.Lenient, strictEntries]
    by_cases hformat : name = "format"
    · simp [hformat]
    · by_cases hdirectory : name = "fragments_dir" ∨ name = "output_dir"
      · rw [if_neg hformat, if_pos hdirectory]
        exact iff_of_false nofun (by simp [hdirectory])
      · rw [if_neg hformat, if_neg hdirectory]
        simp [hformat, not_or.mp hdirectory]
  | versions =>
    have h := hadded.atKey_ofFields
    refine iff_of_false (fun heq => ?_) id
    exact clearVersion_ne h.get_self hname (ofFields_eq_ok_iff.mp hok).versions
      (congrArg Config.versions (Except.ok.inj heq))
  | liveness =>
    rw [Place.outcome, Place.Lenient, ← some_getD_eq_self_iff {}]
    refine ⟨fun h => congrArg (fun c => c.settings.liveness) (Except.ok.inj h), fun h => ?_⟩
    rw [h]
  | readiness =>
    rw [Place.outcome, Place.Lenient, ← some_getD_eq_self_iff {}]
    refine ⟨fun h => congrArg (fun c => c.settings.readiness) (Except.ok.inj h), fun h => ?_⟩
    rw [h]
  | _ => exact iff_of_true rfl trivial

/-- **What an entry that is null does to an accepted configuration.** It is refused for its format or a directory, takes
a version away, and makes a probe of none. Anywhere else, it is read like one that is not given. -/
theorem ofFields_addsNull {place : Place} (hadded : Value.AddsNull name place.path (.ofFields fs) (.ofFields gs))
    (hname : name ∈ place.optional) (hok : ofFields base fs = .ok config) :
    ofFields base gs = place.outcome name config ∧ (ofFields base gs = .ok config ↔ place.Lenient name config) := by
  have houtcome := ofFields_eq_outcome hadded hname hok
  refine ⟨houtcome, ?_⟩
  rw [houtcome]
  exact outcome_eq_ok_iff hadded hname hok

/-- A version of the core group that is null takes the place of the one that stands for none. -/
theorem ofFields_addsNull_core :
    let versions (entries : Fields) : Fields :=
      [(.ofString "app_name", .ofString "web"), (.ofString "versions", .ofFields entries)]
    let null : Fields := [(.ofString "core", .null)]
    let base : Path := Path.ofText "."
    Value.AddsNull "core" Place.versions.path (.ofFields (versions [])) (.ofFields (versions null)) ∧
      "core" ∈ Place.versions.optional ∧ ∃ config, ofFields base (versions []) = .ok config ∧
        config.versions.core = .ofString "v1" ∧
        ofFields base (versions null) = .ok { config with versions := { config.versions with core := .null } } ∧
        ofFields base (versions null) ≠ .ok config := by
  have hok : ofFields (Path.ofText ".")
      [(.ofString "app_name", .ofString "web"), (.ofString "versions", .ofFields [])] = .ok {
        appName := "web"
        fragmentsDir := (Path.ofText ".").join (Path.ofText "src/main/fabric8")
        outputDir := (Path.ofText ".").join (Path.ofText "target/fabric8") } := rfl
  intro versions null base
  have hadded : Value.AddsNull "core" Place.versions.path (.ofFields (versions [])) (.ofFields (versions null)) :=
    .key rfl (show Fields.find? [(.ofString "app_name", .ofString "web")] "versions" = none from rfl)
      (.here ⟨rfl, [], [], .ofString "core", rfl, rfl, rfl⟩)
  have hname : "core" ∈ Place.versions.optional := by decide
  obtain ⟨houtcome, hiff⟩ := ofFields_addsNull hadded hname hok
  exact ⟨hadded, hname, _, hok, rfl, houtcome, fun h => hiff.mp h⟩

end KubeManifest.Config
