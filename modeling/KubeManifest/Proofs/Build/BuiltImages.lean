import KubeManifest.Proofs.Build.Containers
import KubeManifest.Proofs.Build.ImageName
import KubeManifest.Proofs.Build.PortRange
import KubeManifest.Proofs.Merge.Variables
import KubeManifest.Proofs.Value.Restated

/-!
# Containers of the images that are built

An image says whether it is built, or leaves that to its build section. The images that are built are known before any
of their containers is, so a missing build section is blamed before anything else, and the last of them is the
application.

* `Image.Built`, `Image.Unbuilt` : images that are built, and those of them that cannot be;
* `Project.Names`, `Probe.Chosen`, `Project.ContainerFor` : the container of an image;
* `Project.builtImages_eq`, `Project.builtImages_append` : the images that are built, and the first that cannot be;
* `OtherwiseFails` : calculations that do not blame a missing build section;
* `Project.containers_of_built` : one container for each of them, in order.
-/

namespace KubeManifest

/-! ## Images -/

namespace Image

/-- Whether an image is built here: as it says, and without a word if it has a build section. -/
def Built (image : Image) : Prop :=
  if image.buildable.isNull then image.build.isSome = true else image.buildable.isTruthy = true

instance : DecidablePred Built :=
  fun image => inferInstanceAs (Decidable (if image.buildable.isNull then _ else _))

/-- Whether an image is to be built, but does not say how. -/
def Unbuilt (image : Image) : Prop :=
  image.Built ∧ image.build = none

theorem isBuildable_iff {image : Image} : image.isBuildable = true ↔ image.Built := by
  unfold isBuildable buildableValue Built
  split <;> rfl

end Image

namespace Project

variable {p : Project} {s : Settings} {image : Image} {images before after : List Image} {containers : List Container}
  {last : Bool}

theorem builtImages_cons (image : Image) (images : List Image) : builtImages (image :: images) =
    if image.Built then
      if image.build = none then .error (.noBuild image.name.display) else (builtImages images).map (image :: ·)
    else builtImages images := by
  rw [builtImages]
  by_cases hbuilt : image.Built
  · have hbuildable : image.isBuildable = true := Image.isBuildable_iff.mpr hbuilt
    cases hbuild : image.build <;> cases builtImages images <;> simp [hbuilt, hbuildable] <;> rfl
  · have hbuildable : ¬image.isBuildable = true := mt Image.isBuildable_iff.mp hbuilt
    simp [hbuilt, hbuildable]

theorem builtImages_eq (h : ∀ image ∈ images, ¬image.Unbuilt) :
    builtImages images = .ok (images.filter fun image => image.Built) := by
  induction images with
  | nil => rfl
  | cons image images ih =>
    obtain ⟨himage, himages⟩ := List.forall_mem_cons.mp h
    rw [builtImages_cons, ih himages]
    by_cases hbuilt : image.Built
    · have hbuild : ¬image.build = none := fun hnone => himage ⟨hbuilt, hnone⟩
      simp [hbuilt, hbuild, Except.map]
    · simp [hbuilt]

/-- The first image that cannot be built is blamed. -/
theorem builtImages_append (hbefore : ∀ other ∈ before, ¬other.Unbuilt) (h : image.Unbuilt) :
    builtImages (before ++ image :: after) = .error (.noBuild image.name.display) := by
  induction before with
  | nil => rw [List.nil_append, builtImages_cons, if_pos h.1, if_pos h.2]
  | cons other before ih =>
    obtain ⟨hother, hbefore⟩ := List.forall_mem_cons.mp hbefore
    rw [List.cons_append, builtImages_cons, ih hbefore]
    by_cases hbuilt : other.Built
    · have hbuild : ¬other.build = none := fun hnone => hother ⟨hbuilt, hnone⟩
      simp [hbuilt, hbuild, Except.map]
    · simp [hbuilt]

/-- Either every image can be built that is to be, or there is a first one that cannot. -/
theorem unbuilt_cases (images : List Image) : (∀ image ∈ images, ¬image.Unbuilt) ∨
    ∃ before image after, images = before ++ image :: after ∧ (∀ other ∈ before, ¬other.Unbuilt) ∧ image.Unbuilt := by
  classical
  cases hfind : images.find? fun image => image.Unbuilt with
  | none => exact .inl (by simpa using hfind)
  | some image =>
    obtain ⟨hunbuilt, before, after, rfl, hbefore⟩ := List.find?_eq_some_iff_append.mp hfind
    exact .inr ⟨before, image, after, rfl, by simpa using hbefore, by simpa using hunbuilt⟩

/-! ## Containers -/

/-- The name of the container of an image: its alias, or the user of the image and the project. The group stands in
for a user that is missing. -/
inductive Names (p : Project) (image : Image) : Value → Prop
  | alias (h : image.givenName.isTruthy = true) : Names p image image.givenName
  | user {text user rest : String} {n : ImageName} (h : image.givenName.isTruthy = false)
      (htext : image.name.text? = some text) (hparse : ImageName.parse text = .ok n)
      (huser : n.repository = user ++ "/" ++ rest ∧ '/' ∉ user.toList ∧ user ≠ "") :
      Names p image (.ofString (user ++ "-" ++ p.artifactId))
  | group {text : String} {n : ImageName} (h : image.givenName.isTruthy = false)
      (htext : image.name.text? = some text) (hparse : ImageName.parse text = .ok n)
      (hnone : '/' ∉ n.repository.toList ∨ n.repository.toList.head? = some '/') :
      Names p image (.ofString (p.groupId ++ "-" ++ p.artifactId))

end Project

/-- The probe of a container: the one that is set, and for the application itself, if it tells its health, a request
for that. -/
inductive Probe.Chosen (p : Project) (settings : Option ProbeSettings) (delay : Int) : Bool → Option Probe → Prop
  | configured {last : Bool} {probe : Probe} (h : Probe.ofSettings? settings = .ok (some probe)) :
      Chosen p settings delay last (some probe)
  | health (h : Probe.ofSettings? settings = .ok none) (hclass : p.hasClass Project.healthIndicator = true) :
      Chosen p settings delay true (some {
        httpGet := some { port := .ofInt p.healthPort, path := .ofString "/health" }
        initialDelaySeconds := .ofInt delay })
  | none {last : Bool} (h : Probe.ofSettings? settings = .ok none)
      (hno : last = false ∨ p.hasClass Project.healthIndicator = false) : Chosen p settings delay last none

structure Project.ContainerFor (p : Project) (s : Settings) (image : Image) (last : Bool) (c : Container) : Prop where
  fullName : c.image = image.name
  name : p.Names image c.name
  ports : c.ports = none ↔ image.build.bind (·.ports) = none
  env : c.DistinctEnv
  liveness : Probe.Chosen p s.liveness 180 last c.livenessProbe
  readiness : Probe.Chosen p s.readiness 10 last c.readinessProbe

theorem Probe.chosen {p : Project} {settings : Option ProbeSettings} {delay : Int} {configured : Option Probe}
    (h : Probe.ofSettings? settings = .ok configured) (last : Bool) :
    Probe.Chosen p settings delay last (if last then configured <|> p.healthProbe? delay else configured) := by
  cases configured with
  | some probe => cases last <;> exact .configured h
  | none =>
    cases last with
    | false => exact .none h (.inl rfl)
    | true =>
      cases hclass : p.hasClass Project.healthIndicator with
      | true => simpa [Project.healthProbe?, hclass] using Probe.Chosen.health h hclass
      | false => simpa [Project.healthProbe?, hclass] using Probe.Chosen.none h (.inr hclass)

namespace ImageName

theorem user?_eq_some_iff {n : ImageName} {user : String} :
    n.user? = some user ↔ ∃ rest, n.repository = user ++ "/" ++ rest ∧ '/' ∉ user.toList := by
  constructor
  · intro h
    obtain ⟨⟨before, after⟩, hcut, rfl⟩ := Option.map_eq_some_iff.mp h
    obtain ⟨heq, hslash⟩ := Text.cutFirst?_eq_some_iff.mp hcut
    refine ⟨String.ofList after, ?_, by simpa using hslash⟩
    rw [← String.toList_inj, heq]
    simp
  · rintro ⟨rest, heq, hslash⟩
    have hcut : Text.cutFirst? '/' n.repository.toList = some (user.toList, rest.toList) :=
      Text.cutFirst?_eq_some_iff.mpr ⟨by simp [heq], hslash⟩
    rw [user?, hcut]
    simp

end ImageName

theorem Image.exists_of_parsedName {image : Image} {n : ImageName} (h : image.parsedName = .ok n) :
    ∃ text, image.name.text? = some text ∧ ImageName.parse text = .ok n := by
  unfold parsedName at h
  split at h
  · rename_i text style mark hname
    exact ⟨text, by rw [hname]; rfl, h⟩
  · cases h
  · cases h

namespace Project

variable {p : Project} {s : Settings} {image : Image} {images before after : List Image} {containers : List Container}
  {last : Bool}

theorem names_of_containerName {name : Value} (h : p.containerName image = .ok name) : p.Names image name := by
  unfold containerName at h
  split at h
  · rename_i halias
    obtain rfl := Except.ok.inj h
    exact .alias halias
  · rename_i halias
    have halias : image.givenName.isTruthy = false := by simpa using halias
    obtain ⟨n, hparsed, h⟩ := bind_eq_ok.mp h
    obtain rfl := Except.ok.inj h
    obtain ⟨text, htext, hparse⟩ := Image.exists_of_parsedName hparsed
    cases huser : n.user? with
    | none =>
      have hslash : '/' ∉ n.repository.toList := by
        rw [← Text.cutFirst?_eq_none_iff]
        simpa [ImageName.user?] using huser
      exact .group halias htext hparse (.inl hslash)
    | some user =>
      obtain ⟨rest, hrepository, hslash⟩ := ImageName.user?_eq_some_iff.mp huser
      by_cases hempty : user = ""
      · subst hempty
        exact .group halias htext hparse (.inr (by simp [hrepository]))
      · simpa [hempty] using Names.user halias htext hparse ⟨hrepository, hslash, hempty⟩

theorem isNone_of_containerPorts {ports : Option (List ContainerPort)} (h : p.containerPorts image = .ok ports) :
    ports = none ↔ image.build.bind (·.ports) = none := by
  rcases containerPorts_eq_ok h with ⟨hnone, rfl⟩ | ⟨specs, described, hspecs, -, rfl⟩
  · exact iff_of_true rfl hnone
  · simp [hspecs]

/-- What is known of the container of an image. -/
theorem containerFor_of_container {c : Container} (henv : s.env.Keyed) (h : p.container s image last = .ok c) :
    p.ContainerFor s image last c := by
  obtain ⟨liveness, readiness, name, policy, ports, hliveness, hreadiness, hname, hports, rfl⟩ := container_eq_ok h
  have hvariables : s.variables.Pairwise fun v w => v.name.same w.name = false :=
    List.pairwise_map.mpr henv.pairwise_same
  refine ⟨rfl, names_of_containerName hname, ?_, (Container.distinctEnv_iff rfl).mpr hvariables,
    Probe.chosen hliveness last, Probe.chosen hreadiness last⟩
  rw [Option.map_eq_none_iff]
  exact isNone_of_containerPorts hports

theorem length_of_containersOf (h : p.containersOf s images = .ok containers) : containers.length = images.length := by
  induction images generalizing containers with
  | nil =>
    obtain rfl := Except.ok.inj h
    rfl
  | cons image images ih =>
    obtain ⟨c, rest, -, hrest, rfl⟩ := containersOf_cons_eq_ok.mp h
    rw [List.length_cons, List.length_cons, ih hrest]

/-- The containers are those of the images, in order. The last image is the application. -/
theorem container_of_getElem? (h : p.containersOf s images = .ok containers) {i : Nat} {c : Container}
    (himage : images[i]? = some image) (hc : containers[i]? = some c) :
    p.container s image (i + 1 == images.length) = .ok c := by
  induction images generalizing containers i with
  | nil => simp at himage
  | cons image' images ih =>
    obtain ⟨c', rest, hcontainer, hrest, rfl⟩ := containersOf_cons_eq_ok.mp h
    cases i with
    | zero =>
      obtain rfl := Option.some.inj himage
      obtain rfl := Option.some.inj hc
      have hlast : (0 + 1 == (image' :: images).length) = images.isEmpty := by cases images <;> rfl
      rw [hlast]
      exact hcontainer
    | succ i =>
      have hlast : (i + 1 + 1 == (image' :: images).length) = (i + 1 == images.length) := by simp
      rw [hlast]
      exact ih hrest himage hc

/-- Where there are no containers, an image has none. -/
theorem exists_container_eq_error {e : Failure} (h : p.containersOf s images = .error e) :
    ∃ image ∈ images, ∃ last, p.container s image last = .error e := by
  induction images with
  | nil => cases h
  | cons image images ih =>
    cases hcontainer : p.container s image images.isEmpty with
    | error e' =>
      rw [containersOf, hcontainer] at h
      obtain rfl := Except.error.inj h
      exact ⟨image, List.mem_cons_self, _, hcontainer⟩
    | ok c =>
      rw [containersOf, hcontainer, ok_bind] at h
      cases hrest : p.containersOf s images with
      | error e' =>
        rw [hrest] at h
        obtain rfl := Except.error.inj h
        obtain ⟨other, hother, last, herror⟩ := ih hrest
        exact ⟨other, List.mem_cons_of_mem _ hother, last, herror⟩
      | ok rest =>
        rw [hrest] at h
        cases h

end Project

/-- The variables of settings that are read differ by name. -/
theorem Settings.keyed_env_of_read {v : Value} {s : Settings} (h : Settings.read v = .ok s) : s.env.Keyed := by
  obtain ⟨fs, -, h⟩ := bind_eq_ok.mp h
  obtain ⟨items, -, h⟩ := bind_eq_ok.mp h
  obtain ⟨volumes, -, h⟩ := bind_eq_ok.mp h
  obtain ⟨env, henv, h⟩ := bind_eq_ok.mp h
  obtain ⟨liveness, -, h⟩ := bind_eq_ok.mp h
  obtain ⟨readiness, -, h⟩ := bind_eq_ok.mp h
  obtain rfl := Except.ok.inj h
  obtain ⟨entries, -, h⟩ := bind_eq_ok.mp henv
  obtain rfl := Except.ok.inj h
  obtain ⟨qs, hqs, hnodup, -⟩ := Fields.exists_named_ofPairs _
  dsimp only
  rw [hqs]
  exact (Fields.Named.of_pairs hnodup).keyed

/-! ## Other failures -/

/-- Whether a calculation that fails does so for another reason than a missing build section. -/
def OtherwiseFails {α : Type} (x : Except Failure α) : Prop :=
  ∀ name, x ≠ .error (.noBuild name)

namespace OtherwiseFails

variable {α β : Type} {x : Except Failure α} {f : α → Except Failure β}

theorem ok (a : α) : OtherwiseFails (.ok a) :=
  nofun

theorem misfit (m : Misfit) : OtherwiseFails (.error (.misfit m) : Except Failure α) :=
  nofun

theorem badConfig (path : Option String) (fault : ConfigFault) :
    OtherwiseFails (.error (.badConfig path fault) : Except Failure α) :=
  nofun

theorem bind (hx : OtherwiseFails x) (hf : ∀ a, OtherwiseFails (f a)) : OtherwiseFails (x >>= f) := by
  cases x with
  | error e => exact fun name h => hx name (congrArg _ (Except.error.inj h))
  | ok a => exact hf a

theorem lift (y : Except Misfit α) : OtherwiseFails (liftM y : Except Failure α) := by
  cases y with
  | error m => exact misfit m
  | ok a => exact ok a

end OtherwiseFails

namespace ProbeSettings

theorem otherwiseFails_request (url : String) : OtherwiseFails (request url) := by
  unfold request
  split
  · exact .misfit _
  · split
    · exact .badConfig _ _
    · exact .ok _

theorem otherwiseFails_exec (command : String) : OtherwiseFails (exec command) := by
  unfold exec
  split
  · exact .ok _
  · exact .misfit _

theorem otherwiseFails_socket (port : String) : OtherwiseFails (socket port) := by
  unfold socket
  split
  · split
    · exact .ok _
    · exact .misfit _
  · exact .ok _

theorem otherwiseFails_probe? (settings : ProbeSettings) : OtherwiseFails settings.probe? := by
  unfold probe?
  dsimp only
  split
  · split
    · exact (otherwiseFails_request _).bind fun _ => .ok _
    · exact .misfit _
  · split
    · split
      · exact (otherwiseFails_exec _).bind fun _ => .ok _
      · exact .misfit _
    · split
      · split
        · exact .ok _
        · exact (otherwiseFails_socket _).bind fun _ => .ok _
      · exact .ok _

end ProbeSettings

theorem Probe.otherwiseFails_ofSettings? (settings : Option ProbeSettings) : OtherwiseFails (ofSettings? settings) := by
  cases settings with
  | none => exact .ok _
  | some settings => exact settings.otherwiseFails_probe?

namespace Project

variable {p : Project} {s : Settings} {image : Image} {images before after : List Image} {containers : List Container}
  {last : Bool}

theorem otherwiseFails_containerName : OtherwiseFails (p.containerName image) := by
  have hparse : ∀ text, OtherwiseFails (ImageName.parse text) := by
    intro text name h
    rcases ImageName.parse_eq_error_iff.mp h with ⟨-, h⟩ | ⟨path, tag, digest, -, -, h⟩ <;> cases h
  have hparsed : OtherwiseFails image.parsedName := by
    unfold Image.parsedName
    split
    · exact hparse _
    · exact .misfit _
    · exact .misfit _
  unfold containerName
  split
  · exact .ok _
  · exact hparsed.bind fun _ => .ok _

theorem otherwiseFails_containerPorts : OtherwiseFails (p.containerPorts image) := by
  unfold containerPorts
  split
  · exact .ok _
  · rename_i specs hspecs
    rw [map_eq_pure_bind]
    refine .bind (fun name h => ?_) fun _ => .ok _
    obtain ⟨before, entry, after, -, -, hentry⟩ := mapM_eq_error h
    have hblame := PortSpec.settles_parse p.properties entry
    rw [hentry] at hblame
    obtain ⟨fault, hfault⟩ := hblame
    cases hfault

theorem otherwiseFails_container : OtherwiseFails (p.container s image last) := by
  unfold container
  refine (Probe.otherwiseFails_ofSettings? _).bind fun _ => (Probe.otherwiseFails_ofSettings? _).bind fun _ => ?_
  refine otherwiseFails_containerName.bind fun _ => .bind (.lift _) fun _ => ?_
  exact otherwiseFails_containerPorts.bind fun _ => .ok _

/-! ## All containers -/

theorem containers_of_unbuilt (hbefore : ∀ other ∈ before, ¬other.Unbuilt) (h : image.Unbuilt) :
    p.containers s (before ++ image :: after) = .error (.noBuild image.name.display) := by
  rw [containers, builtImages_append hbefore h]
  rfl

theorem containers_eq (h : ∀ image ∈ images, ¬image.Unbuilt) :
    p.containers s images = p.containersOf s (images.filter fun image => image.Built) := by
  rw [containers, builtImages_eq h]
  rfl

/-- **An image that is to be built without a build section is blamed before anything else, and else every image that is
built has one container, in order.** The first such image is the one that is blamed. A container has the whole name of
its image, is called by its alias, or else by its user and the project, the group standing in for a user that is
missing, has no port list exactly if the image has none, and has variables that differ by name. A probe that is set
stands; else there is none but for the last container, which is asked for its health if the application tells it. -/
theorem containers_of_built (p : Project) (s : Settings) (images : List Image) (henv : s.env.Keyed) :
    (∀ name, p.containers s images = .error (.noBuild name) ↔ ∃ before image after,
      images = before ++ image :: after ∧ (∀ other ∈ before, ¬other.Unbuilt) ∧ image.Unbuilt ∧
        name = image.name.display) ∧
    (∀ containers, p.containers s images = .ok containers →
      containers.length = (images.filter fun image => image.Built).length ∧
      ∀ (i : Nat) image c, (images.filter fun image => image.Built)[i]? = some image → containers[i]? = some c →
        p.ContainerFor s image (i + 1 == containers.length) c) ∧
    ∀ e, p.containers s images = .error e → (∃ name, e = .noBuild name) ∨
      ∃ image ∈ images, image.Built ∧ ∃ last, p.container s image last = .error e := by
  rcases unbuilt_cases images with hnone | ⟨before, image, after, rfl, hbefore, hunbuilt⟩
  · refine ⟨fun name => ⟨fun h => ?_, ?_⟩, fun containers h => ?_, fun e h => .inr ?_⟩
    · rw [containers_eq hnone] at h
      obtain ⟨image, -, last, hcontainer⟩ := exists_container_eq_error h
      exact (otherwiseFails_container name hcontainer).elim
    · rintro ⟨before, image, after, rfl, -, hunbuilt, -⟩
      exact (hnone image (by simp) hunbuilt).elim
    · rw [containers_eq hnone] at h
      have hlength := length_of_containersOf h
      refine ⟨hlength, fun i image c himage hc => ?_⟩
      rw [hlength]
      exact containerFor_of_container henv (container_of_getElem? h himage hc)
    · rw [containers_eq hnone] at h
      obtain ⟨image, himage, last, hcontainer⟩ := exists_container_eq_error h
      obtain ⟨hmem, hbuilt⟩ := List.mem_filter.mp himage
      exact ⟨image, hmem, by simpa using hbuilt, last, hcontainer⟩
  · have hblamed : p.containers s (before ++ image :: after) = .error (.noBuild image.name.display) :=
      containers_of_unbuilt hbefore hunbuilt
    rw [hblamed]
    refine ⟨fun name => ⟨fun h => ?_, ?_⟩, nofun, fun e h => .inl ⟨_, (Except.error.inj h).symm⟩⟩
    · exact ⟨before, image, after, rfl, hbefore, hunbuilt, (Failure.noBuild.inj (Except.error.inj h)).symm⟩
    · rintro ⟨before', image', after', heq, hbefore', hunbuilt', rfl⟩
      rw [← hblamed, heq, containers_of_unbuilt hbefore' hunbuilt']

/-- Of three images one is not built, and the last one is asked whether it is alive, as no probe is set for that. A tag
that is not valid does not count where another image cannot be built. -/
theorem containers_of_built_shop :
    let p : Project :=
      { groupId := "com.acme", artifactId := "shop", classes := [.ofString Project.healthIndicator] }
    let s : Settings :=
      { env := Fields.named [("A", .ofString "1"), ("B", .ofString "2")],
        readiness := some { command := .ofString "true" } }
    let v : Value := .ofFields [
      (.ofString "env", .ofFields [(.ofString "A", .ofInt 1), (.ofString "B", .ofString "2")]),
      (.ofString "readiness", .ofFields [(.ofString "exec", .ofString "true")])]
    let web : Image := { name := .ofString "nginx", build := some {} }
    let db : Image := { name := .ofString "postgres:9" }
    let app : Image := { name := .ofString "acme/shop:1.0", build := some { ports := some [] } }
    let wrong : Image := { name := .ofString "nginx:", build := some {} }
    let missing : Image := { name := .ofString "acme/db", buildable := .ofBool true }
    Settings.read v = .ok s ∧ s.env.Keyed ∧
      (∃ c c', p.containers s [web, db, app] = .ok [c, c'] ∧ p.ContainerFor s web false c ∧
        p.ContainerFor s app true c') ∧
      p.containers s [wrong, missing, web] = .error (.noBuild "acme/db") := by
  intro p s v web db app wrong missing
  have hread : Settings.read v = .ok s := rfl
  have henv : s.env.Keyed := Settings.keyed_env_of_read hread
  have hcontainers : ∃ c c', p.containers s [web, db, app] = .ok [c, c'] := ⟨_, _, rfl⟩
  obtain ⟨c, c', hok⟩ := hcontainers
  obtain ⟨-, hcontainer⟩ := (containers_of_built p s [web, db, app] henv).2.1 _ hok
  have hmissing : missing.Unbuilt := ⟨by decide, rfl⟩
  have hwrong : ∀ other ∈ [wrong], ¬other.Unbuilt := by
    intro other hother h
    obtain rfl := List.mem_singleton.mp hother
    cases h.2
  refine ⟨hread, henv, ⟨c, c', hok, hcontainer 0 web c rfl rfl, hcontainer 1 app c' rfl rfl⟩, ?_⟩
  exact ((containers_of_built p s [wrong, missing, web] henv).1 "acme/db").mpr
    ⟨[wrong], missing, [web], rfl, hwrong, hmissing, rfl⟩

end Project

end KubeManifest
