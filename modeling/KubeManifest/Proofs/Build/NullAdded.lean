import KubeManifest.Build.Image
import KubeManifest.Build.Project
import KubeManifest.Build.Settings
import KubeManifest.Proofs.Results
import KubeManifest.Proofs.Value.NullAdded

/-!
# Sections with one more entry that is null

A section reads its entries by name, so that an entry that is null says no more than one that is not there. Only an
empty probe stands for none, and one with such an entry does not.

* `Project.read_addsNull`, `VolumeSettings.read_addsNull`, `ImageBuild.read_addsNull`, `Image.read_addsNull` : sections
  that are read in the same way;
* `ProbeSettings.read?_addsNull` : a probe that is there;
* `Settings.Reads`, `Settings.read_eq_ok_iff` : settings entry by entry;
* `Settings.Reads.of_volumes`, `Settings.Reads.of_liveness`, `Settings.Reads.of_readiness`, `Image.read_addsNull_build` :
  such an entry one level deeper.
-/

namespace KubeManifest

variable {v w : Value} {fs gs : Fields} {name : String} {mark : Option Mark}

/-! ## Sections without parts -/

theorem Project.read_addsNull (h : Value.AddsNull name [] v w) : read w = read v := by
  obtain ⟨fs, gs, mark, rfl, rfl, hnull⟩ := h.entries
  simp only [read, Section.entries, ok_bind, hnull.get]

theorem VolumeSettings.read_addsNull (h : Value.AddsNull name [] v w) : read w = read v := by
  obtain ⟨fs, gs, mark, rfl, rfl, hnull⟩ := h.entries
  simp only [read, Section.entries, ok_bind, hnull.get]

theorem ImageBuild.read_addsNull (h : Value.AddsNull "ports" [] v w) : read w = read v := by
  obtain ⟨fs, gs, mark, rfl, rfl, hnull⟩ := h.entries
  simp only [read, Section.entries, ok_bind, hnull.get, hnull.erase]

/-- A probe with an entry that is null is there, even if no other entry is. -/
theorem ProbeSettings.read?_addsNull {probe : Option ProbeSettings} (h : Value.AddsNull name [] v w)
    (hv : read? v = .ok probe) : read? w = .ok (some (probe.getD {})) := by
  obtain ⟨fs, gs, mark, rfl, rfl, hnull⟩ := h.entries
  obtain ⟨e, gs', hgs⟩ := List.exists_cons_of_ne_nil hnull.ne_nil
  have hgiven : (Value.map gs mark).isTruthy = true := by
    rw [hgs]
    rfl
  simp only [read?, hgiven, Section.entries, ok_bind, hnull.get]
  cases fs with
  | nil =>
    obtain rfl : none = probe := Except.ok.inj hv
    rfl
  | cons e fs =>
    obtain rfl := Except.ok.inj hv
    rfl

/-! ## Settings -/

structure Settings.Reads (fs : Fields) (settings : Settings) : Prop where
  imagePullPolicy : Fields.get fs "image_pull_policy" = settings.imagePullPolicy
  env : Section.texts "resources.env" (Fields.get fs "env") = .ok settings.env
  privileged : (Fields.get fs "privileged").isTruthy = settings.privileged
  volumes : ∃ volumes, Section.items (Fields.get fs "volumes") = .ok volumes ∧
    volumes.mapM VolumeSettings.read = .ok settings.volumes
  liveness : ProbeSettings.read? (Fields.get fs "liveness") = .ok settings.liveness
  readiness : ProbeSettings.read? (Fields.get fs "readiness") = .ok settings.readiness

theorem Settings.read_eq_ok_iff {settings : Settings} : read (.map fs mark) = .ok settings ↔ Reads fs settings := by
  constructor
  · intro h
    obtain ⟨_, hfs, h⟩ := bind_eq_ok.mp h
    obtain rfl := Except.ok.inj hfs
    obtain ⟨items, hitems, h⟩ := bind_eq_ok.mp h
    obtain ⟨volumes, hvolumes, h⟩ := bind_eq_ok.mp h
    obtain ⟨env, henv, h⟩ := bind_eq_ok.mp h
    obtain ⟨liveness, hliveness, h⟩ := bind_eq_ok.mp h
    obtain ⟨readiness, hreadiness, h⟩ := bind_eq_ok.mp h
    obtain rfl := Except.ok.inj h
    exact ⟨rfl, henv, rfl, ⟨items, Failure.lift_eq_ok.mp hitems, hvolumes⟩, hliveness, hreadiness⟩
  · rintro ⟨hpolicy, henv, hprivileged, ⟨items, hitems, hvolumes⟩, hliveness, hreadiness⟩
    rw [read, Section.entries, ok_bind, hitems, Failure.lift_ok, ok_bind, hvolumes, ok_bind, henv, ok_bind, hliveness,
      ok_bind, hreadiness, ok_bind, hpolicy, hprivileged]
    rfl

theorem Settings.read_addsNull (h : Value.AddsNull name [] v w) : read w = read v := by
  obtain ⟨fs, gs, mark, rfl, rfl, hnull⟩ := h.entries
  simp only [read, Section.entries, ok_bind, hnull.get]

theorem Section.items_list (xs : List Value) : items (.list xs mark) = .ok xs := by
  cases xs <;> rfl

namespace Settings.Reads

variable {settings : Settings} {i : Nat}

theorem of_volumes (h : Reads fs settings)
    (hvolumes : Fields.Revalues "volumes" (Value.AddsNull name [.item i]) fs gs) : Reads gs settings where
  imagePullPolicy := hvolumes.get_ne "image_pull_policy" ▸ h.imagePullPolicy
  env := hvolumes.get_ne "env" ▸ h.env
  privileged := hvolumes.get_ne "privileged" ▸ h.privileged
  volumes := by
    obtain ⟨items, hitems, hread⟩ := h.volumes
    obtain ⟨before, after, x, y, mark, hx, hy, hnull⟩ := hvolumes.get_self.atItem
    rw [hx, Section.items_list] at hitems
    obtain rfl := Except.ok.inj hitems
    rw [hy, Section.items_list]
    exact ⟨_, rfl, mapM_eq_of_item (VolumeSettings.read_addsNull hnull) ▸ hread⟩
  liveness := hvolumes.get_ne "liveness" ▸ h.liveness
  readiness := hvolumes.get_ne "readiness" ▸ h.readiness

theorem of_liveness (h : Reads fs settings) (hprobe : Fields.Revalues "liveness" (Value.AddsNull name []) fs gs) :
    Reads gs { settings with liveness := some (settings.liveness.getD {}) } where
  imagePullPolicy := hprobe.get_ne "image_pull_policy" ▸ h.imagePullPolicy
  env := hprobe.get_ne "env" ▸ h.env
  privileged := hprobe.get_ne "privileged" ▸ h.privileged
  volumes := hprobe.get_ne "volumes" ▸ h.volumes
  liveness := ProbeSettings.read?_addsNull hprobe.get_self h.liveness
  readiness := hprobe.get_ne "readiness" ▸ h.readiness

theorem of_readiness (h : Reads fs settings) (hprobe : Fields.Revalues "readiness" (Value.AddsNull name []) fs gs) :
    Reads gs { settings with readiness := some (settings.readiness.getD {}) } where
  imagePullPolicy := hprobe.get_ne "image_pull_policy" ▸ h.imagePullPolicy
  env := hprobe.get_ne "env" ▸ h.env
  privileged := hprobe.get_ne "privileged" ▸ h.privileged
  volumes := hprobe.get_ne "volumes" ▸ h.volumes
  liveness := hprobe.get_ne "liveness" ▸ h.liveness
  readiness := ProbeSettings.read?_addsNull hprobe.get_self h.readiness

end Settings.Reads

/-! ## Images -/

theorem Image.read_addsNull (h : Value.AddsNull name [] v w) : read w = read v := by
  obtain ⟨fs, gs, mark, rfl, rfl, hnull⟩ := h.entries
  simp only [read, Section.entries, ok_bind, hnull.get]

theorem Image.read_addsNull_build (h : Value.AddsNull "ports" [.key "build"] v w) : read w = read v := by
  obtain ⟨fs, gs, mark, rfl, rfl, hbuild⟩ := h.atKey
  have hself := hbuild.get_self
  have hread := ImageBuild.read_addsNull hself
  have hnull : (Fields.get gs "build").isNull = (Fields.get fs "build").isNull := by
    obtain ⟨_, _, _, hv, hw, _⟩ := hself.entries
    rw [hv, hw]
    rfl
  simp only [read, Section.entries, ok_bind, hread, hnull, hbuild.get_ne "name", hbuild.get_ne "alias",
    hbuild.get_ne "buildable"]

end KubeManifest
