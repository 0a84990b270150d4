import KubeManifest.Generation.Assembly
import KubeManifest.Proofs.Collection.Order

/-!
# The versions of a configuration

* `Config.unnumbered_versions` : a configuration is read plainly, so its versions name no document;
* `Config.text_of_perm` : so its fragments make the same texts in every order.
-/

namespace KubeManifest.Config

theorem unnumbered_withDefaults {fs : Fields} (h : fs.Unnumbered) : (withDefaults fs).Unnumbered := by
  have hdefaults : ∀ e ∈ defaults, e.2.Unnumbered := by
    intro e he f
    simp only [defaults, List.mem_cons, List.not_mem_nil, or_false] at he
    rcases he with rfl | rfl | rfl | rfl | rfl | rfl | rfl <;> simp
  unfold withDefaults
  generalize defaults = entries at hdefaults
  induction entries generalizing fs with
  | nil => exact h
  | cons e entries ih =>
    obtain ⟨he, hentries⟩ := List.forall_mem_cons.mp hdefaults
    exact ih (h.setDefault e.1 he) hentries

theorem unnumbered_override {fs others : Fields} (h : fs.Unnumbered) (hothers : ∀ e ∈ others, e.2.Unnumbered) :
    (override fs others).Unnumbered := by
  unfold override
  induction others generalizing fs with
  | nil => exact h
  | cons e others ih =>
    obtain ⟨he, hothers⟩ := List.forall_mem_cons.mp hothers
    refine ih ?_ hothers
    dsimp only
    split
    · exact h
    · exact h.set _ he

theorem unnumbered_textFields {path : String} {text : List Char} {fs : Fields} (h : textFields path text = .ok fs) :
    fs.Unnumbered := by
  obtain ⟨v, hv, h⟩ := bind_eq_ok.mp h
  cases hread : Yaml.readOne .plain text with
  | error fault =>
    rw [hread] at hv
    cases hv
  | ok w =>
    rw [hread] at hv
    obtain rfl : w = v := Except.ok.inj hv
    have hvalue := (Yaml.readOne_plain_unnumbered hread).orElse Value.unnumbered_ofFields_nil
    split at h
    · rename_i entries mark hmap
      rw [hmap] at hvalue
      exact Except.ok.inj h ▸ hvalue.entries
    · cases h

theorem unnumbered_fields {files : Files} {path : Path} {fs : Fields} (h : fields files path = .ok fs) :
    fs.Unnumbered := by
  obtain ⟨found, -, h⟩ := bind_eq_ok.mp h
  split at h
  · exact Except.ok.inj h ▸ unnumbered_withDefaults (fun _ => rfl)
  · obtain ⟨bytes, -, h⟩ := bind_eq_ok.mp h
    split at h
    · cases h
    · obtain ⟨entries, hentries, h⟩ := bind_eq_ok.mp h
      exact Except.ok.inj h ▸ unnumbered_withDefaults (unnumbered_textFields hentries)

theorem unnumbered_versionsOf {v : Value} {versions : Versions} (hv : v.Unnumbered) (h : versionsOf v = .ok versions) :
    versions.Unnumbered := by
  have hvalue := hv.orElse Value.unnumbered_ofFields_nil
  unfold versionsOf at h
  split at h
  · rename_i fs mark hmap
    rw [hmap] at hvalue
    obtain rfl := Except.ok.inj h
    have hfs := hvalue.entries
    exact ⟨hfs.getD_find? _ (Value.unnumbered_ofString _), hfs.getD_find? _ (Value.unnumbered_ofString _),
      hfs.getD_find? _ (Value.unnumbered_ofString _)⟩
  · cases h

/-- The versions of a configuration name no document, if no other entries that count before them do. -/
theorem unnumbered_versions {files : Files} {path : Path} {others : Fields} {config : Config}
    (h : load files path others = .ok config) (hothers : ∀ e ∈ others, e.2.Unnumbered) :
    config.versions.Unnumbered := by
  obtain ⟨fs, hfs, h⟩ := bind_eq_ok.mp h
  have hentries := unnumbered_override (unnumbered_fields hfs) hothers
  obtain ⟨format, -, h⟩ := bind_eq_ok.mp h
  obtain ⟨versions, hversions, h⟩ := bind_eq_ok.mp h
  obtain ⟨_, -, h⟩ := bind_eq_ok.mp h
  obtain ⟨project, -, h⟩ := bind_eq_ok.mp h
  dsimp only at h
  split at h
  · cases h
  · obtain ⟨fragmentsDir, -, h⟩ := bind_eq_ok.mp h
    obtain ⟨outputDir, -, h⟩ := bind_eq_ok.mp h
    obtain ⟨settings, -, h⟩ := bind_eq_ok.mp h
    obtain ⟨images, -, h⟩ := bind_eq_ok.mp h
    obtain rfl := Except.ok.inj h
    exact unnumbered_versionsOf (hentries.getD_find? "versions" Value.unnumbered_null) hversions

/-- The fragments of a configuration that was read make the same texts in every order, if their kinds and names
differ. -/
theorem text_of_perm {source files : Files} {path : Path} {others : Fields} {config : Config} {paths paths' : List Path}
    {c : Collection} (hload : load source path others = .ok config) (hothers : ∀ e ∈ others, e.2.Unnumbered)
    (h : paths.Perm paths') (hc : Collection.ofPaths files config.context paths = .ok c)
    (hkeys : (c.items.map Resource.sortKey).Nodup) :
    ∃ c', Collection.ofPaths files config.context paths' = .ok c' ∧
      ∀ format, (Exportable.collection c').text format = (Exportable.collection c).text format := by
  have hv : config.context.versions.Unnumbered := unnumbered_versions hload hothers
  obtain ⟨c', σ, hc', hitems⟩ := Collection.exists_ofPaths_of_perm hv h hc
  exact ⟨c', hc', (Collection.sameManifest_of_renumber σ.injective hitems hkeys).2.2⟩

end KubeManifest.Config
