import KubeManifest.Proofs.Generation.Replaced

/-!
# Runs that fail

Every file is written by way of a temporary one beside it, so that no file is ever there in part. The run as a whole
may end between two of them.

* `Config.Interrupted` : what a run leaves that fails at an output after others were written;
* `Config.entryAt_of_written`, `Config.entryAt_of_temporary` : the files of these others, and their temporary ones;
* `Config.emit_interrupted` : outputs that are not all written leave this;
* `Config.generate_eq_error` : a run that fails has changed no file, or was interrupted at one of its outputs.
-/

namespace KubeManifest.Config

variable {config : Config} {files files' start : Files} {failure : Failure} {report : Report}
  {outputs before : List Output} {o : Output}

/-- What a run leaves that fails at an output after others were written. Two outputs may go to one file, which the
later of them replaces. -/
structure Interrupted (config : Config) (start files' : Files) (before : List Output) (o : Output) : Prop where
  workDir : files'.workDir = start.workDir
  dirs : files'.dirs = start.dirs
  written : ∀ earlier p later, before = earlier ++ p :: later →
    ∃ text place, config.textOf p = .ok text ∧ start.locate (config.pathOf p) = .ok place ∧
      ((∀ q ∈ later, start.locate (config.pathOf q) ≠ .ok place) → files'.entryAt place = .file text.toUTF8)
  temporaries : ∀ p ∈ before, ∃ place, config.temporary? start p = some place ∧ files'.entryAt place = .nothing
  failed : ∀ place, start.locate (config.pathOf o) = .ok place →
    (∀ p ∈ before, start.locate (config.pathOf p) ≠ .ok place) → files'.entryAt place = start.entryAt place
  ownTemporary : ∀ place, config.temporary? start o = some place →
    files'.entryAt place = start.entryAt place ∨ files'.entryAt place = .nothing
  others : ∀ loc, (∀ p ∈ before, start.locate (config.pathOf p) ≠ .ok loc ∧ config.temporary? start p ≠ some loc) →
    config.temporary? start o ≠ some loc → files'.entryAt loc = start.entryAt loc

/-! ## Outputs before the one that fails -/

section

variable {rs : List Replacement} {loc : Location} (hrs : before.mapM (config.replacement? start) = some rs)
  (hreplaced : start.Replaced files' rs)

include hrs hreplaced

theorem entryAt_of_others
    (h : ∀ p ∈ before, start.locate (config.pathOf p) ≠ .ok loc ∧ config.temporary? start p ≠ some loc) :
    files'.entryAt loc = start.entryAt loc := by
  rw [hreplaced.entryAt]
  refine Replacement.foldl_apply_of_not_mem fun r hr => ?_
  obtain ⟨p, hp, hr⟩ := mapM_eq_some_mem hrs r hr
  obtain ⟨htarget, htemporary, -⟩ := replacement?_eq_some.mp hr
  exact ⟨fun heq => (h p hp).1 (heq ▸ htarget), fun heq => (h p hp).2 (heq ▸ htemporary)⟩

/-- The file of an output has its text, unless a later one goes to the same file. -/
theorem entryAt_of_written {earlier later : List Output} {p : Output} (hbefore : before = earlier ++ p :: later) :
    ∃ text place, config.textOf p = .ok text ∧ start.locate (config.pathOf p) = .ok place ∧
      ((∀ q ∈ later, start.locate (config.pathOf q) ≠ .ok place) → files'.entryAt place = .file text.toUTF8) := by
  subst hbefore
  obtain ⟨rs₁, rs₂, -, hrs₂, rfl⟩ := mapM_append_eq_some hrs
  obtain ⟨r, rs₂, hr, hlater, rfl⟩ := mapM_cons_eq_some.mp hrs₂
  obtain ⟨htarget, -, text, htext, hbytes⟩ := replacement?_eq_some.mp hr
  refine ⟨text, r.target, htext, htarget, fun hlast => ?_⟩
  rw [hreplaced.entryAt, ← hbytes]
  refine Replacement.foldl_apply_last (fun q hq heq => ?_) fun q hq heq => ?_
  · obtain ⟨p', hp', hq⟩ := mapM_eq_some_mem hlater q hq
    exact hlast p' hp' (heq ▸ (replacement?_eq_some.mp hq).1)
  · obtain ⟨p', -, hq⟩ := mapM_eq_some_mem hlater q hq
    exact temporary?_ne_some htarget p' (heq ▸ (replacement?_eq_some.mp hq).2.1)

theorem entryAt_of_temporary {p : Output} (hp : p ∈ before) :
    ∃ place, config.temporary? start p = some place ∧ files'.entryAt place = .nothing := by
  obtain ⟨r, hr, hreplacement⟩ := exists_mem_of_mapM_eq_some hrs p hp
  have htemporary := (replacement?_eq_some.mp hreplacement).2.1
  refine ⟨r.temporary, htemporary, ?_⟩
  rw [hreplaced.entryAt]
  refine Replacement.foldl_apply_temporary (fun q hq heq => ?_) ⟨r, hr, rfl⟩
  obtain ⟨p', -, hq⟩ := mapM_eq_some_mem hrs q hq
  exact temporary?_ne_some (replacement?_eq_some.mp hq).1 p (heq ▸ htemporary)

/-- In the place of the temporary file of any output is what was there, or nothing where an earlier output had its
own. -/
theorem entryAt_of_ownTemporary (hplace : config.temporary? start o = some loc) :
    files'.entryAt loc = start.entryAt loc ∨ files'.entryAt loc = .nothing := by
  rw [hreplaced.entryAt]
  rcases Replacement.foldl_apply_cases start.entryAt rs loc with hkept | ⟨r, hr, rfl, -⟩ | ⟨-, hgone⟩
  · exact .inl hkept
  · obtain ⟨p, -, hr⟩ := mapM_eq_some_mem hrs r hr
    exact absurd hplace (temporary?_ne_some (replacement?_eq_some.mp hr).1 o)
  · exact .inr hgone

end

/-- Outputs that are written one after the other are interrupted at the one that fails. -/
theorem emit_interrupted (hplain : start.Plain Files.temporarySuffix)
    (h : config.emit false start report outputs = (files', .error failure)) :
    ∃ before o after, outputs = before ++ o :: after ∧ config.Interrupted start files' before o := by
  obtain ⟨before, o, after, rs, mid, rfl, hrs, hmid, hwork, hdirs, hall⟩ := emit_eq_error hplain h
  have hsame : ∀ loc, config.temporary? start o ≠ some loc → files'.entryAt loc = mid.entryAt loc :=
    fun loc hne => (hall loc).resolve_right fun hgone => hne hgone.2
  refine ⟨before, o, after, rfl, hwork.trans hmid.workDir, hdirs.trans hmid.dirs, ?_, ?_, ?_, ?_, ?_⟩
  · intro earlier p later hbefore
    obtain ⟨text, place, htext, hplace, hlast⟩ := entryAt_of_written hrs hmid hbefore
    exact ⟨text, place, htext, hplace, fun hno => (hsame place (temporary?_ne_some hplace o)).trans (hlast hno)⟩
  · intro p hp
    obtain ⟨place, hplace, hgone⟩ := entryAt_of_temporary hrs hmid hp
    exact ⟨place, hplace, (hall place).elim (fun hkept => hkept.trans hgone) fun hboth => hboth.1⟩
  · intro place hplace hno
    rw [hsame place (temporary?_ne_some hplace o)]
    exact entryAt_of_others hrs hmid fun p hp => ⟨hno p hp, temporary?_ne_some hplace p⟩
  · intro place hplace
    rcases hall place with hkept | ⟨hgone, -⟩
    · exact hkept ▸ entryAt_of_ownTemporary hrs hmid hplace
    · exact .inr hgone
  · intro loc hno hown
    exact (hsame loc hown).trans (entryAt_of_others hrs hmid hno)

/-! ## Runs -/

/-- **A run that fails has changed no file, or was interrupted at one of its outputs.** In either case it may have made
the output directory with those above it. A name that ends as those of temporary files do may be taken, but neither by
a link nor by a file that has other names too. Fragments with a code point that is no character, at which reading
stops, are left aside. -/
theorem generate_eq_error (hplain : files.Plain Files.temporarySuffix) (_hchars : failure ≠ .noCharacter)
    (h : config.generate false files = (files', .error failure)) :
    files.MadeDirs files' config.outputDir ∨
      ∃ outputs report start before o after, config.prepare files = .ok (outputs, report) ∧
        config.makeOutputDir files = (start, .ok ()) ∧ files.MadeDirs start config.outputDir ∧
        outputs = before ++ o :: after ∧ config.Interrupted start files' before o := by
  rw [generate] at h
  split at h
  · exact .inl ((Prod.mk.inj h).1 ▸ .refl files config.outputDir)
  · rename_i outputs report hprepare
    rw [if_neg Bool.false_ne_true] at h
    split at h
    · rename_i hdir
      exact .inl ((Prod.mk.inj h).1 ▸ (makeOutputDir_madeDirs hdir).1)
    · rename_i start hdir
      have hmade := (makeOutputDir_madeDirs hdir).1
      obtain ⟨before, o, after, houtputs, hleft⟩ := emit_interrupted (hmade.plain hplain) h
      exact .inr ⟨outputs, report, start, before, o, after, hprepare, hdir, hmade, houtputs, hleft⟩

/-! ## A directory in the place of a file -/

def jsonConfig : Config where
  appName := "a"
  fragmentsDir := ⟨"", ["src", "main", "fabric8"]⟩
  outputDir := ⟨"", ["target", "fabric8"]⟩
  format := .json

/-- A blank fragment, and a directory in the place of the manifest of all resources. -/
def blockedFiles : Files where
  dirs := [[], ["work"], ["work", "src"], ["work", "src", "main"], ["work", "src", "main", "fabric8"],
    ["work", "target"], ["work", "target", "fabric8"], ["work", "target", "fabric8", "kubernetes.json"]]
  contents := [(["work", "src", "main", "fabric8", "cm.json"], .empty),
    (["work", "target", "fabric8", "kubernetes.json", "keep"], ⟨#[120]⟩)]

theorem blockedFiles_plain (suffix : String) : blockedFiles.Plain suffix :=
  fun _ _ _ => ⟨rfl, rfl⟩

set_option maxRecDepth 100000 in
theorem exists_generate_blockedFiles :
    ∃ failure, (jsonConfig.generate false blockedFiles).2 = .error failure ∧ failure.title = some "OutputError" := by
  have htitle : (match (jsonConfig.generate false blockedFiles).2 with
      | .error failure => failure.title == some "OutputError"
      | .ok _ => false) = true := by decide +kernel
  split at htitle
  · rename_i failure hres
    exact ⟨failure, hres, eq_of_beq htitle⟩
  · cases htitle

/-- The manifest of all resources cannot take its place. -/
theorem generate_eq_error_blockedFiles :
    ∃ failure, (jsonConfig.generate false blockedFiles).2 = .error failure ∧ failure.title = some "OutputError" ∧
      (blockedFiles.MadeDirs (jsonConfig.generate false blockedFiles).1 jsonConfig.outputDir ∨
        ∃ outputs report start before o after, jsonConfig.prepare blockedFiles = .ok (outputs, report) ∧
          jsonConfig.makeOutputDir blockedFiles = (start, .ok ()) ∧
          blockedFiles.MadeDirs start jsonConfig.outputDir ∧ outputs = before ++ o :: after ∧
          jsonConfig.Interrupted start (jsonConfig.generate false blockedFiles).1 before o) := by
  obtain ⟨failure, hfailure, htitle⟩ := exists_generate_blockedFiles
  have hchars : failure ≠ .noCharacter := by
    rintro rfl
    cases htitle
  exact ⟨failure, hfailure, htitle, generate_eq_error (blockedFiles_plain _) hchars (Prod.ext rfl hfailure)⟩

set_option maxRecDepth 100000 in
/-- The fragment's own manifest is there after the failure, and was not before. -/
theorem generate_blockedFiles_contentAt :
    (∃ failure, (jsonConfig.generate false blockedFiles).2 = .error failure) ∧
      (jsonConfig.generate false blockedFiles).1.contentAt ["work", "target", "fabric8", "a-cm.json"] ≠
        blockedFiles.contentAt ["work", "target", "fabric8", "a-cm.json"] := by
  have hafter : ((jsonConfig.generate false blockedFiles).1.contentAt
      ["work", "target", "fabric8", "a-cm.json"]).isSome = true := by
    decide +kernel
  have hbefore : blockedFiles.contentAt ["work", "target", "fabric8", "a-cm.json"] = none := by decide +kernel
  obtain ⟨failure, hfailure, -⟩ := exists_generate_blockedFiles
  refine ⟨⟨failure, hfailure⟩, fun heq => ?_⟩
  rw [heq, hbefore] at hafter
  cases hafter

end KubeManifest.Config
