import KubeManifest.Proofs.Generation.Interrupted
import KubeManifest.Proofs.Generation.Outputs

/-!
# A file of its own for every output

Stems are compared as texts, but name paths: `a` and `./a` differ and are one path, and `../a` lies elsewhere.
So a run that comes to its end gave every output a file of its own exactly if the stems, seen from the output
directory, are different paths directly in it.

* `Config.placeOf` : the path of an output before it gets its extension;
* `Config.OwnFiles` : every output has a file of its own in the output directory, with its text;
* `Config.ownFiles_of_emit_iff` : when the outputs of a run have their own files;
* `Config.ownFiles_iff`, `Config.ownFiles_of_load` : so it is with a whole run, by any configuration or by one that was
  read.
-/

namespace KubeManifest

namespace Report

theorem put_of_not_mem {pairs : List (String × String)} {name : String} (h : name ∉ pairs.map Prod.fst)
    (text : String) : put pairs name text = pairs ++ [(name, text)] := by
  induction pairs with
  | nil => rfl
  | cons p pairs ih =>
    rw [List.map_cons, List.mem_cons, not_or] at h
    rw [put, if_neg (by simpa using Ne.symm h.1), ih h.2]
    rfl

/-- Texts under different names are put one after the other. -/
theorem foldl_put {es pairs : List (String × String)} (h : ((pairs ++ es).map Prod.fst).Nodup) :
    es.foldl (fun pairs e => put pairs e.1 e.2) pairs = pairs ++ es := by
  induction es generalizing pairs with
  | nil => rw [List.append_nil, List.foldl_nil]
  | cons e es ih =>
    have hnew : e.1 ∉ pairs.map Prod.fst := fun hmem => by
      rw [List.map_append, List.map_cons, List.nodup_append] at h
      exact h.2.2 _ hmem _ List.mem_cons_self rfl
    rw [List.foldl_cons, put_of_not_mem hnew, ih (by rwa [List.append_assoc]), List.append_assoc]
    rfl

end Report

namespace Config

variable {config : Config} {files files' : Files} {report report' : Report} {outputs : List Output} {o : Output}

/-! ## Places of outputs -/

/-- The path of an output before it gets its extension. -/
def placeOf (config : Config) (o : Output) : Path :=
  config.outputDir.join (Path.ofText o.stem)

theorem placeOf_proper (hd : config.outputDir.Proper) (o : Output) : (config.placeOf o).Proper :=
  Path.join_proper hd (Path.ofText_proper o.stem)

theorem pathOf_eq (hd : config.outputDir.Proper) (o : Output) :
    config.pathOf o = (config.placeOf o).extended config.format.suffix :=
  Format.withExtension_text (placeOf_proper hd o) config.format

theorem parent_pathOf (hd : config.outputDir.Proper) (o : Output) :
    (config.pathOf o).parent = (config.placeOf o).parent := by
  rw [pathOf_eq hd, Path.parent_extended]

theorem pathOf_eq_pathOf_iff (hd : config.outputDir.Proper) {o' : Output} :
    config.pathOf o = config.pathOf o' ↔ config.placeOf o = config.placeOf o' := by
  rw [pathOf_eq hd, pathOf_eq hd]
  exact ⟨Path.extended_inj (placeOf_proper hd o) (placeOf_proper hd o'), fun h => by rw [h]⟩

theorem nodup_pathOf_iff (hd : config.outputDir.Proper) :
    (outputs.map config.pathOf).Nodup ↔ (outputs.map config.placeOf).Nodup := by
  unfold List.Nodup
  rw [List.pairwise_map, List.pairwise_map]
  exact List.Pairwise.iff fun o o' => not_congr (pathOf_eq_pathOf_iff hd)

/-- A stem that can be a name is that of a file directly in the output directory. -/
theorem placeOf_of_isPart (h : Path.IsPart o.stem) :
    config.placeOf o = { config.outputDir with parts := config.outputDir.parts ++ [o.stem] } := by
  rw [placeOf, Path.ofText_of_isPart h]
  rfl

/-! ### Configurations that were read -/

theorem directory_proper {base p : Path} {v : Value} (hb : base.Proper) (h : directory base v = .ok p) :
    p.Proper := by
  rw [directory] at h
  split at h
  · exact Except.ok.inj h ▸ Path.join_proper hb (Path.ofText_proper _)
  · cases h

theorem ofFields_outputDir_proper {base : Path} {fs : Fields} (hb : base.Proper) (h : ofFields base fs = .ok config) :
    config.outputDir.Proper := by
  obtain ⟨format, -, h⟩ := bind_eq_ok.mp h
  obtain ⟨versions, -, h⟩ := bind_eq_ok.mp h
  obtain ⟨images, -, h⟩ := bind_eq_ok.mp h
  obtain ⟨project, -, h⟩ := bind_eq_ok.mp h
  dsimp only at h
  split at h
  · cases h
  · obtain ⟨fragmentsDir, -, h⟩ := bind_eq_ok.mp h
    obtain ⟨outputDir, houtput, h⟩ := bind_eq_ok.mp h
    obtain ⟨settings, -, h⟩ := bind_eq_ok.mp h
    obtain ⟨images, -, h⟩ := bind_eq_ok.mp h
    obtain rfl := Except.ok.inj h
    exact directory_proper hb (Failure.lift_eq_ok.mp houtput)

/-- Every configuration that is read from a file has an output directory as it is read from a text. -/
theorem load_outputDir_proper {path : Path} {others : Fields} (hp : path.Proper)
    (h : load files path others = .ok config) : config.outputDir.Proper := by
  obtain ⟨fs, -, h⟩ := bind_eq_ok.mp h
  exact ofFields_outputDir_proper (Path.parent_proper hp) h

/-! ## Files of their own -/

theorem fst_of_entryOf {e : String × String} (h : config.entryOf o = some e) : e.1 = (config.pathOf o).name := by
  rw [entryOf, Option.bind_eq_bind, Option.bind_eq_some_iff] at h
  obtain ⟨text, -, h⟩ := h
  rw [← Option.some.inj h]

/-- Every output has a file of its own directly in the output directory, is reported once under the name of it, and
can be read there. -/
structure OwnFiles (config : Config) (outputs : List Output) (report : Report) (files : Files) : Prop where
  distinct : report.files.Nodup
  direct : ∀ p ∈ report.files, p.parent = config.outputDir
  rendered : outputs.mapM config.entryOf = some report.rendered
  contents : ∀ o ∈ outputs, ∃ text, config.textOf o = .ok text ∧ files.read (config.pathOf o) = .ok text.toUTF8

/-! ### Places in the output directory -/

/-- The place of the output directory, if it can be followed there. -/
def targetDir (config : Config) (files : Files) : Location :=
  (files.follow true Files.maxLinks (files.start config.outputDir) config.outputDir.parts).toOption.getD []

theorem pathOf_of_direct (hd : config.outputDir.Proper) (h : (config.placeOf o).parent = config.outputDir) :
    config.pathOf o = { config.outputDir with parts := config.outputDir.parts ++ [(config.pathOf o).name] } := by
  rw [pathOf_eq hd, Path.name_extended, Path.extended, h]

/-- A file directly in the output directory lies there under its name. -/
theorem target_of_direct (hd : config.outputDir.Proper) (hdirect : (config.placeOf o).parent = config.outputDir)
    {place : Location} (h : files.locate (config.pathOf o) = .ok place) :
    place = config.targetDir files ++ [(config.pathOf o).name] := by
  have hpath := pathOf_of_direct hd hdirect
  have hroot : (config.pathOf o).root = config.outputDir.root := by rw [hpath]
  have hparts : (config.pathOf o).parts = config.outputDir.parts ++ [(config.pathOf o).name] :=
    congrArg Path.parts hpath
  have hstart : files.start (config.pathOf o) = files.start config.outputDir := by
    rw [Files.start, Files.start, Path.isAbsolute, Path.isAbsolute, hroot]
  have hname : (config.pathOf o).name = (config.placeOf o).base ++ config.format.suffix := by
    rw [pathOf_eq hd, Path.name_extended]
  obtain ⟨dir, hdir, hplace⟩ := Files.exists_next_of_locate hparts h
  rw [hstart] at hdir
  rw [hplace, targetDir, hdir, toOption_ok, Option.getD_some, Files.next_of_ne]
  rcases getLast?_suffix config.format (config.placeOf o).base with h | h <;>
    exact ne_upwards_of_getLast? (hname ▸ h) (by decide)

/-! ### Every output in its own file -/

section

variable (hd : config.outputDir.Proper) (hdirect : ∀ o ∈ outputs, (config.placeOf o).parent = config.outputDir)
  (hnodup : (outputs.map config.placeOf).Nodup)

include hd hdirect hnodup

/-- Files directly in the output directory differ by their names. -/
theorem nodup_names : (outputs.map fun o => (config.pathOf o).name).Nodup := by
  have hpaths := (nodup_pathOf_iff hd).mpr hnodup
  unfold List.Nodup at hpaths ⊢
  rw [List.pairwise_map] at hpaths ⊢
  refine hpaths.imp_of_mem fun {o o'} ho ho' hne hname => hne ?_
  rw [pathOf_of_direct hd (hdirect o ho), pathOf_of_direct hd (hdirect o' ho'), hname]

/-- No output takes the place of another one, and none is written by way of another one's file. -/
theorem foldl_replacements {rs : List Replacement} (hrs : outputs.mapM (config.replacement? files) = some rs) :
    ∀ r ∈ rs, rs.foldl Replacement.apply files.entryAt r.target = .file r.bytes := by
  have hplace : ∀ r ∈ rs, ∃ o ∈ outputs, config.replacement? files o = some r := mapM_eq_some_mem hrs
  have htargets : (rs.map Replacement.target).Nodup := by
    have hnames := nodup_names hd hdirect hnodup
    have heq : rs.map Replacement.target =
        (outputs.map fun o => (config.pathOf o).name).map fun name => config.targetDir files ++ [name] := by
      rw [List.map_map]
      exact map_eq_map_of_mapM_eq_some hrs fun o ho r hr =>
        target_of_direct hd (hdirect o ho) (replacement?_eq_some.mp hr).1
    rw [heq]
    unfold List.Nodup at hnames ⊢
    rw [List.pairwise_map]
    exact hnames.imp fun hne heq => hne (List.singleton_inj.mp (List.append_cancel_left heq))
  intro r hr
  obtain ⟨before, after, rfl⟩ := List.append_of_mem hr
  obtain ⟨o, ho, hreplacement⟩ := hplace r hr
  refine Replacement.foldl_apply_last (fun q hq heq => ?_) fun q hq heq => ?_
  · rw [List.map_append, List.map_cons] at htargets
    exact (List.nodup_cons.mp (List.nodup_append.mp htargets).2.1).1 (heq ▸ List.mem_map_of_mem hq)
  · obtain ⟨o', -, hq⟩ := hplace q (List.mem_append_right _ (List.mem_cons_of_mem _ hq))
    exact temporary?_ne_some (replacement?_eq_some.mp hreplacement).1 o' (heq ▸ (replacement?_eq_some.mp hq).2.1)

end

variable {start : Files} {resources : List (String × String)} {n : Nat} {added : List String}

/-- Outputs that are written have their own files exactly if their places are different ones directly in the output
directory. -/
theorem ownFiles_of_emit_iff (hd : config.outputDir.Proper) (hplain : start.Plain Files.temporarySuffix)
    (hlinks : start.Unlinked config.format.suffix)
    (h : config.emit false start { resources, containers := n, added } outputs = (files', .ok report)) :
    config.OwnFiles outputs report files' ↔
      (∀ o ∈ outputs, (config.placeOf o).parent = config.outputDir) ∧ (outputs.map config.placeOf).Nodup := by
  obtain ⟨rs, es, hrs, hes, hreplaced, hfiles, hrendered⟩ := emit_eq_ok hplain h
  rw [List.nil_append] at hfiles
  constructor
  · intro hown
    refine ⟨fun o ho => ?_, ?_⟩
    · rw [← parent_pathOf hd]
      exact hown.direct _ (hfiles ▸ List.mem_map_of_mem ho)
    · rw [← nodup_pathOf_iff hd, ← hfiles]
      exact hown.distinct
  · rintro ⟨hdirect, hnodup⟩
    refine ⟨hfiles ▸ (nodup_pathOf_iff hd).mpr hnodup, fun p hp => ?_, ?_, fun o ho => ?_⟩
    · rw [hfiles] at hp
      obtain ⟨o, ho, rfl⟩ := List.mem_map.mp hp
      rw [parent_pathOf hd, hdirect o ho]
    · have hkeys : es.map Prod.fst = outputs.map fun o => (config.pathOf o).name :=
        map_eq_map_of_mapM_eq_some hes fun o _ e he => fst_of_entryOf he
      have hes' : (([] ++ es).map Prod.fst).Nodup := by
        rw [List.nil_append, hkeys]
        exact nodup_names hd hdirect hnodup
      rw [hrendered, Report.foldl_put hes', List.nil_append, hes]
    · obtain ⟨r, hr, hreplacement⟩ := exists_mem_of_mapM_eq_some hrs o ho
      obtain ⟨hlocate, -, text, htext, hbytes⟩ := replacement?_eq_some.mp hreplacement
      have hentry : files'.entryAt r.target = .file text.toUTF8 := by
        rw [hreplaced.entryAt, foldl_replacements hd hdirect hnodup hrs r hr, hbytes]
      have hsame : start.SamePlaces files' := hreplaced.samePlaces hplain fun q hq => by
        obtain ⟨o', -, hq⟩ := mapM_eq_some_mem hrs q hq
        obtain ⟨name, hname⟩ := exists_getLast?_of_pathOf (replacement?_eq_some.mp hq).1
        exact hlinks q.target name hname
      refine ⟨text, htext, Files.read_eq_ok (Files.resolve_of_locate (hsame.locate.mpr hlocate) ?_) ?_ ?_⟩
      · exact congrArg Files.Entry.link hentry
      · rw [hreplaced.hasDir]
        exact hreplaced.noDir r hr
      · exact congrArg Files.Entry.content hentry

/-- Stems that differ and can be names are different paths directly in the output directory. -/
theorem places_of_isPart (hstems : Output.checkStems [] outputs = .ok ()) (hparts : ∀ o ∈ outputs, Path.IsPart o.stem) :
    (∀ o ∈ outputs, (config.placeOf o).parent = config.outputDir) ∧ (outputs.map config.placeOf).Nodup := by
  refine ⟨fun o ho => ?_, ?_⟩
  · rw [placeOf_of_isPart (hparts o ho), Path.parent]
    simp
  · have hnodup := Output.checkStems_nil_eq_ok_iff.mp hstems
    unfold List.Nodup at hnodup ⊢
    rw [List.pairwise_map] at hnodup ⊢
    refine hnodup.imp_of_mem fun {o o'} ho ho' hne heq => hne ?_
    rw [placeOf_of_isPart (hparts o ho), placeOf_of_isPart (hparts o' ho'), Path.mk.injEq] at heq
    exact List.singleton_inj.mp (List.append_cancel_left heq.2)

/-! ## Runs -/

/-- **Every output has its own file exactly if the stems lead to different places directly in the output directory.**
A run that comes to its end reports one file for each resource and one for all of them. Their stems differ as texts, so
it is enough that each of them is a name. Names that end as those of the files do may be taken, but not by links. -/
theorem ownFiles_iff (hd : config.outputDir.Proper) (hplain : files.Plain Files.temporarySuffix)
    (hlinks : files.Unlinked config.format.suffix) (h : config.generate false files = (files', .ok report)) :
    ∃ assembly outputs, config.assemble files = .ok assembly ∧ config.outputs assembly.collection = .ok outputs ∧
      report.files = outputs.map config.pathOf ∧ report.files.length = assembly.collection.items.length + 1 ∧
      (config.OwnFiles outputs report files' ↔
        (∀ o ∈ outputs, (config.placeOf o).parent = config.outputDir) ∧ (outputs.map config.placeOf).Nodup) ∧
      ((∀ o ∈ outputs, Path.IsPart o.stem) → config.OwnFiles outputs report files') := by
  obtain ⟨outputs, prepared, start, hprepare, hdir, hemit⟩ := generate_eq_ok h
  obtain ⟨assembly, n, hassembly, -, houtputs, hstems, rfl⟩ := prepare_eq_ok hprepare
  have hmade := (makeOutputDir_madeDirs hdir).1
  obtain ⟨-, -, -, -, -, hfiles, -⟩ := emit_eq_ok (hmade.plain hplain) hemit
  rw [List.nil_append] at hfiles
  have hiff := ownFiles_of_emit_iff hd (hmade.plain hplain) (hmade.unlinked hlinks) hemit
  refine ⟨assembly, outputs, hassembly, houtputs, hfiles, ?_, hiff, fun hparts => ?_⟩
  · rw [hfiles, List.length_map, length_outputs houtputs]
  · exact hiff.mpr (places_of_isPart hstems hparts)

/-- By a configuration that was read, every output whose stem is a name gets its own file. -/
theorem ownFiles_of_load {source : Files} {path : String} {others : Fields}
    (hload : load source (Path.ofText path) others = .ok config) (hplain : files.Plain Files.temporarySuffix)
    (hlinks : files.Unlinked config.format.suffix) (h : config.generate false files = (files', .ok report)) :
    ∃ outputs prepared, config.prepare files = .ok (outputs, prepared) ∧
      ((∀ o ∈ outputs, Path.IsPart o.stem) → config.OwnFiles outputs report files') := by
  have hd := load_outputDir_proper (Path.ofText_proper path) hload
  obtain ⟨outputs, prepared, start, hprepare, hdir, hemit⟩ := generate_eq_ok h
  obtain ⟨assembly, n, -, -, -, hstems, rfl⟩ := prepare_eq_ok hprepare
  have hmade := (makeOutputDir_madeDirs hdir).1
  exact ⟨outputs, _, hprepare, fun hparts =>
    (ownFiles_of_emit_iff hd (hmade.plain hplain) (hmade.unlinked hlinks) hemit).mpr (places_of_isPart hstems hparts)⟩

/-! ## A name that is another path to the same file -/

/-- A fragment of a kind without a token, with a name that leads to the file of all resources. -/
def clashingFiles : Files where
  dirs := [[], ["work"], ["work", "src"], ["work", "src", "main"], ["work", "src", "main", "fabric8"],
    ["work", "target"], ["work", "target", "fabric8"]]
  contents := [(["work", "src", "main", "fabric8", "cm.json"],
    "\x7b\"kind\": \"Foo\", \"metadata\": \x7b\"name\": \"./kubernetes\"\x7d\x7d".toUTF8)]

set_option maxRecDepth 100000 in
theorem generate_clashingFiles :
    (jsonConfig.generate false clashingFiles).2.toOption.map (fun report => report.files.map Path.text) =
      some ["target/fabric8/kubernetes.json", "target/fabric8/kubernetes.json"] := by
  decide +kernel

/-- The stems `./kubernetes` and `kubernetes` differ, and one file is written over the other. -/
theorem ownFiles_iff_clashingFiles :
    jsonConfig.outputDir.Proper ∧ clashingFiles.Plain Files.temporarySuffix ∧
      clashingFiles.Unlinked jsonConfig.format.suffix ∧
      ∃ report, (jsonConfig.generate false clashingFiles).2 = .ok report ∧
        report.files.map Path.text = ["target/fabric8/kubernetes.json", "target/fabric8/kubernetes.json"] ∧
        ∃ assembly outputs, jsonConfig.assemble clashingFiles = .ok assembly ∧
          jsonConfig.outputs assembly.collection = .ok outputs ∧ report.files = outputs.map jsonConfig.pathOf ∧
          report.files.length = assembly.collection.items.length + 1 ∧
          (jsonConfig.OwnFiles outputs report (jsonConfig.generate false clashingFiles).1 ↔
            (∀ o ∈ outputs, (jsonConfig.placeOf o).parent = jsonConfig.outputDir) ∧
              (outputs.map jsonConfig.placeOf).Nodup) ∧
          ((∀ o ∈ outputs, Path.IsPart o.stem) →
            jsonConfig.OwnFiles outputs report (jsonConfig.generate false clashingFiles).1) := by
  have hd : jsonConfig.outputDir.Proper := by
    refine ⟨by decide, fun part hpart => ?_⟩
    simp only [jsonConfig, List.mem_cons, List.not_mem_nil, or_false] at hpart
    rcases hpart with rfl | rfl <;> exact ⟨by decide, by decide, by decide⟩
  have hrun := generate_clashingFiles
  rw [Option.map_eq_some_iff] at hrun
  obtain ⟨report, hreport, hfiles⟩ := hrun
  rw [toOption_eq_some] at hreport
  exact ⟨hd, fun _ _ _ => ⟨rfl, rfl⟩, fun _ _ _ => rfl, report, hreport, hfiles,
    ownFiles_iff hd (fun _ _ _ => ⟨rfl, rfl⟩) (fun _ _ _ => rfl) (Prod.ext rfl hreport)⟩

end Config

end KubeManifest
