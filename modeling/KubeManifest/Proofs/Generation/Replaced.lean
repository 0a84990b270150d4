import KubeManifest.Generation.Run
import KubeManifest.Proofs.Files.Contents
import KubeManifest.Proofs.Path

/-!
# Files that take their places

* `Replacement` : a file that takes its place by way of a temporary one, and what becomes of the entries;
* `Replacement.foldl_apply_cases` : what is found after several of them;
* `Files.Replaced` : the same directories, and the entries after some replacements;
* `Files.replace_eq_ok`, `Files.replace_eq_error` : a replacement is complete, or leaves at most no temporary file;
* `Config.emit_eq_ok` : a run that comes to its end has replaced the files of all outputs;
* `Config.emit_eq_error` : a run that fails at an output has replaced the files of those before it.
-/

namespace KubeManifest

open Files (Entry)

/-! ## Replacements one after the other -/

/-- A new content for a file, and the place of the temporary file by way of which it gets there. -/
structure Replacement where
  target : Location
  temporary : Location
  bytes : ByteArray

namespace Replacement

def apply (entries : Location → Entry) (r : Replacement) (loc : Location) : Entry :=
  if loc = r.target then .file r.bytes else if loc = r.temporary then .nothing else entries loc

variable {entries : Location → Entry} {r : Replacement} {rs : List Replacement} {loc : Location}

/-- Each entry is as before, the new file of a replacement, or gone with a temporary file. -/
theorem foldl_apply_cases (entries : Location → Entry) (rs : List Replacement) (loc : Location) :
    rs.foldl apply entries loc = entries loc ∨
      (∃ r ∈ rs, loc = r.target ∧ rs.foldl apply entries loc = .file r.bytes) ∨
      (∃ r ∈ rs, loc = r.temporary) ∧ rs.foldl apply entries loc = .nothing := by
  induction rs generalizing entries with
  | nil => exact .inl rfl
  | cons r rs ih =>
    rw [List.foldl_cons]
    rcases ih (r.apply entries) with hsame | ⟨q, hq, hloc, hfile⟩ | ⟨⟨q, hq, hloc⟩, hgone⟩
    · rw [hsame, apply]
      split
      · rename_i htarget
        exact .inr (.inl ⟨r, List.mem_cons_self, htarget, rfl⟩)
      · split
        · rename_i htemporary
          exact .inr (.inr ⟨⟨r, List.mem_cons_self, htemporary⟩, rfl⟩)
        · exact .inl rfl
    · exact .inr (.inl ⟨q, List.mem_cons_of_mem _ hq, hloc, hfile⟩)
    · exact .inr (.inr ⟨⟨q, List.mem_cons_of_mem _ hq, hloc⟩, hgone⟩)

theorem foldl_apply_of_not_mem (h : ∀ r ∈ rs, loc ≠ r.target ∧ loc ≠ r.temporary) :
    rs.foldl apply entries loc = entries loc := by
  rcases foldl_apply_cases entries rs loc with hsame | ⟨r, hr, hloc, -⟩ | ⟨⟨r, hr, hloc⟩, -⟩
  · exact hsame
  · exact absurd hloc (h r hr).1
  · exact absurd hloc (h r hr).2

/-- A file that is not replaced again, and is none of the temporary ones, keeps its new content. -/
theorem foldl_apply_last {before after : List Replacement} (htarget : ∀ q ∈ after, q.target ≠ r.target)
    (htemporary : ∀ q ∈ after, r.target ≠ q.temporary) :
    (before ++ r :: after).foldl apply entries r.target = .file r.bytes := by
  rw [List.foldl_append, List.foldl_cons, foldl_apply_of_not_mem fun q hq => ⟨(htarget q hq).symm, htemporary q hq⟩]
  exact if_pos rfl

/-- The temporary files are gone at the end, where they are none of the others. -/
theorem foldl_apply_temporary (htemporary : ∀ r ∈ rs, r.target ≠ loc) (hloc : ∃ r ∈ rs, r.temporary = loc) :
    rs.foldl apply entries loc = .nothing := by
  induction rs generalizing entries with
  | nil => simp at hloc
  | cons r rs ih =>
    obtain ⟨hr, hrs⟩ := List.forall_mem_cons.mp htemporary
    rw [List.foldl_cons]
    by_cases hrest : ∃ r ∈ rs, r.temporary = loc
    · exact ih hrs hrest
    · obtain rfl : r.temporary = loc := by
        obtain ⟨q, hq, rfl⟩ := hloc
        rcases List.mem_cons.mp hq with rfl | hq
        · rfl
        · exact absurd ⟨q, hq, rfl⟩ hrest
      rw [foldl_apply_of_not_mem fun q hq => ⟨(hrs q hq).symm, fun heq => hrest ⟨q, hq, heq.symm⟩⟩, apply,
        if_neg (Ne.symm hr), if_pos rfl]

end Replacement

/-! ## Names of files -/

theorem getLast?_temporary (name : String) : (name ++ Files.temporarySuffix).toList.getLast? = some 'p' := by
  rw [String.toList_append, List.getLast?_append]
  rfl

/-- The last letter of the names of files, by which they differ from those of temporary files. -/
theorem getLast?_suffix (format : Format) (name : String) :
    (name ++ format.suffix).toList.getLast? = some 'l' ∨ (name ++ format.suffix).toList.getLast? = some 'n' := by
  rw [String.toList_append, List.getLast?_append]
  cases format
  · exact .inl rfl
  · exact .inr rfl

theorem ne_upwards_of_getLast? {name : String} {c : Char} (h : name.toList.getLast? = some c) (hc : c ≠ '.') :
    name ≠ ".." := by
  rintro rfl
  exact hc (Option.some.inj h).symm

theorem Path.parts_of_withSuffix? {p q : Path} {suffix : String} (h : p.withSuffix? suffix = some q) :
    q.root = p.root ∧ q.parts = p.parts.dropLast ++ [stem p.name ++ suffix] := by
  rw [withSuffix?] at h
  split at h
  · cases h
  · exact Option.some.inj h ▸ ⟨rfl, rfl⟩

namespace Files

variable {fs gs hs : Files} {target path : Path} {text : String} {failure : Failure} {loc place : Location}
  {r : Replacement} {rs rs' : List Replacement}

theorem next_of_ne {name : String} (h : name ≠ "..") (dir : Location) : next dir name = dir ++ [name] :=
  if_neg (by simpa using h)

/-- The place of a temporary file is told by its last name. -/
theorem exists_getLast?_of_temporary (hpath : target.withSuffix? temporarySuffix = some path)
    (h : fs.locate path = .ok place) : ∃ name, place.getLast? = some (name ++ temporarySuffix) := by
  obtain ⟨dir, -, rfl⟩ := exists_next_of_locate (Path.parts_of_withSuffix? hpath).2 h
  refine ⟨Path.stem target.name, ?_⟩
  rw [next_of_ne (ne_upwards_of_getLast? (getLast?_temporary _) (by decide)), List.getLast?_concat]

theorem Plain.plainAt (hplain : fs.Plain temporarySuffix) (hpath : target.withSuffix? temporarySuffix = some path)
    (h : fs.locate path = .ok place) : fs.PlainAt place := by
  obtain ⟨name, hname⟩ := exists_getLast?_of_temporary hpath h
  exact hplain place name hname

/-! ## One file -/

/-- The same directories, and the entries after some replacements, none of which was in the place of a directory. -/
structure Replaced (fs gs : Files) (rs : List Replacement) : Prop where
  workDir : gs.workDir = fs.workDir
  dirs : gs.dirs = fs.dirs
  entryAt : gs.entryAt = rs.foldl Replacement.apply fs.entryAt
  noDir : ∀ r ∈ rs, fs.hasDir r.target = false
  temporary : ∀ r ∈ rs, ∃ name, r.temporary.getLast? = some (name ++ temporarySuffix)

namespace Replaced

theorem nil (fs : Files) : Replaced fs fs [] :=
  ⟨rfl, rfl, rfl, by simp, by simp⟩

theorem hasDir (h : Replaced fs gs rs) (loc : Location) : gs.hasDir loc = fs.hasDir loc := by
  rw [Files.hasDir, Files.hasDir, h.dirs]

theorem append (h : Replaced fs gs rs) (h' : Replaced gs hs rs') : Replaced fs hs (rs ++ rs') where
  workDir := h'.workDir.trans h.workDir
  dirs := h'.dirs.trans h.dirs
  entryAt := by rw [h'.entryAt, h.entryAt, List.foldl_append]
  noDir r hr := by
    rcases List.mem_append.mp hr with hr | hr
    · exact h.noDir r hr
    · exact h.hasDir r.target ▸ h'.noDir r hr
  temporary r hr := (List.mem_append.mp hr).elim (h.temporary r) (h'.temporary r)

/-- An entry with a link or number was there before. -/
theorem entryAt_cases (h : Replaced fs gs rs) (loc : Location) :
    gs.entryAt loc = fs.entryAt loc ∨ ((gs.entryAt loc).link = none ∧ (gs.entryAt loc).number = none) ∧
      (fs.hasDir loc = false ∨ ∃ name, loc.getLast? = some (name ++ temporarySuffix)) := by
  rw [h.entryAt]
  rcases Replacement.foldl_apply_cases fs.entryAt rs loc with hsame | ⟨r, hr, rfl, hfile⟩ | ⟨⟨r, hr, rfl⟩, hgone⟩
  · exact .inl hsame
  · exact .inr ⟨by rw [hfile]; exact ⟨rfl, rfl⟩, .inl (h.noDir r hr)⟩
  · exact .inr ⟨by rw [hgone]; exact ⟨rfl, rfl⟩, .inr (h.temporary r hr)⟩

theorem plain (h : Replaced fs gs rs) {suffix : String} (hplain : fs.Plain suffix) : gs.Plain suffix := by
  intro loc name hname
  rw [plainAt_iff]
  rcases h.entryAt_cases loc with hsame | ⟨hnone, -⟩
  · rw [hsame]
    exact plainAt_iff.mp (hplain loc name hname)
  · exact hnone

theorem keepsPlaces (h : Replaced fs gs rs) (hplain : fs.Plain temporarySuffix) : KeepsPlaces fs gs where
  workDir := h.workDir
  dirs := h.dirs
  links loc path hlink := by
    change (gs.entryAt loc).link = some path at hlink
    rcases h.entryAt_cases loc with hsame | ⟨⟨hnone, -⟩, -⟩
    · rw [hsame] at hlink
      exact hlink
    · rw [hnone] at hlink
      cases hlink
  gone loc hlink hdir := by
    change (gs.entryAt loc).link = none at hlink
    rcases h.entryAt_cases loc with hsame | ⟨-, hno | ⟨name, hname⟩⟩
    · rw [hsame] at hlink
      exact hlink
    · rw [h.hasDir, hno] at hdir
      cases hdir
    · exact (hplain loc name hname).link

/-- Where no link was replaced, every path names what it named. -/
theorem samePlaces (h : Replaced fs gs rs) (hplain : fs.Plain temporarySuffix)
    (hlinks : ∀ r ∈ rs, fs.linkAt r.target = none) : SamePlaces fs gs where
  workDir := h.workDir
  dirs := h.dirs
  links loc := by
    change (gs.entryAt loc).link = (fs.entryAt loc).link
    rw [h.entryAt]
    rcases Replacement.foldl_apply_cases fs.entryAt rs loc with hsame | ⟨r, hr, rfl, hfile⟩ | ⟨⟨r, hr, rfl⟩, hgone⟩
    · rw [hsame]
    · rw [hfile]
      exact (hlinks r hr).symm
    · obtain ⟨name, hname⟩ := h.temporary r hr
      rw [hgone]
      exact (hplain r.temporary name hname).link.symm

end Replaced

/-- What is left when a replacement is given up. -/
theorem giveUp_cases {res : Except Failure Unit} (h : fs.giveUp path target = (gs, res)) :
    (∃ failure, res = .error failure) ∧ (gs = fs ∨ ∃ place, fs.locate path = .ok place ∧ gs = fs.drop place) := by
  rw [giveUp] at h
  split at h
  · obtain ⟨rfl, rfl⟩ := Prod.mk.inj h
    exact ⟨⟨_, rfl⟩, .inl rfl⟩
  · obtain ⟨rfl, rfl⟩ := Prod.mk.inj h
    exact ⟨⟨_, rfl⟩, .inl rfl⟩
  · split at h
    · rename_i hremove
      obtain ⟨rfl, rfl⟩ := Prod.mk.inj h
      exact ⟨⟨_, rfl⟩, .inr (remove_eq_ok hremove)⟩
    · obtain ⟨rfl, rfl⟩ := Prod.mk.inj h
      exact ⟨⟨_, rfl⟩, .inl rfl⟩

/-- A temporary file that is there is removed. -/
theorem giveUp_of_isSome {res : Except Failure Unit} (h : fs.giveUp path target = (gs, res))
    (hplace : fs.locate path = .ok place) (hlink : fs.linkAt place = none)
    (hthere : (fs.contentAt place).isSome = true) : gs = fs.drop place := by
  have hentry : fs.hasEntry place = true := by rw [hasEntry, hthere, Bool.true_or]
  have hexists : fs.exists? path = .ok true := by
    rw [exists?, test, resolve_of_locate hplace hlink]
    dsimp only
    rw [occupied, hentry, Bool.or_true]
  have hremove : fs.remove path = .ok (fs.drop place) := by rw [remove, hplace, ok_bind, if_pos hentry]
  rw [giveUp, hexists] at h
  dsimp only at h
  rw [hremove] at h
  exact (Prod.mk.inj h).1.symm

/-- A temporary file is written at its own place. -/
theorem write_temporary {bytes : ByteArray} (hplain : fs.Plain temporarySuffix)
    (hpath : target.withSuffix? temporarySuffix = some path) (h : fs.write path bytes = .ok gs) :
    ∃ place, fs.locate path = .ok place ∧ fs.PlainAt place ∧ gs = fs.put place bytes := by
  obtain ⟨place, hresolve, rfl⟩ := write_eq_ok h
  obtain ⟨entry, hentry, heq⟩ := locate_of_resolve hresolve
  have hat := hplain.plainAt hpath hentry
  obtain rfl := heq hat.link
  exact ⟨entry, hentry, hat, rfl⟩

/-- A file that was replaced. -/
theorem replace_eq_ok (hplain : fs.Plain temporarySuffix) (h : fs.replace target text = (gs, .ok ())) :
    ∃ (path : Path) (r : Replacement), target.withSuffix? temporarySuffix = some path ∧
      fs.locate path = .ok r.temporary ∧ fs.locate target = .ok r.target ∧ r.bytes = text.toUTF8 ∧
      Replaced fs gs [r] := by
  rw [replace] at h
  split at h
  · cases h
  · cases h
  · split at h
    · cases h
    · rename_i path hpath
      split at h
      · cases h
      · obtain ⟨failure, hfailure⟩ := (giveUp_cases h).1
        cases hfailure
      · rename_i written hwrite
        obtain ⟨place, hplace, hat, rfl⟩ := write_temporary hplain hpath hwrite
        have hsame := samePlaces_put fs place text.toUTF8
        have hentry := entryAt_put hat text.toUTF8
        split at h
        · rename_i hrename
          obtain ⟨rfl, -⟩ := Prod.mk.inj h
          have hat' : (fs.put place text.toUTF8).PlainAt place := by
            rw [plainAt_iff, hentry, if_pos rfl]
            exact ⟨rfl, rfl⟩
          obtain ⟨destination, hdestination, hdir, hwork, hdirs, hall⟩ :=
            rename_eq_ok hrename (hsame.locate.mpr hplace) hat'
          refine ⟨path, ⟨destination, place, text.toUTF8⟩, hpath, hplace, hsame.locate.mp hdestination, rfl,
            hwork.trans hsame.workDir, hdirs.trans hsame.dirs, funext fun loc => ?_, ?_, ?_⟩
          · rw [hall, hentry, hentry, if_pos rfl, List.foldl_cons, List.foldl_nil, Replacement.apply]
            split
            · rfl
            · split <;> rfl
          · rw [hsame.keepsPlaces.hasDir] at hdir
            simpa using hdir
          · simpa using exists_getLast?_of_temporary hpath hplace
        · obtain ⟨failure, hfailure⟩ := (giveUp_cases h).1
          cases hfailure

/-- A file that could not be replaced leaves all as it is, but for its temporary one that may be gone. -/
theorem replace_eq_error (hplain : fs.Plain temporarySuffix) (h : fs.replace target text = (gs, .error failure)) :
    gs.workDir = fs.workDir ∧ gs.dirs = fs.dirs ∧ ∀ loc, gs.entryAt loc = fs.entryAt loc ∨
      gs.entryAt loc = .nothing ∧
        ∃ path, target.withSuffix? temporarySuffix = some path ∧ fs.locate path = .ok loc := by
  rw [replace] at h
  split at h
  · exact (Prod.mk.inj h).1 ▸ ⟨rfl, rfl, fun _ => .inl rfl⟩
  · exact (Prod.mk.inj h).1 ▸ ⟨rfl, rfl, fun _ => .inl rfl⟩
  · split at h
    · exact (Prod.mk.inj h).1 ▸ ⟨rfl, rfl, fun _ => .inl rfl⟩
    · rename_i path hpath
      split at h
      · exact (Prod.mk.inj h).1 ▸ ⟨rfl, rfl, fun _ => .inl rfl⟩
      · rcases (giveUp_cases h).2 with rfl | ⟨place, hplace, rfl⟩
        · exact ⟨rfl, rfl, fun _ => .inl rfl⟩
        · refine ⟨rfl, rfl, fun loc => ?_⟩
          rw [entryAt_drop]
          split
          · rename_i hloc
            exact .inr ⟨rfl, path, hpath, hloc ▸ hplace⟩
          · exact .inl rfl
      · rename_i written hwrite
        obtain ⟨place, hplace, hat, rfl⟩ := write_temporary hplain hpath hwrite
        split at h
        · cases h
        · -- the temporary file was written, so that its old content is lost
          have hsame := samePlaces_put fs place text.toUTF8
          have hthere : ((fs.put place text.toUTF8).contentAt place).isSome = true := by
            rw [contentAt_put hat, if_pos rfl]
            rfl
          obtain rfl := giveUp_of_isSome h (hsame.locate.mpr hplace) ((hsame.links place).trans hat.link) hthere
          refine ⟨hsame.workDir, hsame.dirs, fun loc => ?_⟩
          rw [entryAt_drop, entryAt_put hat]
          split
          · rename_i hloc
            exact .inr ⟨rfl, path, hpath, hloc ▸ hplace⟩
          · exact .inl rfl

end Files

namespace Config

/-! ## Outputs -/

/-- The place of the temporary file by way of which an output is written. -/
def temporary? (config : Config) (files : Files) (o : Output) : Option Location := do
  let path ← (config.pathOf o).withSuffix? Files.temporarySuffix
  (files.locate path).toOption

/-- The file that an output takes the place of, and the text that it gets. -/
def replacement? (config : Config) (files : Files) (o : Output) : Option Replacement := do
  let target ← (files.locate (config.pathOf o)).toOption
  let temporary ← config.temporary? files o
  let text ← (config.textOf o).toOption
  return ⟨target, temporary, text.toUTF8⟩

variable {config : Config} {files files' : Files} {failure : Failure} {o : Output} {r : Replacement}
  {report report' : Report} {outputs : List Output} {loc : Location}

theorem temporary?_eq_some : config.temporary? files o = some loc ↔
    ∃ path, (config.pathOf o).withSuffix? Files.temporarySuffix = some path ∧ files.locate path = .ok loc := by
  rw [temporary?, Option.bind_eq_bind, Option.bind_eq_some_iff]
  simp only [toOption_eq_some]

theorem replacement?_eq_some : config.replacement? files o = some r ↔
    files.locate (config.pathOf o) = .ok r.target ∧ config.temporary? files o = some r.temporary ∧
      ∃ text, config.textOf o = .ok text ∧ r.bytes = text.toUTF8 := by
  simp only [replacement?, Option.bind_eq_bind, Option.bind_eq_some_iff, toOption_eq_some]
  constructor
  · rintro ⟨target, htarget, temporary, htemporary, text, htext, h⟩
    obtain rfl := Option.some.inj h
    exact ⟨htarget, htemporary, text, htext, rfl⟩
  · rintro ⟨htarget, htemporary, text, htext, hbytes⟩
    exact ⟨_, htarget, _, htemporary, text, htext, by rw [← hbytes]; rfl⟩

theorem temporary?_of_keepsPlaces (h : files.KeepsPlaces files') (ho : config.temporary? files' o = some loc) :
    config.temporary? files o = some loc := by
  obtain ⟨path, hpath, hplace⟩ := temporary?_eq_some.mp ho
  exact temporary?_eq_some.mpr ⟨path, hpath, h.locate hplace⟩

theorem replacement?_of_keepsPlaces (h : files.KeepsPlaces files') (ho : config.replacement? files' o = some r) :
    config.replacement? files o = some r := by
  obtain ⟨htarget, htemporary, htext⟩ := replacement?_eq_some.mp ho
  exact replacement?_eq_some.mpr ⟨h.locate htarget, temporary?_of_keepsPlaces h htemporary, htext⟩

theorem mapM_replacement?_of_keepsPlaces (h : files.KeepsPlaces files') {rs : List Replacement}
    (hrs : outputs.mapM (config.replacement? files') = some rs) :
    outputs.mapM (config.replacement? files) = some rs :=
  mapM_eq_some_of_imp (fun _ _ hr => replacement?_of_keepsPlaces h hr) hrs

/-! ### Names -/

/-- The place of an output is told by its last name. -/
theorem exists_getLast?_of_pathOf (h : files.locate (config.pathOf o) = .ok loc) :
    ∃ name, loc.getLast? = some (name ++ config.format.suffix) := by
  obtain ⟨names, last, hparts⟩ := Format.exists_parts_withExtension config.format _
  obtain ⟨dir, -, rfl⟩ := Files.exists_next_of_locate hparts h
  refine ⟨last, ?_⟩
  rw [Files.next_of_ne, List.getLast?_concat]
  rcases getLast?_suffix config.format last with hlast | hlast <;> exact ne_upwards_of_getLast? hlast (by decide)

theorem exists_getLast?_of_temporary? (h : config.temporary? files o = some loc) :
    ∃ name, loc.getLast? = some (name ++ Files.temporarySuffix) := by
  obtain ⟨path, hpath, hplace⟩ := temporary?_eq_some.mp h
  exact Files.exists_getLast?_of_temporary hpath hplace

/-- No output has its file where another one has its temporary file. -/
theorem temporary?_ne_some (h : files.locate (config.pathOf o) = .ok loc) (o' : Output) :
    config.temporary? files o' ≠ some loc := by
  intro htemporary
  obtain ⟨name, hname⟩ := exists_getLast?_of_pathOf h
  obtain ⟨name', hname'⟩ := exists_getLast?_of_temporary? htemporary
  have hlast := getLast?_temporary name'
  rw [← Option.some.inj (hname.symm.trans hname')] at hlast
  rcases getLast?_suffix config.format name with h | h <;> rw [hlast] at h <;> cases h

/-! ### What is written -/

/-- The file of an output that was replaced. -/
theorem exists_replacement? {text : String} (hplain : files.Plain Files.temporarySuffix)
    (htext : config.textOf o = .ok text) (h : files.replace (config.pathOf o) text = (files', .ok ())) :
    ∃ r, config.replacement? files o = some r ∧ files.Replaced files' [r] := by
  obtain ⟨path, r, hpath, htemporary, htarget, hbytes, hreplaced⟩ := Files.replace_eq_ok hplain h
  exact ⟨r, replacement?_eq_some.mpr
    ⟨htarget, temporary?_eq_some.mpr ⟨path, hpath, htemporary⟩, text, htext, hbytes⟩, hreplaced⟩

/-! ## Runs -/

/-- The output directory is made with those above it, if it is missing, and nothing else is changed. -/
theorem makeOutputDir_madeDirs {res : Except Failure Unit} (h : config.makeOutputDir files = (files', res)) :
    files.MadeDirs files' config.outputDir ∧ (files.exists? config.outputDir = .ok true → files' = files) := by
  rw [makeOutputDir] at h
  have hsame : files' = files →
      files.MadeDirs files' config.outputDir ∧ (files.exists? config.outputDir = .ok true → files' = files) :=
    fun heq => ⟨heq ▸ .refl files config.outputDir, fun _ => heq⟩
  split at h
  · exact hsame (Prod.mk.inj h).1.symm
  · exact hsame (Prod.mk.inj h).1.symm
  · exact hsame (Prod.mk.inj h).1.symm
  · exact hsame (Prod.mk.inj h).1.symm
  · rename_i hmissing _
    refine ⟨?_, fun hthere => ?_⟩
    · split at h <;> rename_i hmake <;> exact (Prod.mk.inj h).1 ▸ Files.makeDirs_madeDirs hmake
    · rw [hmissing] at hthere
      cases hthere

section

-- the equations of `emit` hold by computation, as long as the texts and the paths are not computed themselves
attribute [local irreducible] Config.textOf Config.pathOf Files.replace

theorem emit_nil (dryRun : Bool) (files : Files) (report : Report) :
    config.emit dryRun files report [] = (files, .ok report) := by
  rfl

theorem emit_cons (files : Files) (report : Report) (o : Output) (rest : List Output) :
    config.emit false files report (o :: rest) =
      match config.textOf o with
      | .error misfit => (files, .error (.misfit misfit))
      | .ok text =>
        match files.replace (config.pathOf o) text with
        | (files, .error failure) => (files, .error failure)
        | (files, .ok ()) =>
          let rendered := Report.put report.rendered (config.pathOf o).name text
          config.emit false files { report with rendered, files := report.files ++ [config.pathOf o] } rest := by
  rfl

end

def entryOf (config : Config) (o : Output) : Option (String × String) := do
  return ((config.pathOf o).name, ← (config.textOf o).toOption)

theorem entryOf_of_textOf {text : String} (h : config.textOf o = .ok text) :
    config.entryOf o = some ((config.pathOf o).name, text) := by
  rw [entryOf, h]
  rfl

/-- The outputs of a run that came to its end were written one after the other, each over what was there. -/
theorem emit_eq_ok (hplain : files.Plain Files.temporarySuffix)
    (h : config.emit false files report outputs = (files', .ok report')) :
    ∃ rs es, outputs.mapM (config.replacement? files) = some rs ∧ outputs.mapM config.entryOf = some es ∧
      files.Replaced files' rs ∧ report'.files = report.files ++ outputs.map config.pathOf ∧
      report'.rendered = es.foldl (fun pairs e => Report.put pairs e.1 e.2) report.rendered := by
  induction outputs generalizing files report with
  | nil =>
    rw [emit_nil] at h
    obtain ⟨rfl, hreport⟩ := Prod.mk.inj h
    obtain rfl := Except.ok.inj hreport
    exact ⟨[], [], rfl, rfl, .nil files, (List.append_nil _).symm, rfl⟩
  | cons o rest ih =>
    rw [emit_cons] at h
    split at h
    · cases h
    · rename_i text htext
      split at h
      · cases h
      · rename_i mid hreplace
        obtain ⟨r, hr, hreplaced⟩ := exists_replacement? hplain htext hreplace
        obtain ⟨rs, es, hrs, hes, hrest, hfiles, hrendered⟩ := ih (hreplaced.plain hplain) h
        refine ⟨r :: rs, _ :: es, mapM_cons_eq_some.mpr ⟨r, rs, hr, ?_, rfl⟩,
          mapM_cons_eq_some.mpr ⟨_, es, entryOf_of_textOf htext, hes, rfl⟩, hreplaced.append hrest, ?_, ?_⟩
        · exact mapM_replacement?_of_keepsPlaces (hreplaced.keepsPlaces hplain) hrs
        · rw [hfiles, List.map_cons, List.append_assoc, List.singleton_append]
        · rw [hrendered, List.foldl_cons]

/-- A run that fails at an output has replaced the files of those before it, and changed no other. The temporary file
of the output that failed is as it was, or gone. -/
theorem emit_eq_error (hplain : files.Plain Files.temporarySuffix)
    (h : config.emit false files report outputs = (files', .error failure)) :
    ∃ before o after rs mid, outputs = before ++ o :: after ∧ before.mapM (config.replacement? files) = some rs ∧
      files.Replaced mid rs ∧ files'.workDir = mid.workDir ∧ files'.dirs = mid.dirs ∧
      ∀ loc, files'.entryAt loc = mid.entryAt loc ∨
        files'.entryAt loc = .nothing ∧ config.temporary? files o = some loc := by
  induction outputs generalizing files report with
  | nil =>
    rw [emit_nil] at h
    obtain ⟨-, h⟩ := Prod.mk.inj h
    cases h
  | cons o rest ih =>
    rw [emit_cons] at h
    split at h
    · obtain ⟨rfl, -⟩ := Prod.mk.inj h
      exact ⟨[], o, rest, [], files, rfl, rfl, .nil files, rfl, rfl, fun _ => .inl rfl⟩
    · rename_i text htext
      split at h
      · rename_i hreplace
        obtain ⟨rfl, -⟩ := Prod.mk.inj h
        obtain ⟨hwork, hdirs, hall⟩ := Files.replace_eq_error hplain hreplace
        refine ⟨[], o, rest, [], files, rfl, rfl, .nil files, hwork, hdirs, fun loc => (hall loc).imp_right ?_⟩
        exact fun ⟨hgone, htemporary⟩ => ⟨hgone, temporary?_eq_some.mpr htemporary⟩
      · rename_i next hreplace
        obtain ⟨r, hr, hreplaced⟩ := exists_replacement? hplain htext hreplace
        have hkeeps := hreplaced.keepsPlaces hplain
        obtain ⟨before, o', after, rs, mid, rfl, hrs, hrest, hwork, hdirs, hall⟩ := ih (hreplaced.plain hplain) h
        refine ⟨o :: before, o', after, r :: rs, mid, rfl, mapM_cons_eq_some.mpr
          ⟨r, rs, hr, mapM_replacement?_of_keepsPlaces hkeeps hrs, rfl⟩, hreplaced.append hrest, hwork, hdirs, ?_⟩
        exact fun loc => (hall loc).imp_right fun ⟨hgone, htemporary⟩ =>
          ⟨hgone, temporary?_of_keepsPlaces hkeeps htemporary⟩

end Config

end KubeManifest
