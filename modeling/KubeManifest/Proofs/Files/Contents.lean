import KubeManifest.Proofs.Files.Places
import KubeManifest.Proofs.Results

/-!
# What operations do to the entries

* `Files.PlainAt`, `Files.Plain`, `Files.Unlinked` : no link, and no file with other names, at a place or at any place
  of some name;
* `Files.entryAt_put`, `Files.entryAt_drop`, `Files.entryAt_move` : a file is written, taken away or moved at its
  places alone;
* `Files.KeepsPlaces` : the same directories, and links only where there were such before, so that a path that leads
  somewhere led there before;
* `Files.write_eq_ok`, `Files.remove_eq_ok`, `Files.rename_eq_ok` : what an operation that comes to its end has done;
* `Files.MadeDirs`, `Files.makeDirs_madeDirs` : the directories that were made, and nothing else.
-/

namespace KubeManifest

/-- The path that stands some number of names above a path. -/
def Path.above (p : Path) : Nat → Path
  | 0 => p
  | n + 1 => p.parent.above n

namespace Files

/-! ## Entries -/

section lookup

variable {α : Type} (xs : List (Location × α)) (place loc : Location)

theorem lookup_map_value (f : Location → α → α) :
    (xs.map fun e => (e.1, f e.1 e.2)).lookup loc = (xs.lookup loc).map (f loc) := by
  induction xs with
  | nil => rfl
  | cons e xs ih =>
    obtain ⟨place, old⟩ := e
    rw [List.map_cons, List.lookup_cons, List.lookup_cons, ih]
    cases hl : loc == place with
    | false => rfl
    | true =>
      obtain rfl : loc = place := eq_of_beq hl
      rfl

theorem lookup_append (x : α) :
    (xs ++ [(place, x)]).lookup loc = (xs.lookup loc).or (if loc = place then some x else none) := by
  induction xs with
  | nil =>
    rw [List.nil_append, List.lookup_cons]
    by_cases h : loc = place
    · simp [h]
    · rw [if_neg h, beq_eq_false_iff_ne.mpr h]
      rfl
  | cons e xs ih =>
    obtain ⟨other, old⟩ := e
    rw [List.cons_append, List.lookup_cons, List.lookup_cons, ih]
    cases loc == other <;> rfl

theorem lookup_filter_ne :
    (xs.filter fun e => e.1 != place).lookup loc = if loc = place then none else xs.lookup loc := by
  induction xs with
  | nil => simp
  | cons e xs ih =>
    obtain ⟨other, old⟩ := e
    rw [List.filter_cons]
    by_cases hother : other = place
    · subst hother
      rw [if_neg (by simp), ih, List.lookup_cons]
      by_cases h : loc = other
      · simp [h]
      · rw [if_neg h, if_neg h, beq_eq_false_iff_ne.mpr h]
    · rw [if_pos (by simpa using hother), List.lookup_cons, List.lookup_cons, ih]
      by_cases h : loc = other
      · subst h
        simp [hother]
      · rw [beq_eq_false_iff_ne.mpr h]

/-- What was at one place is found at the other one, and nothing where it was. -/
theorem lookup_moved {origin destination : Location} (hne : origin ≠ destination) :
    (moved origin destination xs).lookup loc =
      if loc = destination then xs.lookup origin else if loc = origin then none else xs.lookup loc := by
  induction xs with
  | nil => simp [moved]
  | cons e xs ih =>
    obtain ⟨other, x⟩ := e
    have hmoved : moved origin destination ((other, x) :: xs) =
        if other = destination then moved origin destination xs
        else (if other = origin then destination else other, x) :: moved origin destination xs := by
      by_cases hother : other = destination <;> simp [moved, hother]
    rw [hmoved, List.lookup_cons, List.lookup_cons]
    by_cases hother : other = destination
    · subst hother
      rw [if_pos rfl, ih, beq_eq_false_iff_ne.mpr hne]
      by_cases hloc : loc = other
      · simp [hloc]
      · rw [beq_eq_false_iff_ne.mpr hloc]
    · rw [if_neg hother, List.lookup_cons, ih]
      by_cases horigin : other = origin
      · subst horigin
        rw [if_pos rfl]
        by_cases hloc : loc = destination
        · simp [hloc]
        · rw [beq_eq_false_iff_ne.mpr hloc, if_neg hloc, if_neg hloc]
          by_cases hloc' : loc = other
          · simp [hloc']
          · rw [beq_eq_false_iff_ne.mpr hloc']
      · rw [if_neg horigin, beq_eq_false_iff_ne.mpr (Ne.symm horigin)]
        by_cases hloc : loc = other
        · subst hloc
          simp [hother, horigin]
        · rw [beq_eq_false_iff_ne.mpr hloc]

end lookup

namespace Entry

def file (bytes : ByteArray) : Entry where
  content := some bytes

def nothing : Entry := {}

end Entry

/-- No link, and no file with other names, at a place. -/
structure PlainAt (fs : Files) (loc : Location) : Prop where
  link : fs.linkAt loc = none
  number : fs.numberAt loc = none

/-- No link, and no file with other names, at the places whose names end with a suffix. -/
def Plain (fs : Files) (suffix : String) : Prop :=
  ∀ loc name, loc.getLast? = some (name ++ suffix) → fs.PlainAt loc

/-- No link at the places whose names end with a suffix. -/
def Unlinked (fs : Files) (suffix : String) : Prop :=
  ∀ loc name, loc.getLast? = some (name ++ suffix) → fs.linkAt loc = none

variable {fs gs hs : Files} {place loc : Location} {bytes : ByteArray}

theorem plainAt_iff : fs.PlainAt loc ↔ (fs.entryAt loc).link = none ∧ (fs.entryAt loc).number = none :=
  ⟨fun h => ⟨h.link, h.number⟩, fun h => ⟨h.1, h.2⟩⟩

/-- Only a place itself is a name of a file without other names. -/
theorem PlainAt.sameFile_iff (h : fs.PlainAt place) :
    (fs.sameFile loc place = true ↔ loc = place) ∧ (fs.sameFile place loc = true ↔ place = loc) := by
  rw [sameFile, sameFile, h.number]
  cases fs.numberAt loc <;> simp

theorem contentAt_put (h : fs.PlainAt place) (bytes : ByteArray) (loc : Location) :
    (fs.put place bytes).contentAt loc = if loc = place then some bytes else fs.contentAt loc := by
  rw [put]
  split
  · rename_i hsome
    change (fs.contents.map fun e => (e.1, if fs.sameFile e.1 place then bytes else e.2)).lookup loc = _
    rw [lookup_map_value fs.contents loc fun place' old => if fs.sameFile place' place then bytes else old]
    simp only [h.sameFile_iff.1]
    by_cases hloc : loc = place
    · subst hloc
      obtain ⟨old, hold⟩ := Option.isSome_iff_exists.mp hsome
      rw [contentAt] at hold
      simp [hold]
    · simp only [if_neg hloc]
      exact Option.map_id_apply
  · rename_i hnone
    change (fs.contents ++ [(place, bytes)]).lookup loc = _
    rw [lookup_append]
    by_cases hloc : loc = place
    · subst hloc
      rw [Option.not_isSome_iff_eq_none, contentAt] at hnone
      rw [hnone, if_pos rfl, if_pos rfl]
      rfl
    · rw [if_neg hloc, if_neg hloc, Option.or_none]
      rfl

theorem linkAt_put (fs : Files) (place loc : Location) (bytes : ByteArray) :
    (fs.put place bytes).linkAt loc = fs.linkAt loc := by
  rw [put]
  split <;> rfl

theorem numberAt_put (fs : Files) (place loc : Location) (bytes : ByteArray) :
    (fs.put place bytes).numberAt loc = fs.numberAt loc := by
  rw [put]
  split <;> rfl

theorem entryAt_put (h : fs.PlainAt place) (bytes : ByteArray) (loc : Location) :
    (fs.put place bytes).entryAt loc = if loc = place then .file bytes else fs.entryAt loc := by
  rw [entryAt, contentAt_put h, linkAt_put, numberAt_put]
  split
  · rename_i hloc
    rw [hloc, h.link, h.number, Entry.file]
  · rfl

theorem entryAt_drop (fs : Files) (place loc : Location) :
    (fs.drop place).entryAt loc = if loc = place then .nothing else fs.entryAt loc := by
  simp only [entryAt, contentAt, linkAt, numberAt, drop, lookup_filter_ne]
  split <;> rfl

theorem entryAt_move {origin destination : Location} (hne : origin ≠ destination) (loc : Location) :
    (fs.move origin destination).entryAt loc =
      if loc = destination then fs.entryAt origin else if loc = origin then .nothing else fs.entryAt loc := by
  simp only [entryAt, contentAt, linkAt, numberAt, move, lookup_moved _ _ hne]
  split
  · rfl
  · split <;> rfl

/-! ## Places -/

/-- The same directories, and no links but such as there were. Where one is gone there is no directory. -/
structure KeepsPlaces (fs gs : Files) : Prop where
  workDir : gs.workDir = fs.workDir
  dirs : gs.dirs = fs.dirs
  links : ∀ loc path, gs.linkAt loc = some path → fs.linkAt loc = some path
  gone : ∀ loc, gs.linkAt loc = none → gs.hasDir loc = true → fs.linkAt loc = none

namespace KeepsPlaces

theorem hasDir (h : KeepsPlaces fs gs) (loc : Location) : gs.hasDir loc = fs.hasDir loc := by
  rw [Files.hasDir, Files.hasDir, h.dirs]

theorem start (h : KeepsPlaces fs gs) (p : Path) : gs.start p = fs.start p := by
  rw [Files.start, Files.start, h.workDir]

theorem leads (h : KeepsPlaces fs gs) {n : Nat} {names : List String} (hplace : Leads gs false n loc names place) :
    Leads fs false n loc names place :=
  hplace.mono h.links fun loc hlink hdir => ⟨h.gone loc hlink hdir, h.hasDir loc ▸ hdir⟩

/-- What a path names, it named before. -/
theorem locate (h : KeepsPlaces fs gs) {p : Path} (hplace : gs.locate p = .ok place) : fs.locate p = .ok place := by
  obtain ⟨hcan, hplace⟩ := locate_eq_ok_iff.mp hplace
  exact locate_eq_ok_iff.mpr ⟨hcan, h.start p ▸ h.leads hplace⟩

end KeepsPlaces

structure SamePlaces (fs gs : Files) : Prop where
  workDir : gs.workDir = fs.workDir
  dirs : gs.dirs = fs.dirs
  links : ∀ loc, gs.linkAt loc = fs.linkAt loc

namespace SamePlaces

theorem symm (h : SamePlaces fs gs) : SamePlaces gs fs :=
  ⟨h.workDir.symm, h.dirs.symm, fun loc => (h.links loc).symm⟩

theorem keepsPlaces (h : SamePlaces fs gs) : KeepsPlaces fs gs :=
  ⟨h.workDir, h.dirs, fun loc _ hlink => h.links loc ▸ hlink, fun loc hlink _ => h.links loc ▸ hlink⟩

theorem locate (h : SamePlaces fs gs) {p : Path} : gs.locate p = .ok place ↔ fs.locate p = .ok place :=
  ⟨h.keepsPlaces.locate, h.symm.keepsPlaces.locate⟩

end SamePlaces

theorem samePlaces_put (fs : Files) (place : Location) (bytes : ByteArray) : SamePlaces fs (fs.put place bytes) := by
  refine ⟨?_, ?_, fun loc => linkAt_put fs place loc bytes⟩ <;> rw [put] <;> split <;> rfl

/-! ## Operations -/

theorem read_eq_ok {p : Path} (hloc : fs.resolve p = .ok loc) (hdir : fs.hasDir loc = false)
    (hbytes : fs.contentAt loc = some bytes) : fs.read p = .ok bytes := by
  simp [read, hloc, hdir, hbytes, ok_bind]

theorem write_eq_ok {p : Path} (h : fs.write p bytes = .ok gs) :
    ∃ loc, fs.resolve p = .ok loc ∧ gs = fs.put loc bytes := by
  obtain ⟨loc, hloc, h⟩ := bind_eq_ok.mp h
  split at h
  · cases h
  · exact ⟨loc, hloc, (Except.ok.inj h).symm⟩

theorem remove_eq_ok {p : Path} (h : fs.remove p = .ok gs) : ∃ loc, fs.locate p = .ok loc ∧ gs = fs.drop loc := by
  obtain ⟨loc, hloc, h⟩ := bind_eq_ok.mp h
  split at h
  · exact ⟨loc, hloc, (Except.ok.inj h).symm⟩
  · cases h

/-- A file without other names that was moved stands in its new place, and no longer in its old one unless both are
the same. -/
theorem rename_eq_ok {source target : Path} {origin : Location} (h : fs.rename source target = .ok gs)
    (horigin : fs.locate source = .ok origin) (hplain : fs.PlainAt origin) :
    ∃ destination, fs.locate target = .ok destination ∧ fs.hasDir destination = false ∧ gs.workDir = fs.workDir ∧
      gs.dirs = fs.dirs ∧ ∀ loc, gs.entryAt loc =
        if loc = destination then fs.entryAt origin else if loc = origin then .nothing else fs.entryAt loc := by
  obtain ⟨origin', horigin', h⟩ := bind_eq_ok.mp h
  obtain rfl : origin = origin' := Except.ok.inj (horigin.symm.trans horigin')
  obtain ⟨destination, hdestination, h⟩ := bind_eq_ok.mp h
  split at h
  · cases h
  · split at h
    · cases h
    · rename_i hdir
      refine ⟨destination, hdestination, eq_false_of_ne_true hdir, ?_⟩
      split at h <;> rename_i hsame <;> obtain rfl := Except.ok.inj h
      · obtain rfl : origin = destination := hplain.sameFile_iff.2.mp hsame
        refine ⟨rfl, rfl, fun loc => ?_⟩
        split
        · rename_i hloc
          rw [hloc]
        · rfl
      · exact ⟨rfl, rfl, entryAt_move fun heq => hsame (hplain.sameFile_iff.2.mpr heq)⟩

/-! ### Directories that are made -/

/-- The same entries in more directories: those that a path, or what stands above it, names. -/
structure MadeDirs (fs gs : Files) (p : Path) : Prop where
  workDir : gs.workDir = fs.workDir
  entryAt : gs.entryAt = fs.entryAt
  dirs : ∃ made, gs.dirs = fs.dirs ++ made ∧ ∀ loc ∈ made, ∃ n, gs.locate (p.above n) = .ok loc

variable {p : Path}

theorem MadeDirs.refl (fs : Files) (p : Path) : MadeDirs fs fs p :=
  ⟨rfl, rfl, [], (List.append_nil _).symm, fun _ h => absurd h List.not_mem_nil⟩

theorem MadeDirs.plain (h : MadeDirs fs gs p) {suffix : String} (hplain : fs.Plain suffix) : gs.Plain suffix :=
  fun loc name hname => by
    rw [plainAt_iff, h.entryAt]
    exact plainAt_iff.mp (hplain loc name hname)

theorem MadeDirs.linkAt (h : MadeDirs fs gs p) (loc : Location) : gs.linkAt loc = fs.linkAt loc :=
  congrArg Entry.link (congrFun h.entryAt loc)

theorem MadeDirs.unlinked (h : MadeDirs fs gs p) {suffix : String} (hlinks : fs.Unlinked suffix) : gs.Unlinked suffix :=
  fun loc name hname => (h.linkAt loc).trans (hlinks loc name hname)

/-- With more directories a path names what it named. -/
theorem locate_of_dirs {made : List Location} (hloc : fs.locate p = .ok loc) (hwork : gs.workDir = fs.workDir)
    (hentries : gs.entryAt = fs.entryAt) (hdirs : gs.dirs = fs.dirs ++ made) : gs.locate p = .ok loc := by
  have hlinks : ∀ loc, gs.linkAt loc = fs.linkAt loc := fun loc => congrArg Entry.link (congrFun hentries loc)
  have hmore : ∀ loc, fs.hasDir loc = true → gs.hasDir loc = true := fun loc hdir => by
    rw [Files.hasDir, List.contains_iff_mem] at hdir ⊢
    exact hdirs ▸ List.mem_append_left _ hdir
  obtain ⟨hcan, hloc⟩ := locate_eq_ok_iff.mp hloc
  have hstart : gs.start p = fs.start p := by rw [Files.start, Files.start, hwork]
  refine locate_eq_ok_iff.mpr ⟨hcan, hstart ▸ hloc.mono (fun loc path hlink => hlinks loc ▸ hlink) ?_⟩
  exact fun loc hlink hdir => ⟨hlinks loc ▸ hlink, hmore loc hdir⟩

/-- What is made for the path above and then for the path itself. -/
theorem MadeDirs.trans (h : MadeDirs fs gs p.parent) (h' : MadeDirs gs hs p) : MadeDirs fs hs p := by
  obtain ⟨made, hdirs, hmade⟩ := h.dirs
  obtain ⟨made', hdirs', hmade'⟩ := h'.dirs
  refine ⟨h'.workDir.trans h.workDir, h'.entryAt.trans h.entryAt, made ++ made', ?_, fun loc hloc => ?_⟩
  · rw [hdirs', hdirs, List.append_assoc]
  · rcases List.mem_append.mp hloc with hloc | hloc
    · obtain ⟨n, hn⟩ := hmade loc hloc
      exact ⟨n + 1, locate_of_dirs hn h'.workDir h'.entryAt hdirs'⟩
    · exact hmade' loc hloc

theorem makeDir_eq_ok (h : fs.makeDir p = .ok gs) : MadeDirs fs gs p := by
  obtain ⟨loc, hloc, h⟩ := bind_eq_ok.mp h
  split at h
  · cases h
  · obtain rfl := Except.ok.inj h
    refine ⟨rfl, rfl, [loc], rfl, fun place hplace => ⟨0, ?_⟩⟩
    rw [List.mem_singleton.mp hplace, Path.above]
    exact locate_of_dirs hloc rfl rfl rfl

theorem makeLast_madeDirs {res : Except FileFault Unit} (h : makeDirsUpTo.makeLast p fs = (gs, res)) :
    MadeDirs fs gs p := by
  rw [makeDirsUpTo.makeLast] at h
  split at h
  · rename_i hmake
    exact (Prod.mk.inj h).1 ▸ makeDir_eq_ok hmake
  · exact (Prod.mk.inj h).1 ▸ MadeDirs.refl fs p
  · exact (Prod.mk.inj h).1 ▸ MadeDirs.refl fs p

/-- A directory is made with those above it, or some of these, and nothing else is changed. -/
theorem makeDirs_madeDirs {res : Except FileFault Unit} (h : fs.makeDirs p = (gs, res)) : MadeDirs fs gs p := by
  rw [makeDirs] at h
  generalize p.parts.length = n at h
  induction n generalizing p fs gs res with
  | zero => exact makeLast_madeDirs h
  | succ n ih =>
    rw [makeDirsUpTo] at h
    split at h
    · rename_i hmake
      exact (Prod.mk.inj h).1 ▸ makeDir_eq_ok hmake
    · split at h
      · rename_i hup
        exact (ih hup).trans (makeLast_madeDirs h)
      · rename_i hup
        obtain ⟨rfl, -⟩ := Prod.mk.inj h
        exact (ih hup).trans (MadeDirs.refl _ p)
    · exact (Prod.mk.inj h).1 ▸ MadeDirs.refl fs p

end Files

end KubeManifest
