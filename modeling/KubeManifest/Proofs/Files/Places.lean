import KubeManifest.Files

/-!
# Where paths lead

* `Files.Leads` : the places that names lead to from a directory, link by link and name by name;
* `Files.follow_eq_ok_iff` : following names comes to such a place, or to none;
* `Files.Leads.mono` : what names lead to in files with links only where there were such, they led to before;
* `Files.Leads.concat` : what names lead to lies in the directory that the names before the last one lead to;
* `Files.Leads.toThrough`, `Files.Leads.toEntry` : a path leads to the place that it names, unless a link lies there.
-/

namespace KubeManifest.Files

/-- The place that names lead to from a directory, over some number of links at most. -/
inductive Leads (fs : Files) (through : Bool) : Nat → Location → List String → Location → Prop
  | here {n : Nat} {loc : Location} : Leads fs through n loc [] loc
  | last {n : Nat} {loc : Location} {name : String} (hshort : name.utf8ByteSize ≤ maxName)
      (hstay : fs.linkAt (next loc name) = none ∨ through = false) : Leads fs through n loc [name] (next loc name)
  | down {n : Nat} {loc place : Location} {name : String} {rest : List String} (hshort : name.utf8ByteSize ≤ maxName)
      (hlink : fs.linkAt (next loc name) = none) (hdir : fs.hasDir (next loc name) = true) (hrest : rest ≠ [])
      (h : Leads fs through n (next loc name) rest place) : Leads fs through n loc (name :: rest) place
  | link {n : Nat} {loc place : Location} {name : String} {rest : List String} {path : Path}
      (hshort : name.utf8ByteSize ≤ maxName) (hlink : fs.linkAt (next loc name) = some path)
      (hgo : rest ≠ [] ∨ through = true)
      (h : Leads fs through n (if path.isAbsolute then [] else loc) (path.parts ++ rest) place) :
      Leads fs through (n + 1) loc (name :: rest) place

variable {fs gs : Files} {through : Bool} {n : Nat} {loc place : Location} {name : String} {names : List String}

/-- One name is followed. -/
theorem followNames_cons_eq_ok_iff {onLink : Location → List String → Except FileFault Location} :
    fs.followNames through onLink loc (name :: names) = .ok place ↔
      name.utf8ByteSize ≤ maxName ∧
        (names = [] ∧ (fs.linkAt (next loc name) = none ∨ through = false) ∧ place = next loc name ∨
          fs.linkAt (next loc name) = none ∧ names ≠ [] ∧ fs.hasDir (next loc name) = true ∧
            fs.followNames through onLink (next loc name) names = .ok place ∨
          ∃ path, fs.linkAt (next loc name) = some path ∧ (names ≠ [] ∨ through = true) ∧
            onLink (if path.isAbsolute then [] else loc) (path.parts ++ names) = .ok place) := by
  rw [followNames]
  split
  · rename_i hlong
    exact iff_of_false nofun fun h => absurd h.1 (Nat.not_le.mpr hlong)
  · rename_i hshort
    rw [and_iff_right (Nat.not_lt.mp hshort)]
    cases fs.linkAt (next loc name) with
    | none =>
      cases names with
      | nil => simp [@eq_comm _ place]
      | cons second rest =>
        cases fs.hasDir (next loc name) with
        | true => simp
        | false =>
          simp only [List.isEmpty_cons, Bool.false_eq_true, if_false]
          exact iff_of_false (by split <;> simp) (by simp)
    | some path => cases names <;> cases through <;> simp [@eq_comm _ place]

theorem leads_of_followNames {onLink : Location → List String → Except FileFault Location}
    (hlinks : ∀ loc names, onLink loc names = .ok place → ∃ m, n = m + 1 ∧ Leads fs through m loc names place)
    (h : fs.followNames through onLink loc names = .ok place) : Leads fs through n loc names place := by
  induction names generalizing loc with
  | nil => exact Except.ok.inj h ▸ .here
  | cons name names ih =>
    obtain ⟨hshort, ⟨rfl, hstay, rfl⟩ | ⟨hlink, hne, hdir, h⟩ | ⟨path, hlink, hgo, h⟩⟩ :=
      followNames_cons_eq_ok_iff.mp h
    · exact .last hshort hstay
    · exact .down hshort hlink hdir hne (ih h)
    · obtain ⟨m, rfl, h⟩ := hlinks _ _ h
      exact .link hshort hlink hgo h

/-- Names are followed to the place that they lead to. -/
theorem follow_eq_ok_iff : fs.follow through n loc names = .ok place ↔ Leads fs through n loc names place := by
  constructor
  · intro h
    induction n generalizing loc names with
    | zero =>
      rw [follow] at h
      refine leads_of_followNames (fun _ _ hlink => ?_) h
      cases hlink
    | succ n ih =>
      rw [follow] at h
      exact leads_of_followNames (fun _ _ hlink => ⟨n, rfl, ih hlink⟩) h
  · intro h
    induction h with
    | here => cases ‹Nat› <;> rfl
    | last hshort hstay => cases ‹Nat› <;> exact followNames_cons_eq_ok_iff.mpr ⟨hshort, .inl ⟨rfl, hstay, rfl⟩⟩
    | down hshort hlink hdir hrest _ ih =>
      cases ‹Nat› <;> exact followNames_cons_eq_ok_iff.mpr ⟨hshort, .inr (.inl ⟨hlink, hrest, hdir, ih⟩)⟩
    | link hshort hlink hgo _ ih =>
      exact followNames_cons_eq_ok_iff.mpr ⟨hshort, .inr (.inr ⟨_, hlink, hgo, ih⟩)⟩

namespace Leads

/-- Where all links were there before, and no directory takes the place of one, names lead only where they led. -/
theorem mono (hlinks : ∀ loc path, gs.linkAt loc = some path → fs.linkAt loc = some path)
    (hdirs : ∀ loc, gs.linkAt loc = none → gs.hasDir loc = true → fs.linkAt loc = none ∧ fs.hasDir loc = true)
    (h : Leads gs false n loc names place) : Leads fs false n loc names place := by
  induction h with
  | here => exact .here
  | last hshort _ => exact .last hshort (.inr rfl)
  | down hshort hlink hdir hrest _ ih =>
    obtain ⟨hlink', hdir'⟩ := hdirs _ hlink hdir
    exact .down hshort hlink' hdir' hrest ih
  | link hshort hlink hgo _ ih => exact .link hshort (hlinks _ _ hlink) hgo ih

/-- The last name is one in the directory that the names before it lead to. -/
theorem concat (h : Leads fs false n loc (names ++ [name]) place) :
    ∃ dir, Leads fs true n loc names dir ∧ place = next dir name := by
  generalize hall : names ++ [name] = all at h
  induction h generalizing names with
  | here => simp at hall
  | last =>
    cases names with
    | nil =>
      obtain rfl : name = _ := by simpa using hall
      exact ⟨_, .here, rfl⟩
    | cons _ names => simp at hall
  | down hshort hlink hdir hrest _ ih =>
    cases names with
    | nil =>
      obtain ⟨-, rfl⟩ := List.cons.inj hall
      exact absurd rfl hrest
    | cons first names =>
      obtain ⟨rfl, rfl⟩ := List.cons.inj hall
      obtain ⟨dir, hdir', rfl⟩ := ih rfl
      refine ⟨dir, ?_, rfl⟩
      cases names with
      | nil =>
        cases hdir'
        exact .last hshort (.inl hlink)
      | cons second names => exact .down hshort hlink hdir (List.cons_ne_nil _ _) hdir'
  | link hshort hlink hgo _ ih =>
    cases names with
    | nil =>
      obtain ⟨-, rfl⟩ := List.cons.inj hall
      exact absurd rfl (hgo.resolve_right nofun)
    | cons first names =>
      obtain ⟨rfl, rfl⟩ := List.cons.inj hall
      obtain ⟨dir, hdir', rfl⟩ := ih (List.append_assoc _ _ _)
      exact ⟨dir, .link hshort hlink (.inr rfl) hdir', rfl⟩

/-- Where no link lies at the end of a path, it leads to the place that it names. -/
theorem toThrough (h : Leads fs false n loc names place) (hplace : fs.linkAt place = none) :
    Leads fs true n loc names place := by
  induction h with
  | here => exact .here
  | last hshort _ => exact .last hshort (.inl hplace)
  | down hshort hlink hdir hrest _ ih => exact .down hshort hlink hdir hrest (ih hplace)
  | link hshort hlink _ _ ih => exact .link hshort hlink (.inr rfl) (ih hplace)

/-- A path that leads somewhere names a place, and leads there unless it is the one of a link. -/
theorem toEntry (h : Leads fs true n loc names place) :
    ∃ entry, Leads fs false n loc names entry ∧ (fs.linkAt entry = none → entry = place) := by
  induction h with
  | here => exact ⟨_, .here, fun _ => rfl⟩
  | last hshort _ => exact ⟨_, .last hshort (.inr rfl), fun _ => rfl⟩
  | down hshort hlink hdir hrest _ ih =>
    obtain ⟨entry, h, heq⟩ := ih
    exact ⟨entry, .down hshort hlink hdir hrest h, heq⟩
  | @link n loc place name rest path hshort hlink _ _ ih =>
    cases rest with
    | nil =>
      refine ⟨next loc name, .last hshort (.inr rfl), fun hnone => ?_⟩
      rw [hlink] at hnone
      cases hnone
    | cons second rest =>
      obtain ⟨entry, h, heq⟩ := ih
      exact ⟨entry, .link hshort hlink (.inl (List.cons_ne_nil _ _)) h, heq⟩

end Leads

/-! ## Paths -/

variable {p : Path}

/-- A path that can be followed at all: no name holds the character NUL, and its text is not too long. -/
def CanFollow (p : Path) : Prop :=
  (∀ part ∈ p.parts, '\x00' ∉ part.toList) ∧ p.text.utf8ByteSize ≤ maxPath

theorem follow?_eq_ok_iff : fs.follow? through p = .ok place ↔
    CanFollow p ∧ Leads fs through maxLinks (fs.start p) p.parts place := by
  rw [follow?, CanFollow, ← follow_eq_ok_iff]
  split
  · rename_i hnul
    refine iff_of_false nofun fun h => ?_
    simp only [List.any_eq_true, List.contains_iff_mem] at hnul
    obtain ⟨part, hpart, hnul⟩ := hnul
    exact h.1.1 part hpart hnul
  · rename_i hnul
    simp only [List.any_eq_true, List.contains_iff_mem, not_exists, not_and] at hnul
    split
    · rename_i hlong
      exact iff_of_false nofun fun h => absurd h.1.2 (Nat.not_le.mpr hlong)
    · rename_i hshort
      exact (and_iff_right ⟨hnul, Nat.not_lt.mp hshort⟩).symm

theorem locate_eq_ok_iff : fs.locate p = .ok place ↔
    CanFollow p ∧ Leads fs false maxLinks (fs.start p) p.parts place :=
  follow?_eq_ok_iff

theorem resolve_eq_ok_iff : fs.resolve p = .ok place ↔
    CanFollow p ∧ Leads fs true maxLinks (fs.start p) p.parts place :=
  follow?_eq_ok_iff

theorem resolve_of_locate (h : fs.locate p = .ok place) (hplace : fs.linkAt place = none) :
    fs.resolve p = .ok place := by
  obtain ⟨hcan, h⟩ := locate_eq_ok_iff.mp h
  exact resolve_eq_ok_iff.mpr ⟨hcan, h.toThrough hplace⟩

theorem locate_of_resolve (h : fs.resolve p = .ok place) :
    ∃ entry, fs.locate p = .ok entry ∧ (fs.linkAt entry = none → entry = place) := by
  obtain ⟨hcan, h⟩ := resolve_eq_ok_iff.mp h
  obtain ⟨entry, h, heq⟩ := h.toEntry
  exact ⟨entry, locate_eq_ok_iff.mpr ⟨hcan, h⟩, heq⟩

/-- The place that a path names lies in the directory that the names before the last one lead to. -/
theorem exists_next_of_locate {parts : List String} (hparts : p.parts = parts ++ [name])
    (h : fs.locate p = .ok place) :
    ∃ dir, fs.follow true maxLinks (fs.start p) parts = .ok dir ∧ place = next dir name := by
  obtain ⟨-, h⟩ := locate_eq_ok_iff.mp h
  rw [hparts] at h
  obtain ⟨dir, hdir, heq⟩ := h.concat
  exact ⟨dir, follow_eq_ok_iff.mpr hdir, heq⟩

end KubeManifest.Files
