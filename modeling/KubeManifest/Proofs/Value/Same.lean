import KubeManifest.Proofs.Number.Binary64
import KubeManifest.Proofs.Value.Entries
import KubeManifest.Value.Same
import Mathlib.Data.List.Forall2

/-!
# Equality by value

Whole numbers and doubles are compared exactly, and mappings without regard to the order of their entries. Where
doubles are numbers in their one form, and the keys of a mapping differ, this is an equivalence.

* `Scalar.meaning`, `Scalar.same_iff` : scalars are equal if they mean the same;
* `exists_partner` : lists of one length whose items go together one by one;
* `Value.Comparable`, `Value.Comparable.lawful` : values without what is not a number, on which equality is an
  equivalence.
-/

namespace KubeManifest

/-! ## Scalars -/

namespace Scalar

/-- What a scalar means, whatever type it has and in whatever way it is written. -/
inductive Meaning
  | null
  | number (q : ℚ)
  | infinite (negative : Bool)
  | undefined
  | text (s : String)
  | date (d : Date)
  | instant (zoned : Bool) (microseconds : Int)
deriving DecidableEq

def meaning : Scalar → Meaning
  | null => .null
  | bool b => .number (if b then 1 else 0)
  | int n _ => .number n
  | float (.finite negative m e) _ => .number (Binary64.value (.finite negative m e))
  | float (.infinite negative) _ => .infinite negative
  | float .notANumber _ => .undefined
  | text s _ => .text s
  | moment (.date d) _ => .date d
  | moment (.instant d c offset) _ => .instant offset.isSome (Moment.instant d c offset).microseconds

/-- Whether a scalar is equal to itself: a double must be a number, in its one form. -/
def Comparable : Scalar → Prop
  | float x _ => x.Canonical
  | _ => True

variable {a b : Scalar}

theorem meaning_of_whole? {n : Int} (h : a.whole? = some n) : a.meaning = .number n := by
  cases a with
  | bool b =>
    obtain rfl := Option.some.inj h
    cases b <;> simp [meaning]
  | int n style =>
    obtain rfl := Option.some.inj h
    rfl
  | _ => cases h

theorem equalsInt_iff_meaning {x : Binary64} {style : Option FloatStyle} {n : Int} :
    x.equalsInt n = true ↔ (float x style).meaning = .number n := by
  cases x with
  | finite negative m e => rw [Binary64.equalsInt_iff, meaning, Meaning.number.injEq]
  | infinite negative => exact iff_of_false nofun nofun
  | notANumber => exact iff_of_false nofun nofun

theorem equals_iff_meaning {x y : Binary64} {style style' : Option FloatStyle} (hx : x.Canonical) (hy : y.Canonical) :
    x.equals y = true ↔ (float x style).meaning = (float y style').meaning := by
  cases x with
  | notANumber => cases hx
  | infinite negative => cases y <;> simp [Binary64.equals, Binary64.isZero, meaning]
  | finite negative m e =>
    cases y with
    | notANumber => cases hy
    | infinite negative => simp [Binary64.equals, Binary64.isZero, meaning]
    | finite negative' m' e' => rw [Binary64.equals_iff_value hx hy, meaning, meaning, Meaning.number.injEq]

theorem same_moments_iff {m n : Moment} {style style' : Option MomentStyle} :
    m.same n = true ↔ (moment m style).meaning = (moment n style').meaning := by
  cases m <;> cases n <;> simp [Moment.same, meaning]

/-- Scalars are equal if they mean the same. -/
theorem same_iff (ha : a.Comparable) (hb : b.Comparable) : a.same b = true ↔ a.meaning = b.meaning := by
  unfold same
  split
  · rename_i m n hm hn
    rw [meaning_of_whole? hm, meaning_of_whole? hn]
    simp
  · rename_i m hm hn
    rw [meaning_of_whole? hm]
    cases b with
    | float y style => exact equalsInt_iff_meaning.trans eq_comm
    | bool b => cases hn
    | int n style => cases hn
    | moment n style => cases n <;> simp [meaning]
    | _ => simp [meaning]
  · rename_i n hm hn
    rw [meaning_of_whole? hn]
    cases a with
    | float x style => exact equalsInt_iff_meaning
    | bool b => cases hm
    | int n style => cases hm
    | moment m style => cases m <;> simp [meaning]
    | _ => simp [meaning]
  · rename_i hm hn
    -- only scalars of one type are left to be equal
    cases a with
    | bool b => cases hm
    | int n style => cases hm
    | null =>
      cases b with
      | bool b => cases hn
      | int n style => cases hn
      | null => simp
      | text s style => exact iff_of_false nofun nofun
      | float y style => cases y <;> exact iff_of_false nofun nofun
      | moment n style => cases n <;> exact iff_of_false nofun nofun
    | text s style =>
      cases b with
      | bool b => cases hn
      | int n style => cases hn
      | null => exact iff_of_false nofun nofun
      | text t style => simp [meaning]
      | float y style => cases y <;> exact iff_of_false nofun nofun
      | moment n style => cases n <;> exact iff_of_false nofun nofun
    | float x style =>
      cases b with
      | bool b => cases hn
      | int n style => cases hn
      | float y style => exact equals_iff_meaning ha hb
      | moment n style => cases x <;> cases n <;> exact iff_of_false nofun nofun
      | _ => cases x <;> exact iff_of_false nofun nofun
    | moment m style =>
      cases b with
      | bool b => cases hn
      | int n style => cases hn
      | moment n style => exact same_moments_iff
      | float y style => cases m <;> cases y <;> exact iff_of_false nofun nofun
      | _ => cases m <;> exact iff_of_false nofun nofun

end Scalar

/-! ## Lists and mappings -/

/-- Where every item of a list has a partner in another list of that length, and no two have one in common, every item
of that is a partner. -/
theorem exists_partner {α β : Type} {R : α → β → Prop} {xs : List α} {ys : List β} (hlength : xs.length = ys.length)
    (htotal : ∀ x ∈ xs, ∃ y ∈ ys, R x y) (happart : xs.Pairwise fun x x' => ∀ y ∈ ys, R x y → ¬R x' y) :
    ∀ y ∈ ys, ∃ x ∈ xs, R x y := by
  induction xs generalizing ys with
  | nil =>
    obtain rfl := List.eq_nil_of_length_eq_zero hlength.symm
    nofun
  | cons x xs ih =>
    obtain ⟨⟨partner, hmem, hpartner⟩, htotal⟩ := List.forall_mem_cons.mp htotal
    obtain ⟨hx, happart⟩ := List.pairwise_cons.mp happart
    obtain ⟨before, after, rfl⟩ := List.append_of_mem hmem
    -- the partners of the other items are among the other items
    have hrest : ∀ x' ∈ xs, ∃ y ∈ before ++ after, R x' y := by
      intro x' hx'
      obtain ⟨y, hy, hR⟩ := htotal x' hx'
      have hne : y ≠ partner := by
        rintro rfl
        exact hx x' hx' y hmem hpartner hR
      refine ⟨y, ?_, hR⟩
      simpa [hne] using hy
    have hlength : xs.length = (before ++ after).length := by
      simp only [List.length_cons, List.length_append] at hlength ⊢
      omega
    have hsubset : ∀ y ∈ before ++ after, y ∈ before ++ partner :: after := by
      intro y hy
      rcases List.mem_append.mp hy with hy | hy <;> simp [hy]
    have hfound := ih hlength hrest (happart.imp fun h y hy => h y (hsubset y hy))
    intro y hy
    rcases List.mem_append.mp hy with hy | hy
    · obtain ⟨x', hx', hR⟩ := hfound y (List.mem_append_left _ hy)
      exact ⟨x', List.mem_cons_of_mem _ hx', hR⟩
    · rcases List.mem_cons.mp hy with rfl | hy
      · exact ⟨x, List.mem_cons_self, hpartner⟩
      · obtain ⟨x', hx', hR⟩ := hfound y (List.mem_append_right _ hy)
        exact ⟨x', List.mem_cons_of_mem _ hx', hR⟩

namespace Value

def SameEntry (e e' : Value × Value) : Prop :=
  e.1.same e'.1 = true ∧ e.2.same e'.2 = true

theorem sameEntries_iff {fs gs : Fields} :
    sameEntries fs gs = true ↔ ∀ e ∈ fs, ∃ e' ∈ gs, SameEntry e e' := by
  induction fs with
  | nil => simp [sameEntries]
  | cons e fs ih =>
    obtain ⟨k, v⟩ := e
    rw [sameEntries, Bool.and_eq_true, ih, List.forall_mem_cons, List.any_eq_true]
    simp only [Bool.and_eq_true, SameEntry]

theorem same_map_iff {fs gs : Fields} {mark mark' : Option Mark} : (map fs mark).same (map gs mark') = true ↔
    fs.length = gs.length ∧ ∀ e ∈ fs, ∃ e' ∈ gs, SameEntry e e' := by
  rw [same, Bool.and_eq_true, beq_iff_eq, sameEntries_iff]

theorem sameItems_iff {xs ys : List Value} :
    sameItems xs ys = true ↔ List.Forall₂ (fun x y => x.same y = true) xs ys := by
  induction xs generalizing ys with
  | nil => cases ys <;> simp [sameItems]
  | cons x xs ih =>
    cases ys with
    | nil => simp [sameItems]
    | cons y ys => rw [sameItems, Bool.and_eq_true, ih, List.forall₂_cons]

/-- A value without what is not a number, in which doubles have their one form and the keys of a mapping differ. -/
inductive Comparable : Value → Prop
  | scalar {s : Scalar} {mark : Option Mark} (h : s.Comparable) : Comparable (.scalar s mark)
  | list {items : List Value} {mark : Option Mark} (h : ∀ x ∈ items, Comparable x) : Comparable (.list items mark)
  | map {fs : Fields} {mark : Option Mark} (keys : ∀ e ∈ fs, Comparable e.1) (values : ∀ e ∈ fs, Comparable e.2)
      (distinct : fs.Pairwise fun e e' => e.1.same e'.1 = false) : Comparable (.map fs mark)

/-- A value to which equality is what it should be. -/
structure Lawful (v : Value) : Prop where
  refl : v.same v = true
  symm : ∀ w, w.Comparable → v.same w = w.same v
  congr : ∀ w u, w.Comparable → u.Comparable → v.same w = true → v.same u = w.same u

theorem lawful_scalar {s : Scalar} {mark : Option Mark} (h : s.Comparable) : Lawful (.scalar s mark) where
  refl := by rw [same, Scalar.same_iff h h]
  symm w hw := by
    cases hw with
    | scalar ht => rw [same, same, Bool.eq_iff_iff, Scalar.same_iff h ht, Scalar.same_iff ht h, eq_comm]
    | list _ => rfl
    | map _ _ _ => rfl
  congr w u hw hu heq := by
    cases hw with
    | scalar ht =>
      rw [same, Scalar.same_iff h ht] at heq
      cases hu with
      | scalar hs => rw [same, same, Bool.eq_iff_iff, Scalar.same_iff h hs, Scalar.same_iff ht hs, heq]
      | list _ => rfl
      | map _ _ _ => rfl
    | list _ => cases heq
    | map _ _ _ => cases heq

/-! ### Lists -/

variable {xs ys zs : List Value} {fs gs hs : Fields} {e e' e'' : Value × Value}

theorem sameItems_symm (hxs : ∀ x ∈ xs, Lawful x) (hys : ∀ y ∈ ys, Comparable y) :
    sameItems xs ys = sameItems ys xs := by
  induction xs generalizing ys with
  | nil => cases ys <;> rfl
  | cons x xs ih =>
    obtain ⟨hx, hxs⟩ := List.forall_mem_cons.mp hxs
    cases ys with
    | nil => rfl
    | cons y ys =>
      obtain ⟨hy, hys⟩ := List.forall_mem_cons.mp hys
      rw [sameItems, sameItems, hx.symm y hy, ih hxs hys]

theorem sameItems_congr (hxs : ∀ x ∈ xs, Lawful x) (hys : ∀ y ∈ ys, Comparable y) (hzs : ∀ z ∈ zs, Comparable z)
    (h : sameItems xs ys = true) : sameItems xs zs = sameItems ys zs := by
  induction xs generalizing ys zs with
  | nil =>
    cases ys with
    | nil => rfl
    | cons y ys => cases h
  | cons x xs ih =>
    obtain ⟨hx, hxs⟩ := List.forall_mem_cons.mp hxs
    cases ys with
    | nil => cases h
    | cons y ys =>
      obtain ⟨hy, hys⟩ := List.forall_mem_cons.mp hys
      rw [sameItems, Bool.and_eq_true] at h
      cases zs with
      | nil => rfl
      | cons z zs =>
        obtain ⟨hz, hzs⟩ := List.forall_mem_cons.mp hzs
        rw [sameItems, sameItems, hx.congr y z hy hz h.1, ih hxs hys hzs h.2]

theorem lawful_list {mark : Option Mark} (h : ∀ x ∈ xs, Lawful x) : Lawful (.list xs mark) where
  refl := by
    rw [same, sameItems_iff, List.forall₂_same]
    exact fun x hx => (h x hx).refl
  symm w hw := by
    cases hw with
    | list hys => rw [same, same, sameItems_symm h hys]
    | scalar _ => rfl
    | map _ _ _ => rfl
  congr w u hw hu heq := by
    cases hw with
    | list hys =>
      cases hu with
      | list hzs => exact sameItems_congr h hys hzs heq
      | scalar _ => rfl
      | map _ _ _ => rfl
    | scalar _ => cases heq
    | map _ _ _ => cases heq

/-! ### Mappings -/

def ComparableEntry (e : Value × Value) : Prop :=
  e.1.Comparable ∧ e.2.Comparable

/-- An entry to whose parts equality is what it should be. -/
def LawfulEntry (e : Value × Value) : Prop :=
  Lawful e.1 ∧ Lawful e.2

theorem sameEntry_symm (he : LawfulEntry e) (he' : ComparableEntry e') : SameEntry e e' ↔ SameEntry e' e := by
  rw [SameEntry, SameEntry, he.1.symm _ he'.1, he.2.symm _ he'.2]

theorem sameEntry_congr (he : LawfulEntry e) (he' : ComparableEntry e') (he'' : ComparableEntry e'')
    (h : SameEntry e e') : SameEntry e e'' ↔ SameEntry e' e'' := by
  rw [SameEntry, SameEntry, he.1.congr _ _ he'.1 he''.1 h.1, he.2.congr _ _ he'.2 he''.2 h.2]

theorem exists_sameEntry_of_left (hfs : ∀ e ∈ fs, LawfulEntry e) (hfs' : ∀ e ∈ fs, ComparableEntry e)
    (hgs : ∀ e ∈ gs, ComparableEntry e) (hdistinct : fs.Pairwise fun e e' => e.1.same e'.1 = false)
    (hlength : fs.length = gs.length) (htotal : ∀ e ∈ fs, ∃ e' ∈ gs, SameEntry e e') :
    ∀ e' ∈ gs, ∃ e ∈ fs, SameEntry e e' := by
  refine exists_partner hlength htotal (hdistinct.imp_of_mem fun {e₁ e₂} he₁ he₂ hne e' he' h₁ h₂ => ?_)
  rw [(hfs e₁ he₁).1.congr _ _ (hgs e' he').1 (hfs' e₂ he₂).1 h₁.1, ← (hfs e₂ he₂).1.symm _ (hgs e' he').1, h₂.1] at hne
  cases hne

theorem exists_sameEntry_of_right (hfs : ∀ e ∈ fs, LawfulEntry e) (hgs : ∀ e ∈ gs, ComparableEntry e)
    (hdistinct : gs.Pairwise fun e e' => e.1.same e'.1 = false) (hlength : gs.length = fs.length)
    (htotal : ∀ e' ∈ gs, ∃ e ∈ fs, SameEntry e e') : ∀ e ∈ fs, ∃ e' ∈ gs, SameEntry e e' := by
  refine exists_partner hlength htotal (hdistinct.imp_of_mem fun {e₁ e₂} he₁ he₂ hne e he h₁ h₂ => ?_)
  rw [← (hfs e he).1.congr _ _ (hgs e₁ he₁).1 (hgs e₂ he₂).1 h₁.1, h₂.1] at hne
  cases hne

theorem lawful_map {mark : Option Mark} (h : ∀ e ∈ fs, LawfulEntry e) (hfs : ∀ e ∈ fs, ComparableEntry e)
    (hdistinct : fs.Pairwise fun e e' => e.1.same e'.1 = false) : Lawful (.map fs mark) where
  refl := by
    rw [same_map_iff]
    exact ⟨rfl, fun e he => ⟨e, he, (h e he).1.refl, (h e he).2.refl⟩⟩
  symm w hw := by
    cases hw with
    | map keys values distinct =>
      rename_i gs mark'
      have hgs : ∀ e ∈ gs, ComparableEntry e := fun e he => ⟨keys e he, values e he⟩
      rw [Bool.eq_iff_iff, same_map_iff, same_map_iff]
      constructor
      · rintro ⟨hlength, htotal⟩
        refine ⟨hlength.symm, fun e' he' => ?_⟩
        obtain ⟨e, he, hsame⟩ := exists_sameEntry_of_left h hfs hgs hdistinct hlength htotal e' he'
        exact ⟨e, he, (sameEntry_symm (h e he) (hgs e' he')).mp hsame⟩
      · rintro ⟨hlength, htotal⟩
        refine ⟨hlength.symm, exists_sameEntry_of_right h hgs distinct hlength fun e' he' => ?_⟩
        obtain ⟨e, he, hsame⟩ := htotal e' he'
        exact ⟨e, he, (sameEntry_symm (h e he) (hgs e' he')).mpr hsame⟩
    | scalar _ => rfl
    | list _ => rfl
  congr w u hw hu heq := by
    cases hw with
    | map keys values distinct =>
      rename_i gs mark'
      have hgs : ∀ e ∈ gs, ComparableEntry e := fun e he => ⟨keys e he, values e he⟩
      obtain ⟨hlength, htotal⟩ := same_map_iff.mp heq
      cases hu with
      | map keys values distinct =>
        rename_i hs mark''
        have hhs : ∀ e ∈ hs, ComparableEntry e := fun e he => ⟨keys e he, values e he⟩
        rw [Bool.eq_iff_iff, same_map_iff, same_map_iff, hlength]
        refine and_congr_right fun _ => ⟨fun hother e' he' => ?_, fun hother e he => ?_⟩
        · obtain ⟨e, he, hsame⟩ := exists_sameEntry_of_left h hfs hgs hdistinct hlength htotal e' he'
          obtain ⟨e'', he'', hsame'⟩ := hother e he
          exact ⟨e'', he'', (sameEntry_congr (h e he) (hgs e' he') (hhs e'' he'') hsame).mp hsame'⟩
        · obtain ⟨e', he', hsame⟩ := htotal e he
          obtain ⟨e'', he'', hsame'⟩ := hother e' he'
          exact ⟨e'', he'', (sameEntry_congr (h e he) (hgs e' he') (hhs e'' he'') hsame).mpr hsame'⟩
      | scalar _ => rfl
      | list _ => rfl
    | scalar _ => cases heq
    | list _ => cases heq

/-! ### All values -/

/-- Equality of comparable values is an equivalence. -/
theorem Comparable.lawful {v : Value} (h : v.Comparable) : v.Lawful := by
  induction h with
  | scalar h => exact lawful_scalar h
  | list _ ih => exact lawful_list ih
  | map keys values distinct ihkeys ihvalues =>
    exact lawful_map (fun e he => ⟨ihkeys e he, ihvalues e he⟩) (fun e he => ⟨keys e he, values e he⟩) distinct

end Value

end KubeManifest
