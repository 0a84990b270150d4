import KubeManifest.Proofs.Value.Order
import KubeManifest.Proofs.Value.Same

/-!
# Values that are equal to something

What is not a number differs from itself, so equality by value is no equivalence on all values. But it never holds of a
value with such a part: among values that are equal to something it is one.

* `Value.Proper` : values in which doubles have their one form and the keys of a mapping differ;
* `Value.comparable_of_same` : such values are comparable if they are equal;
* `Value.same_trans` : equality of such values is transitive;
* `Value.rel_find?` : equal mappings hold equal values under every name.
-/

namespace KubeManifest

/-- Whether a scalar is a double in its one form, or none at all. What is not a number counts, too. -/
def Scalar.Proper : Scalar → Prop
  | float x _ => x = .notANumber ∨ x.Canonical
  | _ => True

/-- A scalar that is equal to something is no double without a value. -/
theorem Scalar.comparable_of_same {a b : Scalar} (ha : a.Proper) (hb : b.Proper) (h : a.same b = true) :
    a.Comparable ∧ b.Comparable := by
  have hnan : ∀ style (c : Scalar),
      same (.float .notANumber style) c = false ∧ same c (.float .notANumber style) = false := by
    intro style c
    cases c with
    | float x style => cases x <;> exact ⟨rfl, rfl⟩
    | _ => exact ⟨rfl, rfl⟩
  have hcomparable : ∀ c : Scalar, c.Proper → (∀ style, c ≠ .float .notANumber style) → c.Comparable := by
    intro c hc hne
    cases c with
    | float x style => exact hc.resolve_left fun hx => hne style (by rw [hx])
    | _ => trivial
  refine ⟨hcomparable a ha ?_, hcomparable b hb ?_⟩
  · rintro style rfl
    rw [(hnan style b).1] at h
    cases h
  · rintro style rfl
    rw [(hnan style a).2] at h
    cases h

namespace Value

/-- A value in which doubles that are numbers have their one form and the keys of a mapping differ. -/
inductive Proper : Value → Prop
  | scalar {s : Scalar} {mark : Option Mark} (h : s.Proper) : Proper (.scalar s mark)
  | list {items : List Value} {mark : Option Mark} (h : ∀ x ∈ items, Proper x) : Proper (.list items mark)
  | map {fs : Fields} {mark : Option Mark} (keys : ∀ e ∈ fs, Proper e.1) (values : ∀ e ∈ fs, Proper e.2)
      (distinct : fs.Pairwise fun e e' => e.1.same e'.1 = false) : Proper (.map fs mark)

variable {u v w : Value} {xs ys : List Value} {fs gs : Fields} {mark mark' : Option Mark}

/-! ## Equal values -/

theorem comparable_of_sameItems
    (h : ∀ x ∈ xs, ∀ y, y.Proper → x.same y = true → x.Comparable ∧ y.Comparable) (hys : ∀ y ∈ ys, y.Proper)
    (hsame : sameItems xs ys = true) : (∀ x ∈ xs, x.Comparable) ∧ ∀ y ∈ ys, y.Comparable := by
  induction xs generalizing ys with
  | nil =>
    cases ys with
    | nil => exact ⟨nofun, nofun⟩
    | cons y ys => cases hsame
  | cons x xs ih =>
    cases ys with
    | nil => cases hsame
    | cons y ys =>
      obtain ⟨hx, hxs⟩ := List.forall_mem_cons.mp h
      obtain ⟨hy, hys⟩ := List.forall_mem_cons.mp hys
      rw [sameItems, Bool.and_eq_true] at hsame
      obtain ⟨hcx, hcy⟩ := hx y hy hsame.1
      obtain ⟨hcxs, hcys⟩ := ih hxs hys hsame.2
      exact ⟨List.forall_mem_cons.mpr ⟨hcx, hcxs⟩, List.forall_mem_cons.mpr ⟨hcy, hcys⟩⟩

theorem comparable_of_sameEntries
    (hkeys : ∀ e ∈ fs, ∀ w, w.Proper → e.1.same w = true → e.1.Comparable ∧ w.Comparable)
    (hvalues : ∀ e ∈ fs, ∀ w, w.Proper → e.2.same w = true → e.2.Comparable ∧ w.Comparable)
    (hdistinct : fs.Pairwise fun e e' => e.1.same e'.1 = false) (hgs : Proper (.ofFields gs))
    (hlength : fs.length = gs.length) (htotal : ∀ e ∈ fs, ∃ e' ∈ gs, SameEntry e e') :
    (∀ e ∈ fs, ComparableEntry e) ∧ ∀ e' ∈ gs, ComparableEntry e' := by
  cases hgs with
  | map keys values _ =>
    have hpair : ∀ e ∈ fs, ∀ e' ∈ gs, SameEntry e e' → ComparableEntry e ∧ ComparableEntry e' := by
      intro e he e' he' hsame
      obtain ⟨hk, hk'⟩ := hkeys e he e'.1 (keys e' he') hsame.1
      obtain ⟨hv, hv'⟩ := hvalues e he e'.2 (values e' he') hsame.2
      exact ⟨⟨hk, hv⟩, hk', hv'⟩
    have hfs : ∀ e ∈ fs, ComparableEntry e := by
      intro e he
      obtain ⟨e', he', hsame⟩ := htotal e he
      exact (hpair e he e' he' hsame).1
    refine ⟨hfs, fun e' he' => ?_⟩
    -- no two entries have a partner in common, so that every entry is the partner of one
    obtain ⟨e, he, hsame⟩ := exists_partner hlength htotal
      (hdistinct.imp_of_mem fun {e₁ e₂} he₁ he₂ hne e' he' h₁ h₂ => by
        have hk := (hpair e₁ he₁ e' he' h₁).2.1
        rw [(hfs e₁ he₁).1.lawful.congr _ _ hk (hfs e₂ he₂).1 h₁.1, ← (hfs e₂ he₂).1.lawful.symm _ hk, h₂.1] at hne
        cases hne) e' he'
    exact (hpair e he e' he' hsame).2

/-- Values that are equal have no part that is not a number. -/
theorem comparable_of_same (hv : v.Proper) (hw : w.Proper) (h : v.same w = true) : v.Comparable ∧ w.Comparable := by
  induction hv generalizing w with
  | scalar ha =>
    cases hw with
    | scalar hb =>
      obtain ⟨ha, hb⟩ := Scalar.comparable_of_same ha hb h
      exact ⟨.scalar ha, .scalar hb⟩
    | list _ => cases h
    | map _ _ _ => cases h
  | list _ ih =>
    cases hw with
    | list hys =>
      obtain ⟨hxs, hys⟩ := comparable_of_sameItems (fun x hx y hy => ih x hx hy) hys h
      exact ⟨.list hxs, .list hys⟩
    | scalar _ => cases h
    | map _ _ _ => cases h
  | map _ _ hdistinct ihkeys ihvalues =>
    cases hw with
    | map keys values distinct =>
      obtain ⟨hlength, htotal⟩ := same_map_iff.mp h
      obtain ⟨hfs, hgs⟩ := comparable_of_sameEntries (fun e he w hw => ihkeys e he hw)
        (fun e he w hw => ihvalues e he hw) hdistinct (.map keys values distinct) hlength htotal
      exact ⟨.map (fun e he => (hfs e he).1) (fun e he => (hfs e he).2) hdistinct,
        .map (fun e he => (hgs e he).1) (fun e he => (hgs e he).2) distinct⟩
    | scalar _ => cases h
    | list _ => cases h

theorem same_trans (hu : u.Proper) (hv : v.Proper) (hw : w.Proper) (h : u.same v = true) (h' : v.same w = true) :
    u.same w = true := by
  obtain ⟨hu, hv'⟩ := comparable_of_same hu hv h
  rw [hu.lawful.congr _ _ hv' (comparable_of_same hv hw h').2 h]
  exact h'

/-! ## What is found in equal mappings -/

theorem text?_eq_of_same (h : v.same w = true) : v.text? = w.text? := by
  cases v with
  | scalar s mark =>
    cases w with
    | scalar t mark' =>
      cases s <;> cases t <;> simp_all [same, Scalar.same, Scalar.whole?, text?]
    | _ => cases h
  | list items mark =>
    cases w with
    | list items' mark' => rfl
    | _ => cases h
  | map fs mark =>
    cases w with
    | map gs mark' => rfl
    | _ => cases h

theorem isText_eq_of_same (h : v.same w = true) (name : String) : v.isText name = w.isText name := by
  rw [isText, isText, text?_eq_of_same h]

theorem same_ofString (v : Value) (name : String) : v.same (.ofString name) = v.isText name := by
  cases v with
  | scalar s mark =>
    cases s with
    | text s style => simp [isText, text?, same, Scalar.same, Scalar.whole?]
    | float x style => cases x <;> rfl
    | moment m style => cases m <;> rfl
    | _ => rfl
  | _ => rfl

theorem Comparable.distinct (h : Comparable (.map fs mark)) : Fields.Distinct fs := by
  cases h with
  | map keys _ distinct =>
    rw [Fields.Distinct, List.Nodup, List.pairwise_filterMap]
    refine distinct.imp fun {e e'} hne s hs s' hs' => ?_
    rintro rfl
    obtain ⟨style, mark, hk⟩ := text?_eq_some_iff.mp hs
    obtain ⟨style', mark', hk'⟩ := text?_eq_some_iff.mp hs'
    simp [hk, hk', same, Scalar.same, Scalar.whole?] at hne

theorem exists_find?_of_same (hgs : Comparable (.map gs mark')) (h : (Value.map fs mark).same (.map gs mark') = true)
    {name : String} (hv : Fields.find? fs name = some v) : ∃ w, Fields.find? gs name = some w ∧ v.same w = true := by
  obtain ⟨k, hmem, hk⟩ := Fields.mem_of_find? hv
  obtain ⟨e', hmem', hkey, hvalue⟩ := (same_map_iff.mp h).2 (k, v) hmem
  rw [isText_eq_of_same hkey] at hk
  exact ⟨e'.2, (Fields.find?_eq_some_iff hgs.distinct).mpr ⟨e'.1, hmem', hk⟩, hvalue⟩

/-- Equal mappings hold equal values under every name. -/
theorem rel_find? (hfs : Proper (.map fs mark)) (hgs : Proper (.map gs mark'))
    (h : (Value.map fs mark).same (.map gs mark') = true) (name : String) :
    Option.Rel (fun v w => v.same w = true) (Fields.find? fs name) (Fields.find? gs name) := by
  obtain ⟨hfs, hgs⟩ := comparable_of_same hfs hgs h
  cases hv : Fields.find? fs name with
  | some v =>
    obtain ⟨w, hw, hsame⟩ := exists_find?_of_same hgs h hv
    rw [hw]
    exact .some hsame
  | none =>
    cases hw : Fields.find? gs name with
    | some w =>
      rw [hfs.lawful.symm _ hgs] at h
      obtain ⟨v, hv', _⟩ := exists_find?_of_same hfs h hw
      rw [hv] at hv'
      cases hv'
    | none => exact .none

end Value

end KubeManifest
