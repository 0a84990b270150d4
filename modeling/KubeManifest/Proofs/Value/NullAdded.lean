import KubeManifest.Proofs.Value.Paths

/-!
# Values with one more entry that is null

* `Fields.AddsNull` : entries with one more that is null, under a name that they do not have;
* `Fields.AddsNull.get` : look-up does not tell them apart, unless it asks whether there is an entry;
* `Fields.Revalues` : entries with another value under a name that they have;
* `Value.AddsNull` : values that differ by such an entry in the mapping at the end of a path;
* `Value.AddsNull.entries`, `Value.AddsNull.atKey`, `Value.AddsNull.atItem` : the parts of these.
-/

namespace KubeManifest

theorem Value.isText_ne {k : Value} {name other : String} (hk : k.isText name = true) (hne : other ≠ name) :
    k.isText other = false := by
  rw [isText_iff] at hk
  simpa [isText, hk] using hne.symm

namespace Fields

variable {fs gs : Fields} {name : String}

/-- Whether entries are others with one more that is null, under a name that these do not have. -/
def AddsNull (name : String) (fs gs : Fields) : Prop :=
  find? fs name = none ∧
    ∃ before after k, k.isText name = true ∧ fs = before ++ after ∧ gs = before ++ (k, .null) :: after

namespace AddsNull

theorem find?_self (h : AddsNull name fs gs) : find? gs name = some .null := by
  obtain ⟨hnone, before, after, k, hk, rfl, rfl⟩ := h
  rw [find?_append, Option.or_eq_none_iff] at hnone
  rw [find?_append, hnone.1, Option.none_or, find?_cons, if_pos hk]

theorem find?_ne (h : AddsNull name fs gs) {other : String} (hne : other ≠ name) : find? gs other = find? fs other := by
  obtain ⟨_, before, after, k, hk, rfl, rfl⟩ := h
  rw [find?_append, find?_append, find?_cons, Value.isText_ne hk hne, if_neg Bool.false_ne_true]

/-- What is looked up is null, be there an entry that is null or none. -/
theorem get (h : AddsNull name fs gs) (other : String) : Fields.get gs other = Fields.get fs other := by
  by_cases hother : other = name
  · rw [hother, Fields.get, Fields.get, h.find?_self, h.1]
    rfl
  · rw [Fields.get, Fields.get, h.find?_ne hother]

theorem getD_find? (h : AddsNull name fs gs) (other : String) (v : Value) :
    (find? gs other).getD v = if name = other then .null else (find? fs other).getD v := by
  split
  · rename_i heq
    rw [← heq, h.find?_self]
    rfl
  · rename_i hne
    rw [h.find?_ne (Ne.symm hne)]

theorem erase (h : AddsNull name fs gs) : Fields.erase gs name = Fields.erase fs name := by
  obtain ⟨_, before, after, k, hk, rfl, rfl⟩ := h
  unfold Fields.erase
  rw [List.filter_append, List.filter_append, List.filter_cons_of_neg (by simp [hk])]

theorem ne_nil (h : AddsNull name fs gs) : gs ≠ [] := by
  obtain ⟨_, before, after, k, _, _, rfl⟩ := h
  simp

end AddsNull

/-- Whether entries are others with another value under a name that these have. -/
structure Revalues (name : String) (R : Value → Value → Prop) (fs gs : Fields) : Prop where
  found : ∃ v w, find? fs name = some v ∧ find? gs name = some w ∧ R v w
  others : ∀ other ≠ name, find? gs other = find? fs other

namespace Revalues

variable {R : Value → Value → Prop}

theorem get_self (h : Revalues name R fs gs) : R (Fields.get fs name) (Fields.get gs name) := by
  obtain ⟨v, w, hv, hw, hR⟩ := h.found
  rw [get_of_find? hv, get_of_find? hw]
  exact hR

theorem get_ne (h : Revalues name R fs gs) (other : String) (hne : other ≠ name := by decide) :
    Fields.get gs other = Fields.get fs other := by
  rw [Fields.get, Fields.get, h.others other hne]

theorem of_append {before after : Fields} {k v w : Value} (hk : k.isText name = true)
    (hbefore : find? before name = none) (hR : R v w) :
    Revalues name R (before ++ (k, v) :: after) (before ++ (k, w) :: after) where
  found := by
    refine ⟨v, w, ?_, ?_, hR⟩ <;> rw [find?_append, hbefore, Option.none_or, find?_cons, if_pos hk]
  others other hne := by
    rw [find?_append, find?_append, find?_cons, find?_cons, Value.isText_ne hk hne]
    rfl

end Revalues

end Fields

namespace Value

variable {v w : Value} {fs gs : Fields} {name other : String} {path : List Step} {i : Nat}

/-- Whether a value is another one with one more entry that is null, in the mapping at the end of a path. -/
inductive AddsNull (name : String) : List Step → Value → Value → Prop
  | here {fs gs : Fields} {mark : Option Mark} (h : Fields.AddsNull name fs gs) :
      AddsNull name [] (.map fs mark) (.map gs mark)
  | key {before after : Fields} {k v w : Value} {other : String} {path : List Step} {mark : Option Mark}
      (hk : k.isText other = true) (hfirst : Fields.find? before other = none) (h : AddsNull name path v w) :
      AddsNull name (.key other :: path)
        (.map (before ++ (k, v) :: after) mark) (.map (before ++ (k, w) :: after) mark)
  | item {before after : List Value} {v w : Value} {path : List Step} {mark : Option Mark}
      (h : AddsNull name path v w) : AddsNull name (.item before.length :: path)
        (.list (before ++ v :: after) mark) (.list (before ++ w :: after) mark)

namespace AddsNull

theorem entries (h : AddsNull name [] v w) :
    ∃ fs gs mark, v = .map fs mark ∧ w = .map gs mark ∧ Fields.AddsNull name fs gs := by
  cases h with
  | here h => exact ⟨_, _, _, rfl, rfl, h⟩

theorem atKey (h : AddsNull name (.key other :: path) v w) :
    ∃ fs gs mark, v = .map fs mark ∧ w = .map gs mark ∧ Fields.Revalues other (AddsNull name path) fs gs := by
  cases h with
  | key hk hfirst h => exact ⟨_, _, _, rfl, rfl, .of_append hk hfirst h⟩

theorem entries_ofFields (h : AddsNull name [] (.ofFields fs) (.ofFields gs)) : Fields.AddsNull name fs gs := by
  cases h with
  | here h => exact h

theorem atKey_ofFields (h : AddsNull name (.key other :: path) (.ofFields fs) (.ofFields gs)) :
    Fields.Revalues other (AddsNull name path) fs gs := by
  cases h with
  | key hk hfirst h => exact .of_append hk hfirst h

theorem atItem (h : AddsNull name (.item i :: path) v w) : ∃ before after x y mark,
    v = .list (before ++ x :: after) mark ∧ w = .list (before ++ y :: after) mark ∧ AddsNull name path x y := by
  cases h with
  | item h => exact ⟨_, _, _, _, _, rfl, rfl, h⟩

end AddsNull

end Value

end KubeManifest
