import KubeManifest.Text.Cut
import Mathlib.Data.List.Basic

/-!
# Texts that are cut

* `Text.cutFirst?_eq_some_iff`, `Text.cutFirst?_eq_none_iff` : a text is cut at the first place of a character, if it
  has one;
* `Text.cutLast?_eq_none_iff`, `Text.cutLast?_append`, `Text.append_cons_inj`, `Text.suffix_of_append_cons` : the last
  place of a character;
* `Text.dropFinalBreak_append` : a line feed at the end.
-/

namespace KubeManifest.Text

variable {cs before after before' after' : List Char} {c : Char}

/-! ## First places -/

theorem cutFirst?_append (h : c ∉ before) : cutFirst? c (before ++ c :: after) = some (before, after) := by
  induction before with
  | nil => simp [cutFirst?]
  | cons d before ih =>
    obtain ⟨hd, hbefore⟩ := not_or.mp (mt List.mem_cons.mpr h)
    simp [cutFirst?, ih hbefore, Ne.symm hd]

theorem cutFirst?_eq_some_iff : cutFirst? c cs = some (before, after) ↔ cs = before ++ c :: after ∧ c ∉ before := by
  refine ⟨cutFirst?_eq_some, ?_⟩
  rintro ⟨rfl, h⟩
  exact cutFirst?_append h

theorem cutFirst?_eq_none_iff : cutFirst? c cs = none ↔ c ∉ cs := by
  constructor
  · intro h hmem
    obtain ⟨before, after, rfl, hbefore⟩ := List.eq_append_cons_of_mem hmem
    rw [cutFirst?_append hbefore] at h
    cases h
  · intro h
    cases hcut : cutFirst? c cs with
    | none => rfl
    | some p =>
      obtain ⟨rfl, -⟩ := cutFirst?_eq_some hcut
      simp at h

/-! ## Last places -/

theorem cutLast?_eq_none_iff : cutLast? c cs = none ↔ c ∉ cs := by
  refine ⟨cutLast?_eq_none, fun h => ?_⟩
  cases hcut : cutLast? c cs with
  | none => rfl
  | some p =>
    rw [(cutLast?_eq_some hcut).1] at h
    simp at h

theorem cutLast?_append (h : c ∉ after) : cutLast? c (before ++ c :: after) = some (before, after) := by
  induction before with
  | nil => simp [cutLast?, cutLast?_eq_none_iff.mpr h]
  | cons d before ih => simp [cutLast?, ih]

/-- The last place of a character is one place. -/
theorem append_cons_inj (h : before ++ c :: after = before' ++ c :: after') (ha : c ∉ after) (ha' : c ∉ after') :
    before = before' ∧ after = after' := by
  have hcut : cutLast? c (before ++ c :: after) = some (before, after) := cutLast?_append ha
  rw [h, cutLast?_append ha', Option.some.injEq, Prod.mk.injEq] at hcut
  exact ⟨hcut.1.symm, hcut.2.symm⟩

/-- What stands behind the last place of a character stands at the end of what stands behind any other. -/
theorem suffix_of_append_cons (h : before ++ c :: after = before' ++ c :: after') (hafter : c ∉ after) :
    after <:+ after' := by
  rcases List.append_eq_append_iff.mp h with ⟨as, -, has⟩ | ⟨as, -, has⟩
  · cases as with
    | nil => exact (List.cons.inj has).2 ▸ List.suffix_refl _
    | cons a as =>
      obtain ⟨-, rfl⟩ := List.cons.inj has
      simp at hafter
  · cases as with
    | nil => exact (List.cons.inj has).2 ▸ List.suffix_refl _
    | cons a as =>
      obtain ⟨-, rfl⟩ := List.cons.inj has
      exact (List.suffix_cons c after).trans (List.suffix_append as _)

/-! ## Line feeds at the end -/

theorem exists_eq_dropFinalBreak_append (cs : List Char) :
    ∃ brk, (brk = [] ∨ brk = ['\n']) ∧ cs = dropFinalBreak cs ++ brk := by
  unfold dropFinalBreak
  split
  · rename_i h
    exact ⟨['\n'], .inr rfl, (List.dropLast_append_getLast? _ (by simpa using h)).symm⟩
  · exact ⟨[], .inl rfl, by simp⟩

theorem dropFinalBreak_append {brk : List Char} (hbrk : brk = [] ∨ brk = ['\n']) (h : cs.getLast? ≠ some '\n') :
    dropFinalBreak (cs ++ brk) = cs := by
  obtain rfl | rfl := hbrk
  · simp [dropFinalBreak, h]
  · simp [dropFinalBreak]

end KubeManifest.Text
