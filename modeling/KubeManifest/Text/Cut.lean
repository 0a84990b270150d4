/-!
# Cutting texts

* `Text.cutFirst?`, `Text.cutLast?` : the texts before and after the first or last place of a character;
* `Text.dropFinalBreak` : a text without one line feed at its end;
* `Text.endsWith` : what a text ends with.

Both cuts put together again give the text.
-/

namespace KubeManifest.Text

/-- The texts before and after the first place of a character. -/
def cutFirst? (c : Char) : List Char → Option (List Char × List Char)
  | [] => none
  | d :: cs =>
    if d == c then some ([], cs) else (cutFirst? c cs).map fun (before, after) => (d :: before, after)

/-- The texts before and after the last place of a character. -/
def cutLast? (c : Char) : List Char → Option (List Char × List Char)
  | [] => none
  | d :: cs =>
    match cutLast? c cs with
    | some (before, after) => some (d :: before, after)
    | none => if d == c then some ([], cs) else none

/-- A text without one line feed at its end. -/
def dropFinalBreak (cs : List Char) : List Char :=
  if cs.getLast? == some '\n' then cs.dropLast else cs

def endsWith (s ending : String) : Bool :=
  ending.toList.isSuffixOf s.toList

theorem cutFirst?_eq_some {c : Char} {cs before after : List Char}
    (h : cutFirst? c cs = some (before, after)) : cs = before ++ c :: after ∧ c ∉ before := by
  induction cs generalizing before after with
  | nil => simp [cutFirst?] at h
  | cons d cs ih =>
    by_cases hd : d = c
    · subst hd
      simp [cutFirst?] at h
      obtain ⟨rfl, rfl⟩ := h
      simp
    · have hd' : (d == c) = false := by simpa using hd
      simp only [cutFirst?, hd', Bool.false_eq_true, if_false, Option.map_eq_some_iff] at h
      obtain ⟨⟨b, a⟩, hb, he⟩ := h
      simp only [Prod.mk.injEq] at he
      obtain ⟨rfl, rfl⟩ := he
      obtain ⟨rfl, hn⟩ := ih hb
      exact ⟨rfl, by simp [hn, Ne.symm hd]⟩

theorem cutLast?_eq_none {c : Char} {cs : List Char} (h : cutLast? c cs = none) : c ∉ cs := by
  induction cs with
  | nil => simp
  | cons d cs ih =>
    simp only [cutLast?] at h
    split at h
    · simp at h
    · rename_i hn
      split at h
      · simp at h
      · rename_i hd
        have hd : d ≠ c := by simpa using hd
        simp [ih hn, Ne.symm hd]

theorem cutLast?_eq_some {c : Char} {cs before after : List Char}
    (h : cutLast? c cs = some (before, after)) : cs = before ++ c :: after ∧ c ∉ after := by
  induction cs generalizing before after with
  | nil => simp [cutLast?] at h
  | cons d cs ih =>
    simp only [cutLast?] at h
    split at h
    · rename_i b a hb
      simp only [Option.some.injEq, Prod.mk.injEq] at h
      obtain ⟨rfl, rfl⟩ := h
      obtain ⟨rfl, hn⟩ := ih hb
      exact ⟨rfl, hn⟩
    · rename_i hn
      split at h
      · rename_i hd
        have hd : d = c := by simpa using hd
        simp only [Option.some.injEq, Prod.mk.injEq] at h
        obtain ⟨rfl, rfl⟩ := h
        exact ⟨by simp [hd], cutLast?_eq_none hn⟩
      · simp at h

end KubeManifest.Text
