import KubeManifest.Text.Words
import Mathlib.Data.List.Basic

/-!
# The grammar of commands

* `Text.Between`, `Text.Part`, `Text.Parts` : quoted texts, and the parts that words are put together from, with the
  letters that they stand for;
* `Text.Words` : the words of a command;
* `Text.shellWords?_eq_some_iff` : these are the words that are read;
* `Text.shellWords?_eq_none_iff` : a command is refused exactly if it is not put together from words.
-/

namespace KubeManifest.Text

variable {c quote : Char} {cs raw letters rest word : List Char} {ws : List String} {state : WordState}

/-! ## The grammar -/

/-- What stands between quotes, and the letters that it stands for. Between double quotes a backslash is written twice,
and one before the quote keeps it. -/
inductive Between (quote : Char) : List Char → List Char → Prop
  | nil : Between quote [] []
  | plain {c : Char} {raw letters : List Char} (hc : c ≠ quote) (hback : c = '\\' → quote ≠ '"')
      (h : Between quote raw letters) : Between quote (c :: raw) (c :: letters)
  | escaped {c : Char} {raw letters : List Char} (hquote : quote = '"') (hc : c = '\\' ∨ c = '"')
      (h : Between quote raw letters) : Between quote ('\\' :: c :: raw) (c :: letters)
  | kept {c : Char} {raw letters : List Char} (hquote : quote = '"') (hc : c ≠ '\\' ∧ c ≠ '"')
      (h : Between quote raw letters) : Between quote ('\\' :: c :: raw) ('\\' :: c :: letters)

def IsQuote (c : Char) : Prop :=
  c = '\'' ∨ c = '"'

/-- A part of a word, and the letters that it stands for: a plain letter, any letter behind a backslash, or a quoted
text. -/
inductive Part : List Char → List Char → Prop
  | plain {c : Char} (hgap : separatesWords c = false) (hback : c ≠ '\\') (hquote : ¬IsQuote c) : Part [c] [c]
  | escaped (c : Char) : Part ['\\', c] [c]
  | quoted {quote : Char} {raw letters : List Char} (hquote : IsQuote quote) (h : Between quote raw letters) :
      Part (quote :: raw ++ [quote]) letters

inductive Parts : List Char → List Char → Prop
  | nil : Parts [] []
  | cons {raw letters raw' letters' : List Char} (h : Part raw letters) (h' : Parts raw' letters') :
      Parts (raw ++ raw') (letters ++ letters')

/-- The words of a command. Each has a part at least, and something separates it from the next one. -/
inductive Words : List Char → List String → Prop
  | nil : Words [] []
  | gap {c : Char} {cs : List Char} {ws : List String} (hc : separatesWords c = true) (h : Words cs ws) :
      Words (c :: cs) ws
  | last {raw letters : List Char} (h : Parts raw letters) (hne : raw ≠ []) : Words raw [String.ofList letters]
  | word {raw letters : List Char} {c : Char} {cs : List Char} {ws : List String} (h : Parts raw letters)
      (hne : raw ≠ []) (hc : separatesWords c = true) (h' : Words cs ws) :
      Words (raw ++ c :: cs) (String.ofList letters :: ws)

/-! ## What is read from the grammar -/

theorem wordsFrom_between (h : Between quote raw letters) (word rest : List Char) :
    wordsFrom (.quoted quote) word (raw ++ quote :: rest) = wordsFrom .inside (letters.reverse ++ word) rest := by
  induction h generalizing word with
  | nil => simp [wordsFrom]
  | @plain c raw letters hc hback _ ih =>
    have hback : (c == '\\' && quote == '"') = false := by simpa using hback
    rw [List.cons_append, wordsFrom]
    simp [hc, hback, ih]
  | escaped hquote hc _ ih =>
    subst hquote
    rw [List.cons_append, List.cons_append, wordsFrom, wordsFrom]
    simp [hc, ih]
  | kept hquote hc _ ih =>
    subst hquote
    rw [List.cons_append, List.cons_append, wordsFrom, wordsFrom]
    simp [hc, ih]

theorem wordsFrom_part (h : Part raw letters) (hstate : state = .outside ∨ state = .inside) (word rest : List Char) :
    wordsFrom state word (raw ++ rest) = wordsFrom .inside (letters.reverse ++ word) rest := by
  cases h with
  | @plain c hgap hback hquote =>
    obtain ⟨hsingle, hdouble⟩ := not_or.mp hquote
    rcases hstate with rfl | rfl <;> simp [wordsFrom, hgap, hback, hsingle, hdouble]
  | escaped c => rcases hstate with rfl | rfl <;> simp [wordsFrom, separatesWords]
  | @quoted quote raw _ hquote h =>
    have hbetween := wordsFrom_between h word rest
    rw [List.cons_append, List.cons_append, List.append_assoc, List.singleton_append]
    rcases hquote with rfl | rfl <;> rcases hstate with rfl | rfl <;> simp [wordsFrom, separatesWords, hbetween]

theorem wordsFrom_parts (h : Parts raw letters) (word rest : List Char) :
    wordsFrom .inside word (raw ++ rest) = wordsFrom .inside (letters.reverse ++ word) rest := by
  induction h generalizing word with
  | nil => rfl
  | cons h _ ih => rw [List.append_assoc, wordsFrom_part h (.inr rfl), ih, List.reverse_append, List.append_assoc]

/-- A word begins with its first part, and goes on with the others. -/
theorem wordsFrom_word (h : Parts raw letters) (hne : raw ≠ []) (rest : List Char) :
    wordsFrom .outside [] (raw ++ rest) = wordsFrom .inside letters.reverse rest := by
  cases h with
  | nil => exact absurd rfl hne
  | cons h h' => rw [List.append_assoc, wordsFrom_part h (.inl rfl), wordsFrom_parts h', List.reverse_append,
      List.append_nil]

theorem wordsFrom_of_words (h : Words cs ws) : wordsFrom .outside [] cs = some ws := by
  induction h with
  | nil => rfl
  | gap hc _ ih => simp [wordsFrom, hc, ih]
  | @last raw letters h hne =>
    have hword := wordsFrom_word h hne []
    rw [List.append_nil] at hword
    simp [hword, wordsFrom]
  | word h hne hc _ ih =>
    rw [wordsFrom_word h hne]
    simp [wordsFrom, hc, ih]

/-! ## The grammar of what is read -/

/-- The words that follow within a word of which some letters are known. -/
def Within (word cs : List Char) (ws : List String) : Prop :=
  ∃ raw letters, Parts raw letters ∧
    ((cs = raw ∧ ws = [String.ofList (word.reverse ++ letters)]) ∨
      ∃ c rest ws', cs = raw ++ c :: rest ∧ separatesWords c = true ∧ Words rest ws' ∧
        ws = String.ofList (word.reverse ++ letters) :: ws')

/-- The words that follow a place of a command. -/
def Follows : WordState → List Char → List Char → List String → Prop
  | .outside, word, cs, ws => word = [] → Words cs ws
  | .inside, word, cs, ws => Within word cs ws
  | .quoted quote, word, cs, ws => ∃ raw letters rest, cs = raw ++ quote :: rest ∧ Between quote raw letters ∧
      Within (letters.reverse ++ word) rest ws
  | .escaped false, word, cs, ws => ∃ c rest, cs = c :: rest ∧ Within (c :: word) rest ws
  | .escaped true, word, cs, ws => ∃ raw letters rest, '\\' :: cs = raw ++ '"' :: rest ∧ Between '"' raw letters ∧
      Within (letters.reverse ++ word) rest ws

theorem Part.ne_nil (h : Part raw letters) : raw ≠ [] := by
  cases h <;> simp

theorem Within.part (h : Part raw letters) (h' : Within (letters.reverse ++ word) rest ws) :
    Within word (raw ++ rest) ws := by
  obtain ⟨raw', letters', hparts, hrest⟩ := h'
  refine ⟨raw ++ raw', letters ++ letters', .cons h hparts, ?_⟩
  rcases hrest with ⟨rfl, rfl⟩ | ⟨c, rest, ws', rfl, hc, hws, rfl⟩
  · exact .inl ⟨rfl, by simp⟩
  · exact .inr ⟨c, rest, ws', by simp, hc, hws, by simp⟩

/-- A word that begins with a part. -/
theorem Within.words (h : Part raw letters) (h' : Within letters.reverse rest ws) : Words (raw ++ rest) ws := by
  obtain ⟨raw', letters', hparts, hrest⟩ := h'
  have hne : raw ++ raw' ≠ [] := by simp [h.ne_nil]
  rw [List.reverse_reverse] at hrest
  rcases hrest with ⟨rfl, rfl⟩ | ⟨c, rest, ws', rfl, hc, hws, rfl⟩
  · exact .last (.cons h hparts) hne
  · rw [← List.append_assoc]
    exact .word (.cons h hparts) hne hc hws

/-- What begins with a letter that separates no words begins with a part of a word. -/
theorem exists_part (ih : ∀ {state word ws}, wordsFrom state word cs = some ws → Follows state word cs ws)
    (hstate : state = .outside ∨ state = .inside) (hgap : separatesWords c = false)
    (h : wordsFrom state word (c :: cs) = some ws) :
    ∃ raw letters rest, c :: cs = raw ++ rest ∧ Part raw letters ∧ Within (letters.reverse ++ word) rest ws := by
  by_cases hback : c = '\\'
  · subst hback
    have hnext : wordsFrom (.escaped false) word cs = some ws := by
      rcases hstate with rfl | rfl <;> simpa [wordsFrom, hgap] using h
    obtain ⟨d, rest, rfl, hwithin⟩ := ih hnext
    exact ⟨['\\', d], [d], rest, rfl, .escaped d, hwithin⟩
  · by_cases hquote : IsQuote c
    · have hnext : wordsFrom (.quoted c) word cs = some ws := by
        rcases hquote with rfl | rfl <;> rcases hstate with rfl | rfl <;> simpa [wordsFrom, hgap] using h
      obtain ⟨raw, letters, rest, rfl, hbetween, hwithin⟩ := ih hnext
      exact ⟨c :: raw ++ [c], letters, rest, by simp, .quoted hquote hbetween, hwithin⟩
    · obtain ⟨hsingle, hdouble⟩ := not_or.mp hquote
      have hnext : wordsFrom .inside (c :: word) cs = some ws := by
        rcases hstate with rfl | rfl <;> simpa [wordsFrom, hgap, hback, hsingle, hdouble] using h
      exact ⟨[c], [c], cs, rfl, .plain hgap hback hquote, ih hnext⟩

theorem follows_of_wordsFrom (h : wordsFrom state word cs = some ws) : Follows state word cs ws := by
  induction cs generalizing state word ws with
  | nil =>
    cases state with
    | outside =>
      obtain rfl := Option.some.inj h
      exact fun _ => .nil
    | inside =>
      obtain rfl := Option.some.inj h
      exact ⟨[], [], .nil, .inl ⟨rfl, by simp⟩⟩
    | quoted quote => cases h
    | escaped inDouble => cases h
  | cons c cs ih =>
    cases state with
    | outside =>
      rintro rfl
      cases hgap : separatesWords c with
      | true =>
        have hnext : wordsFrom .outside [] cs = some ws := by simpa [wordsFrom, hgap] using h
        exact .gap hgap (ih hnext rfl)
      | false =>
        obtain ⟨raw, letters, rest, heq, hpart, hwithin⟩ := exists_part ih (.inl rfl) hgap h
        rw [List.append_nil] at hwithin
        exact heq ▸ hwithin.words hpart
    | inside =>
      cases hgap : separatesWords c with
      | true =>
        have hnext : ∃ ws', wordsFrom .outside [] cs = some ws' ∧ String.ofList word.reverse :: ws' = ws := by
          simpa [wordsFrom, hgap] using h
        obtain ⟨ws', hws, rfl⟩ := hnext
        exact ⟨[], [], .nil, .inr ⟨c, cs, ws', rfl, hgap, ih hws rfl, by simp⟩⟩
      | false =>
        obtain ⟨raw, letters, rest, heq, hpart, hwithin⟩ := exists_part ih (.inr rfl) hgap h
        exact heq ▸ hwithin.part hpart
    | quoted quote =>
      rw [wordsFrom] at h
      split at h
      · rename_i hc
        obtain rfl : c = quote := by simpa using hc
        exact ⟨[], [], cs, rfl, .nil, ih h⟩
      · rename_i hc
        split at h
        · rename_i hback
          obtain ⟨rfl, rfl⟩ : c = '\\' ∧ quote = '"' := by simpa using hback
          exact ih h
        · rename_i hback
          obtain ⟨raw, letters, rest, rfl, hbetween, hwithin⟩ := ih h
          exact ⟨c :: raw, c :: letters, rest, rfl, .plain (by simpa using hc) (by simpa using hback) hbetween,
            by simpa using hwithin⟩
    | escaped inDouble =>
      cases inDouble with
      | false => exact ⟨c, cs, rfl, ih h⟩
      | true =>
        rw [wordsFrom] at h
        split at h
        · rename_i hc
          obtain ⟨raw, letters, rest, rfl, hbetween, hwithin⟩ := ih h
          exact ⟨'\\' :: c :: raw, c :: letters, rest, rfl, .escaped rfl (by simpa using hc) hbetween,
            by simpa using hwithin⟩
        · rename_i hc
          obtain ⟨raw, letters, rest, rfl, hbetween, hwithin⟩ := ih h
          exact ⟨'\\' :: c :: raw, '\\' :: c :: letters, rest, rfl, .kept rfl (by simpa using hc) hbetween,
            by simpa using hwithin⟩

/-! ## The words of a command -/

/-- The words that are read are those of the grammar. -/
theorem shellWords?_eq_some_iff {s : String} : shellWords? s = some ws ↔ Words s.toList ws :=
  ⟨fun h => follows_of_wordsFrom h rfl, wordsFrom_of_words⟩

theorem shellWords?_eq_none_iff {s : String} : shellWords? s = none ↔ ∀ ws, ¬Words s.toList ws := by
  simp only [← shellWords?_eq_some_iff, Option.eq_none_iff_forall_ne_some, ne_eq]

end KubeManifest.Text
