import KubeManifest.Text.Blank
import KubeManifest.Text.Width
import Mathlib.Data.List.Basic

/-!
# White space around texts

* `Text.columns_append`, `Text.charColumns_le` : how columns add up, and how many a character takes;
* `Text.stripRight_append`, `Text.columns_stripRight_append` : the text and the columns before the blanks at the end;
* `Text.Trimmed` : texts that neither begin nor end with white space;
* `Text.strip_trimmed`, `Text.Trimmed.strip_eq` : stripping trims a text, and leaves a trimmed one as it is;
* `Text.strip_eq_nil`, `Text.mem_of_mem_strip` : when nothing is left, and what can be;
* `Text.Trimmed.append_cons` : trimmed texts with a character between them.
-/

namespace KubeManifest.Text

variable {cs ds : List Char} {c : Char}

/-! ## Columns -/

theorem foldl_columns (n : Nat) (cs : List Char) : cs.foldl (fun n c => n + charColumns c) n = n + columns cs := by
  unfold columns
  induction cs generalizing n with
  | nil => rfl
  | cons c cs ih =>
    rw [List.foldl_cons, List.foldl_cons, ih, ih (0 + charColumns c)]
    omega

@[simp] theorem columns_nil : columns [] = 0 := rfl

@[simp] theorem columns_cons (c : Char) (cs : List Char) : columns (c :: cs) = charColumns c + columns cs := by
  rw [columns, List.foldl_cons, foldl_columns, Nat.zero_add]

@[simp] theorem columns_append (cs ds : List Char) : columns (cs ++ ds) = columns cs + columns ds := by
  induction cs with
  | nil => simp
  | cons c cs ih => simp [ih, Nat.add_assoc]

@[simp] theorem columns_reverse (cs : List Char) : columns cs.reverse = columns cs := by
  induction cs with
  | nil => rfl
  | cons c cs ih => simp [ih, Nat.add_comm]

theorem charColumns_le (c : Char) : charColumns c ≤ 2 := by
  unfold charColumns
  repeat' split
  all_goals omega

/-! ## Blanks at the end -/

theorem stripRight_append (cs ds : List Char) :
    stripRight (cs ++ ds) = if stripRight ds = [] then stripRight cs else cs ++ stripRight ds := by
  simp only [stripRight, List.reverse_append, List.dropWhile_append, List.reverse_eq_nil_iff, List.isEmpty_iff]
  split
  · rfl
  · simp

theorem stripRight_cons (c : Char) (cs : List Char) :
    stripRight (c :: cs) = if stripRight cs = [] ∧ isBlank c = true then [] else c :: stripRight cs := by
  have hsingle : stripRight [c] = if isBlank c = true then [] else [c] := by
    simp only [stripRight, List.reverse_singleton, List.dropWhile_cons, List.dropWhile_nil]
    split <;> rfl
  rw [← List.singleton_append, stripRight_append, hsingle]
  by_cases hcs : stripRight cs = [] <;> by_cases hc : isBlank c = true <;> simp [hcs, hc]

theorem stripRight_eq_nil : stripRight cs = [] ↔ ∀ c ∈ cs, isBlank c = true := by
  induction cs with
  | nil => simp [stripRight]
  | cons c cs ih =>
    rw [stripRight_cons, List.forall_mem_cons, ← ih]
    by_cases hcs : stripRight cs = [] <;> by_cases hc : isBlank c = true <;> simp [hcs, hc]

/-- A text is what is left of it, and blanks. -/
theorem exists_eq_stripRight_append (cs : List Char) :
    ∃ gap, cs = stripRight cs ++ gap ∧ ∀ c ∈ gap, isBlank c = true := by
  refine ⟨(cs.reverse.takeWhile isBlank).reverse, ?_, fun c hc => ?_⟩
  · rw [stripRight, ← List.reverse_append, List.takeWhile_append_dropWhile, List.reverse_reverse]
  · exact List.all_eq_true.mp List.all_takeWhile c (List.mem_reverse.mp hc)

theorem blank_of_mem_drop {n : Nat} (hn : (stripRight cs).length ≤ n) (hc : c ∈ cs.drop n) : isBlank c = true := by
  obtain ⟨gap, hgap, hblank⟩ := exists_eq_stripRight_append cs
  rw [hgap, List.drop_append, List.drop_eq_nil_of_le hn, List.nil_append] at hc
  exact hblank c (List.mem_of_mem_drop hc)

theorem columns_stripRight_le (cs : List Char) : columns (stripRight cs) ≤ columns cs := by
  obtain ⟨gap, hgap, -⟩ := exists_eq_stripRight_append cs
  have hcolumns := congrArg columns hgap
  rw [columns_append] at hcolumns
  omega

theorem columns_stripRight_append (cs ds : List Char) :
    columns (stripRight (cs ++ ds)) ≤ max (columns (stripRight cs)) (columns cs + columns (stripRight ds)) := by
  rw [stripRight_append]
  split
  · exact Nat.le_max_left _ _
  · rw [columns_append]
    exact Nat.le_max_right _ _

/-! ## Blanks on both sides -/

/-- A text that neither begins nor ends with white space. -/
structure Trimmed (cs : List Char) : Prop where
  head : ∀ c ∈ cs.head?, isBlank c = false
  last : ∀ c ∈ cs.getLast?, isBlank c = false

theorem not_isBlank_of_head?_dropWhile : ∀ c ∈ (cs.dropWhile isBlank).head?, isBlank c = false := by
  intro c hc
  have hnot := List.head?_dropWhile_not isBlank cs
  rw [Option.mem_def.mp hc] at hnot
  simpa using hnot

theorem strip_trimmed (cs : List Char) : Trimmed (strip cs) where
  head c hc := by
    obtain ⟨gap, hgap, -⟩ := exists_eq_stripRight_append (stripLeft cs)
    have hne : stripRight (stripLeft cs) ≠ [] := by
      intro hnil
      rw [strip, hnil] at hc
      cases hc
    have hhead : (stripRight (stripLeft cs) ++ gap).head? = (strip cs).head? := List.head?_append_of_ne_nil _ hne
    rw [← hgap] at hhead
    exact not_isBlank_of_head?_dropWhile c (hhead ▸ hc)
  last c hc := by
    rw [strip, stripRight, List.getLast?_reverse] at hc
    exact not_isBlank_of_head?_dropWhile c hc

theorem dropWhile_isBlank_eq_self (h : ∀ c ∈ cs.head?, isBlank c = false) : cs.dropWhile isBlank = cs := by
  cases cs with
  | nil => rfl
  | cons c cs => rw [List.dropWhile_cons_of_neg (by simpa using h c rfl)]

theorem Trimmed.strip_eq (h : Trimmed cs) : strip cs = cs := by
  have hlast : ∀ c ∈ cs.reverse.head?, isBlank c = false := by
    rw [List.head?_reverse]
    exact h.last
  rw [strip, stripLeft, dropWhile_isBlank_eq_self h.head, stripRight, dropWhile_isBlank_eq_self hlast,
    List.reverse_reverse]

@[simp] theorem strip_strip (cs : List Char) : strip (strip cs) = strip cs :=
  (strip_trimmed cs).strip_eq

theorem strip_eq_nil : strip cs = [] ↔ ∀ c ∈ cs, isBlank c = true := by
  rw [strip, stripRight_eq_nil]
  constructor
  · intro h c hc
    rw [← List.takeWhile_append_dropWhile (p := isBlank) (l := cs)] at hc
    rcases List.mem_append.mp hc with hc | hc
    · exact List.all_eq_true.mp List.all_takeWhile c hc
    · exact h c hc
  · exact fun h c hc => h c ((List.dropWhile_sublist _).subset hc)

theorem mem_of_mem_strip {c : Char} (h : c ∈ strip cs) : c ∈ cs := by
  obtain ⟨gap, hgap, -⟩ := exists_eq_stripRight_append (stripLeft cs)
  have hmem : c ∈ stripLeft cs := by
    rw [hgap]
    exact List.mem_append_left gap h
  exact (List.dropWhile_sublist _).subset hmem

theorem Trimmed.append_cons (hcs : Trimmed cs) (hne : cs ≠ []) (c : Char) (hds : Trimmed ds) (hne' : ds ≠ []) :
    Trimmed (cs ++ c :: ds) where
  head := by
    rw [List.head?_append_of_ne_nil _ hne]
    exact hcs.head
  last := by
    rw [List.getLast?_append_of_ne_nil _ (List.cons_ne_nil _ _), List.getLast?_cons_of_ne_nil hne']
    exact hds.last

theorem trimmed_of_forall (h : ∀ c ∈ cs, isBlank c = false) : Trimmed cs :=
  ⟨fun c hc => h c (List.mem_of_mem_head? hc), fun c hc => h c (List.mem_of_getLast? hc)⟩

end KubeManifest.Text
