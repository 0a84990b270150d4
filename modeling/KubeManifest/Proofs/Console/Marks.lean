import KubeManifest.Console.Markup

/-!
# Characters that mean something to a console

A bracket begins a tag, a backslash makes it text, colons enclose the name of an emoji, and some controls are
dropped. Where such a character does its work it is gone from what is shown, and nothing that is shown in its place
is one: a text that keeps the number of its marks is kept as it is.

* `Markup.isMark`, `Markup.marks` : these characters, and how many of them a text has;
* `Markup.Thins` : a text that is another one, or has fewer marks than it;
* `Markup.unescape_thins`, `Markup.printed_thins` : escapes and dropped characters.
-/

namespace KubeManifest.Console.Markup

/-! ## Marks -/

def isMark (c : Char) : Bool :=
  c == '[' || c == '\\' || c == ':' || isDropped c

/-- How many characters of a text mean something to a console. -/
def marks (cs : List Char) : Nat :=
  cs.countP isMark

@[simp] theorem marks_nil : marks [] = 0 := rfl

@[simp] theorem marks_append (cs ds : List Char) : marks (cs ++ ds) = marks cs + marks ds :=
  List.countP_append

@[simp] theorem marks_reverse (cs : List Char) : marks cs.reverse = marks cs :=
  List.countP_reverse

theorem marks_cons (c : Char) (cs : List Char) : marks (c :: cs) = marks cs + if isMark c then 1 else 0 :=
  List.countP_cons

theorem marks_cons_of_isMark {c : Char} (h : isMark c = true) (cs : List Char) : marks (c :: cs) = marks cs + 1 :=
  List.countP_cons_of_pos h

theorem marks_eq_zero {cs : List Char} : marks cs = 0 ↔ ∀ c ∈ cs, isMark c = false := by
  simp [marks, List.countP_eq_zero]

theorem isMark_eq_false_of_lt {c : Char} (h : 92 < c.toNat) : isMark c = false := by
  rw [Bool.eq_false_iff]
  intro hc
  simp only [isMark, isDropped, Bool.or_eq_true, beq_iff_eq] at hc
  have hle : c.toNat ≤ 92 := by
    rcases hc with ((rfl | rfl) | rfl) | (((rfl | rfl) | rfl) | rfl) | rfl <;> decide
  omega

/-! ## Lines -/

theorem mem_of_mem_splitOn {a c : Char} {cs : List Char} : ∀ word ∈ cs.splitOn a, c ∈ word → c ∈ cs := by
  induction cs with
  | nil => simp [List.splitOn_nil]
  | cons d cs ih =>
    rw [List.splitOn_cons_eq_if_modifyHead]
    split
    · exact List.forall_mem_cons.mpr ⟨fun hc => absurd hc List.not_mem_nil, fun word hword hc =>
        List.mem_cons_of_mem _ (ih word hword hc)⟩
    · cases hsplit : cs.splitOn a with
      | nil => exact absurd hsplit (List.splitOn_ne_nil a cs)
      | cons first rest =>
        rw [hsplit] at ih
        obtain ⟨hfirst, hrest⟩ := List.forall_mem_cons.mp ih
        refine List.forall_mem_cons.mpr ⟨fun hc => ?_, fun word hword hc =>
          List.mem_cons_of_mem _ (hrest word hword hc)⟩
        rcases List.mem_cons.mp hc with rfl | hc
        · exact List.mem_cons_self
        · exact List.mem_cons_of_mem _ (hfirst hc)

theorem marks_flatten_splitOn {a : Char} (ha : isMark a = false) (cs : List Char) :
    marks (cs.splitOn a).flatten = marks cs := by
  induction cs with
  | nil => simp [List.splitOn_nil]
  | cons c cs ih =>
    rw [List.splitOn_cons_eq_if_modifyHead]
    split
    · rename_i hc
      rw [List.flatten_cons, List.nil_append, ih, marks_cons, beq_iff_eq.mp hc, ha]
      rfl
    · cases hsplit : cs.splitOn a with
      | nil => exact absurd hsplit (List.splitOn_ne_nil a cs)
      | cons first rest =>
        rw [hsplit] at ih
        rw [List.modifyHead_cons, List.flatten_cons, List.cons_append, marks_cons, ← List.flatten_cons, ih, marks_cons]

/-! ## Texts with fewer marks -/

/-- A text that is kept as it was before, or has fewer marks. -/
def Thins (after before : List Char) : Prop :=
  after = before ∨ marks after < marks before

namespace Thins

variable {cs ds es : List Char}

theorem refl (cs : List Char) : Thins cs cs :=
  .inl rfl

theorem le (h : Thins cs ds) : marks cs ≤ marks ds :=
  h.elim (fun heq => heq ▸ Nat.le_refl _) Nat.le_of_lt

/-- A text with as many marks as before is kept. -/
theorem eq_of_marks_le (h : Thins cs ds) (hle : marks ds ≤ marks cs) : cs = ds :=
  h.resolve_right (Nat.not_lt.mpr hle)

theorem trans (h : Thins cs ds) (h' : Thins ds es) : Thins cs es := by
  rcases h with rfl | hlt
  · exact h'
  · exact .inr (Nat.lt_of_lt_of_le hlt h'.le)

theorem cons (c : Char) (h : Thins cs ds) : Thins (c :: cs) (c :: ds) := by
  refine h.imp (fun heq => by rw [heq]) fun hlt => ?_
  rw [marks_cons, marks_cons]
  omega

theorem append (front : List Char) (h : Thins cs ds) : Thins (front ++ cs) (front ++ ds) := by
  refine h.imp (fun heq => by rw [heq]) fun hlt => ?_
  rw [marks_append, marks_append]
  omega

end Thins

/-! ## Escapes and dropped characters -/

/-- A text in which no backslash stands before a bracket any more. -/
theorem unescape_thins (cs : List Char) : Thins (unescape cs) cs := by
  induction cs using unescape.induct with
  | case1 => exact .refl _
  | case2 cs ih =>
    have hle := ih.le
    right
    rw [unescape, marks_cons_of_isMark (by decide), marks_cons_of_isMark (by decide), marks_cons_of_isMark (by decide)]
    omega
  | case3 c cs hother ih =>
    have hstep : unescape (c :: cs) = c :: unescape cs := by
      rw [unescape]
      exact hother
    rw [hstep]
    exact ih.cons c

/-- A text without the characters that are not shown. -/
theorem printed_thins (cs : List Char) : Thins (cs.filter (!isDropped ·)) cs := by
  induction cs with
  | nil => exact .refl _
  | cons c cs ih =>
    cases hc : isDropped c with
    | false =>
      rw [List.filter_cons_of_pos (by simp [hc])]
      exact ih.cons c
    | true =>
      have hmark : isMark c = true := by simp [isMark, hc]
      have hle := ih.le
      right
      rw [List.filter_cons_of_neg (by simp [hc]), marks_cons_of_isMark hmark]
      omega

/-- A text is kept exactly if no backslash stands before a bracket. -/
theorem unescape_eq_self {cs : List Char} : unescape cs = cs ↔ ¬['\\', '['] <:+: cs := by
  induction cs using unescape.induct with
  | case1 => simp [unescape]
  | case2 cs ih =>
    refine iff_of_false (fun h => ?_) fun h => h ⟨[], cs, rfl⟩
    rw [unescape] at h
    exact absurd (List.cons.inj h).1 (by decide)
  | case3 c cs hother ih =>
    have hstep : unescape (c :: cs) = c :: unescape cs := by
      rw [unescape]
      exact hother
    have hprefix : ¬['\\', '['] <+: c :: cs := by
      rintro ⟨rest, hrest⟩
      obtain ⟨hc, hcs⟩ := List.cons.inj hrest
      exact hother rest hc.symm hcs.symm
    rw [hstep, List.cons_inj_right, ih, List.infix_cons_iff, or_iff_right hprefix]

end KubeManifest.Console.Markup
