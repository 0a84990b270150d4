import KubeManifest.Proofs.Console.Marks

/-!
# Emoji in place of their names

* `emojiNames_unmarked` : no name of an emoji and no emoji has a mark;
* `withEmoji_thins` : a text in which an emoji takes the place of a name has fewer marks;
* `withEmoji_append_blank` : names do not go over blanks.
-/

namespace KubeManifest.Console

open Markup (isMark marks)

/-! ## Known names -/

/-- A line in which no character means something to a console. -/
structure Unmarked (line : String) : Prop where
  not_mark : ∀ c ∈ line.toList, isMark c = false

/-- Most characters lie beyond all marks. -/
theorem Unmarked.ofList (cs : List Char) (h : cs.all (fun c => decide (92 < c.toNat) || !isMark c) = true) :
    Unmarked (String.ofList cs) := by
  constructor
  intro c hc
  rw [String.toList_ofList] at hc
  have hkept := List.all_eq_true.mp h c hc
  rcases Bool.or_eq_true_iff.mp hkept with hlt | hmark
  · exact Markup.isMark_eq_false_of_lt (of_decide_eq_true hlt)
  · exact by simpa using hmark

set_option maxRecDepth 20000 in
/-- No name of an emoji and no emoji has a mark. -/
theorem emojiNames_unmarked : ∀ line ∈ emojiNames, Unmarked line := by
  unfold emojiNames
  simp only [List.forall_mem_cons]
  repeat' apply And.intro
  all_goals first
    | apply Unmarked.ofList; decide +kernel
    | exact List.forall_mem_nil _

theorem mem_of_emojiIn? {name emoji : List Char} {words : List (List Char)} (h : emojiIn? name words = some emoji) :
    emoji ∈ words := by
  induction words using emojiIn?.induct name with
  | case1 word e rest hname =>
    rw [emojiIn?, if_pos hname] at h
    obtain rfl := Option.some.inj h
    exact List.mem_cons_of_mem _ List.mem_cons_self
  | case2 word e rest hname ih =>
    rw [emojiIn?, if_neg hname] at h
    exact List.mem_cons_of_mem _ (List.mem_cons_of_mem _ (ih h))
  | case3 words hshort =>
    rw [emojiIn?] at h
    · cases h
    · exact hshort

theorem not_mark_of_emoji? {name emoji : List Char} (h : emoji? name = some emoji) :
    ∀ c ∈ emoji, isMark c = false := by
  intro c hc
  obtain ⟨line, hline, hin⟩ := List.exists_of_findSome?_eq_some h
  have hword := mem_of_emojiIn? hin
  exact (emojiNames_unmarked line hline).not_mark c (Markup.mem_of_mem_splitOn emoji hword hc)

/-- What shows for a name has no mark. -/
theorem marks_of_shown? {name emoji : List Char} (h : shown? name = some emoji) : marks emoji = 0 := by
  rw [Markup.marks_eq_zero]
  unfold shown? at h
  split at h
  · rename_i ending selector hfind
    obtain ⟨e, he, rfl⟩ := Option.map_eq_some_iff.mp h
    have hselector : isMark selector = false := by
      have hmem := List.mem_of_find?_eq_some hfind
      simp only [variants, List.mem_cons, Prod.mk.injEq, List.not_mem_nil, or_false] at hmem
      rcases hmem with ⟨-, rfl⟩ | ⟨-, rfl⟩ <;> decide
    exact List.forall_mem_append.mpr ⟨not_mark_of_emoji? he, List.forall_mem_singleton.mpr hselector⟩
  · exact not_mark_of_emoji? h

/-! ## Names in a text -/

/-- A name ends with the first colon. -/
theorem takeName?_eq_some_iff {cs name rest : List Char} :
    takeName? cs = some (name, rest) ↔ (∀ c ∈ name, isNameChar c = true) ∧ cs = name ++ ':' :: rest := by
  constructor
  · intro h
    unfold takeName? at h
    split at h
    · rename_i rest' hdrop
      obtain ⟨rfl, rfl⟩ := Prod.mk.inj (Option.some.inj h)
      refine ⟨fun c hc => List.all_eq_true.mp List.all_takeWhile c hc, ?_⟩
      rw [← hdrop, List.takeWhile_append_dropWhile]
    · cases h
  · rintro ⟨hname, rfl⟩
    have hcolon : isNameChar ':' = false := by decide
    simp [takeName?, List.dropWhile_append_of_pos hname, List.takeWhile_append_of_pos hname, hcolon]

/-- A blank ends every name of an emoji. -/
theorem takeName?_append_blank {b : Char} (hb : Text.isBlank b = true) {cs : List Char} (h : takeName? cs = none)
    (ds : List Char) : takeName? (cs ++ b :: ds) = none := by
  refine Option.eq_none_iff_forall_ne_some.mpr fun ⟨name, rest⟩ hsome => ?_
  obtain ⟨hname, heq⟩ := takeName?_eq_some_iff.mp hsome
  rcases List.append_eq_append_iff.mp heq with ⟨as, rfl, hds⟩ | ⟨bs, rfl, hrest⟩
  · cases as with
    | nil =>
      obtain ⟨rfl, -⟩ := List.cons.inj hds
      exact absurd hb (by decide)
    | cons a as =>
      obtain ⟨rfl, -⟩ := List.cons.inj hds
      have hblank := hname b (by simp)
      simp [isNameChar, hb] at hblank
  · cases bs with
    | nil =>
      obtain ⟨rfl, -⟩ := List.cons.inj hrest
      exact absurd hb (by decide)
    | cons a bs =>
      obtain ⟨rfl, -⟩ := List.cons.inj hrest
      cases h.symm.trans (takeName?_eq_some_iff.mpr ⟨hname, rfl⟩)

theorem withEmoji_of_takeName? {cs name rest : List Char} (h : takeName? cs = some (name, rest)) :
    withEmoji (':' :: cs) = (shown? name).getD (':' :: name ++ [':']) ++ withEmoji rest := by
  rw [withEmoji, if_pos (beq_self_eq_true _)]
  split
  · rename_i name' rest' h'
    obtain ⟨rfl, rfl⟩ := Prod.mk.inj (Option.some.inj (h.symm.trans h'))
    rfl
  · rename_i hnone
    cases h.symm.trans hnone

theorem withEmoji_colon {cs : List Char} (h : takeName? cs = none) :
    withEmoji (':' :: cs) = ':' :: withEmoji cs := by
  rw [withEmoji, if_pos (beq_self_eq_true _)]
  split
  · rename_i hsome
    cases h.symm.trans hsome
  · rfl

theorem withEmoji_cons {c : Char} (hc : ¬(c == ':') = true) (cs : List Char) :
    withEmoji (c :: cs) = c :: withEmoji cs := by
  rw [withEmoji, if_neg hc]

/-- A text in which emoji have taken the place of their names. -/
theorem withEmoji_thins (cs : List Char) : Markup.Thins (withEmoji cs) cs := by
  induction cs using withEmoji.induct with
  | case1 =>
    rw [withEmoji]
    exact .refl _
  | case2 c cs hcolon name rest hname _ ih =>
    obtain rfl := beq_iff_eq.mp hcolon
    rw [withEmoji_of_takeName? hname, (takeName?_eq_some_iff.mp hname).2]
    cases hshown : shown? name with
    | some emoji =>
      -- The colons around the name are gone.
      have hemoji := marks_of_shown? hshown
      have hle := ih.le
      right
      rw [Option.getD_some, Markup.marks_append, Markup.marks_cons_of_isMark (by decide), Markup.marks_append,
        Markup.marks_cons_of_isMark (by decide)]
      omega
    | none => simpa using ih.append (':' :: name ++ [':'])
  | case3 c cs hcolon hname ih =>
    obtain rfl := beq_iff_eq.mp hcolon
    rw [withEmoji_colon hname]
    exact ih.cons ':'
  | case4 c cs hcolon ih =>
    rw [withEmoji_cons hcolon]
    exact ih.cons c

/-- A blank divides a text in which emoji take the place of their names. -/
theorem withEmoji_append_blank {b : Char} (hb : Text.isBlank b = true) (cs ds : List Char) :
    withEmoji (cs ++ b :: ds) = withEmoji cs ++ b :: withEmoji ds := by
  have hcolon : ¬(b == ':') = true := by
    intro heq
    rw [beq_iff_eq.mp heq] at hb
    exact absurd hb (by decide)
  induction cs using withEmoji.induct with
  | case1 => rw [List.nil_append, withEmoji_cons hcolon, withEmoji, List.nil_append]
  | case2 c cs hc name rest hname _ ih =>
    obtain rfl := beq_iff_eq.mp hc
    have happend : takeName? (cs ++ b :: ds) = some (name, rest ++ b :: ds) := by
      obtain ⟨hchars, rfl⟩ := takeName?_eq_some_iff.mp hname
      exact takeName?_eq_some_iff.mpr ⟨hchars, by simp⟩
    rw [List.cons_append, withEmoji_of_takeName? happend, ih, withEmoji_of_takeName? hname, List.append_assoc]
  | case3 c cs hc hname ih =>
    obtain rfl := beq_iff_eq.mp hc
    rw [List.cons_append, withEmoji_colon (takeName?_append_blank hb hname ds), ih, withEmoji_colon hname,
      List.cons_append]
  | case4 c cs hc ih => rw [List.cons_append, withEmoji_cons hc, ih, withEmoji_cons hc, List.cons_append]

end KubeManifest.Console
