import KubeManifest.Text.Pattern
import Mathlib.Data.List.Forall2

/-!
# What patterns match

* `Pattern.mem_runs`, `Pattern.pairwise_runs` : the ways to take some characters, the shortest first;
* `Pattern.mem_outcomes_seq` and the lemmas beside it : the outcomes of a pattern from those of its parts;
* `Pattern.head?_few_seq` : after as few characters as possible, what follows decides how many they are.
-/

namespace KubeManifest.Text.Pattern

variable {accepts : Char → Bool} {p q : Pattern} {first : Bool} {cs taken rest : List Char} {o : Outcome}

/-! ## Runs -/

theorem mem_runs : (taken, rest) ∈ runs accepts cs ↔ cs = taken ++ rest ∧ ∀ c ∈ taken, accepts c := by
  induction cs generalizing taken with
  | nil =>
    constructor
    · intro h
      obtain ⟨rfl, rfl⟩ := Prod.mk.inj (List.mem_singleton.mp h)
      exact ⟨rfl, by simp⟩
    · rintro ⟨h, -⟩
      obtain ⟨rfl, rfl⟩ := List.append_eq_nil_iff.mp h.symm
      exact List.mem_singleton.mpr rfl
  | cons c cs ih =>
    cases taken with
    | nil =>
      have hmem : ([], rest) ∈ runs accepts (c :: cs) ↔ rest = c :: cs := by
        by_cases h : accepts c <;> simp [runs, h]
      rw [hmem, List.nil_append]
      exact ⟨fun h => ⟨h.symm, by simp⟩, fun h => h.1.symm⟩
    | cons t taken =>
      have hmem : (t :: taken, rest) ∈ runs accepts (c :: cs) ↔
          accepts c ∧ c = t ∧ (taken, rest) ∈ runs accepts cs := by
        by_cases h : accepts c <;> simp [runs, h, and_comm]
      rw [hmem, ih, List.cons_append, List.cons.injEq, List.forall_mem_cons]
      constructor
      · rintro ⟨h, rfl, rfl, ht⟩
        exact ⟨⟨rfl, rfl⟩, h, ht⟩
      · rintro ⟨⟨rfl, rfl⟩, h, ht⟩
        exact ⟨h, rfl, rfl, ht⟩

theorem pairwise_runs : (runs accepts cs).Pairwise fun a b => a.1.length < b.1.length := by
  induction cs with
  | nil => exact List.pairwise_singleton _ _
  | cons c cs ih =>
    rw [runs, List.pairwise_cons]
    by_cases h : accepts c
    · rw [if_pos h, List.pairwise_map]
      refine ⟨fun e he => ?_, ih.imp fun hab => Nat.succ_lt_succ hab⟩
      obtain ⟨e, -, rfl⟩ := List.mem_map.mp he
      exact Nat.succ_pos _
    · simp [h]

/-! ## Outcomes -/

section Parts

attribute [local simp] outcomes

@[simp] theorem mem_outcomes_empty : o ∈ outcomes empty first cs ↔ o = ⟨[], cs, []⟩ := by
  simp

@[simp] theorem mem_outcomes_finish :
    o ∈ outcomes finish first cs ↔ (cs = [] ∨ cs = ['\n']) ∧ o = ⟨[], cs, []⟩ := by
  by_cases h : cs = [] ∨ cs = ['\n'] <;> simp [h]

@[simp] theorem mem_outcomes_char :
    o ∈ outcomes (char accepts) first cs ↔ ∃ c rest, cs = c :: rest ∧ accepts c ∧ o = ⟨[c], rest, []⟩ := by
  cases cs with
  | nil => simp
  | cons c cs => by_cases h : accepts c <;> simp [h]

@[simp] theorem mem_outcomes_many :
    o ∈ outcomes (many accepts) first cs ↔
      ∃ taken rest, cs = taken ++ rest ∧ (∀ c ∈ taken, accepts c) ∧ o = ⟨taken, rest, []⟩ := by
  simp only [outcomes, List.mem_map, List.mem_reverse, Prod.exists, mem_runs, and_assoc, eq_comm (a := o)]

@[simp] theorem mem_outcomes_maybe :
    o ∈ outcomes (maybe p) first cs ↔ o ∈ outcomes p first cs ∨ o = ⟨[], cs, []⟩ := by
  simp

@[simp] theorem mem_outcomes_seq :
    o ∈ outcomes (seq p q) first cs ↔
      ∃ o₁ ∈ outcomes p first cs, ∃ o₂ ∈ outcomes q (first && o₁.taken.isEmpty) o₁.rest, o = o₁.followedBy o₂ := by
  simp only [outcomes, List.mem_flatMap, List.mem_map, eq_comm (a := o)]

@[simp] theorem mem_outcomes_either :
    o ∈ outcomes (either p q) first cs ↔ o ∈ outcomes p first cs ∨ o ∈ outcomes q first cs := by
  simp

@[simp] theorem mem_outcomes_group {name : String} :
    o ∈ outcomes (group name p) first cs ↔ ∃ o₁ ∈ outcomes p first cs, o = o₁.named name := by
  simp only [outcomes, List.mem_map, eq_comm (a := o)]

end Parts

theorem mem_outcomes_char_seq :
    o ∈ outcomes (seq (char accepts) q) first cs ↔
      ∃ c rest, cs = c :: rest ∧ accepts c ∧
        ∃ next ∈ outcomes q false rest, o = ⟨c :: next.taken, next.rest, next.groups⟩ := by
  simp only [mem_outcomes_seq, mem_outcomes_char]
  constructor
  · rintro ⟨_, ⟨c, rest, rfl, hc, rfl⟩, next, hnext, rfl⟩
    rw [List.isEmpty_cons, Bool.and_false] at hnext
    exact ⟨c, rest, rfl, hc, next, hnext, rfl⟩
  · rintro ⟨c, rest, rfl, hc, next, hnext, rfl⟩
    refine ⟨_, ⟨c, rest, rfl, hc, rfl⟩, next, ?_, rfl⟩
    rwa [List.isEmpty_cons, Bool.and_false]

theorem mem_outcomes_inTurn {classes : List (Char → Bool)} :
    o ∈ outcomes (inTurn classes) first cs ↔
      ∃ taken rest, cs = taken ++ rest ∧ List.Forall₂ (fun c accepts => accepts c = true) taken classes ∧
        o = ⟨taken, rest, []⟩ := by
  induction classes generalizing o first cs with
  | nil =>
    rw [show inTurn [] = empty from rfl, mem_outcomes_empty]
    constructor
    · rintro rfl
      exact ⟨[], cs, rfl, .nil, rfl⟩
    · rintro ⟨_, rest, rfl, ht, rfl⟩
      rw [List.forall₂_nil_right_iff.mp ht]
      rfl
  | cons a classes ih =>
    rw [show inTurn (a :: classes) = seq (char a) (inTurn classes) from rfl, mem_outcomes_char_seq]
    constructor
    · rintro ⟨c, _, rfl, hc, next, hnext, rfl⟩
      obtain ⟨taken, rest, rfl, ht, rfl⟩ := ih.mp hnext
      exact ⟨c :: taken, rest, rfl, .cons hc ht, rfl⟩
    · rintro ⟨_, rest, rfl, ht, rfl⟩
      obtain ⟨c, taken, hc, ht', rfl⟩ := List.forall₂_cons_right_iff.mp ht
      exact ⟨c, taken ++ rest, rfl, hc, ⟨taken, rest, []⟩, ih.mpr ⟨taken, rest, rfl, ht', rfl⟩, rfl⟩

/-! ## Preferred outcomes -/

theorem outcomes_start_seq : outcomes (seq start q) true cs = outcomes q true cs := by
  have hid : (Outcome.mk [] cs []).followedBy = id := rfl
  simp [outcomes, hid]

/-- Of all ways to go on after a list of beginnings the first comes from the first beginning that has one. -/
theorem head?_flatMap_eq_some {α β : Type} {l : List α} {f : α → List β} {b : β} :
    (l.flatMap f).head? = some b ↔
      ∃ l₁ a l₂, l = l₁ ++ a :: l₂ ∧ (f a).head? = some b ∧ ∀ x ∈ l₁, f x = [] := by
  rw [List.head?_flatMap, List.findSome?_eq_some_iff]
  simp only [List.head?_eq_none_iff]

/-- As few characters as possible are taken before what follows: where it cannot match, they are more. -/
theorem head?_few_seq {name : String} :
    (outcomes (seq (group name (few accepts)) q) first cs).head? = some o ↔
      ∃ taken rest next, cs = taken ++ rest ∧ (∀ c ∈ taken, accepts c) ∧
        (outcomes q (first && taken.isEmpty) rest).head? = some next ∧
        o = (Outcome.mk taken rest [(name, taken)]).followedBy next ∧
        ∀ taken' rest', cs = taken' ++ rest' → taken'.length < taken.length →
          outcomes q (first && taken'.isEmpty) rest' = [] := by
  rw [outcomes, outcomes, outcomes, List.map_map, List.flatMap_map, head?_flatMap_eq_some]
  simp only [List.head?_map, Option.map_eq_some_iff, List.map_eq_nil_iff, Function.comp_apply]
  constructor
  · rintro ⟨l₁, ⟨taken, rest⟩, l₂, hl, ⟨next, hn, rfl⟩, hnone⟩
    have hmem : (taken, rest) ∈ runs accepts cs := by simp [hl]
    obtain ⟨rfl, ht⟩ := mem_runs.mp hmem
    refine ⟨taken, rest, next, rfl, ht, hn, rfl, fun taken' rest' h hlt => ?_⟩
    -- What is shorter stands before in the list of runs, and nothing follows it.
    have hpre : taken' <+: taken :=
      List.prefix_of_prefix_length_le ⟨rest', h.symm⟩ ⟨rest, rfl⟩ (Nat.le_of_lt hlt)
    have hmem' : (taken', rest') ∈ runs accepts (taken ++ rest) :=
      mem_runs.mpr ⟨h, fun c hc => ht c (hpre.subset hc)⟩
    have hlen : (runs accepts (taken ++ rest)).Pairwise _ := pairwise_runs
    rw [hl] at hmem' hlen
    rw [List.pairwise_append, List.pairwise_cons] at hlen
    rw [List.mem_append, List.mem_cons] at hmem'
    obtain hm | hm | hm := hmem'
    · exact hnone _ hm
    · rw [(Prod.mk.inj hm).1] at hlt
      exact absurd hlt (Nat.lt_irrefl _)
    · exact absurd (hlen.2.1.1 _ hm) (Nat.not_lt.mpr (Nat.le_of_lt hlt))
  · rintro ⟨taken, rest, next, rfl, ht, hn, rfl, hnone⟩
    obtain ⟨l₁, l₂, hl⟩ := List.append_of_mem (mem_runs.mpr ⟨rfl, ht⟩ : (taken, rest) ∈ runs accepts (taken ++ rest))
    refine ⟨l₁, (taken, rest), l₂, hl, ⟨next, hn, rfl⟩, fun x hx => ?_⟩
    have hlen : (runs accepts (taken ++ rest)).Pairwise _ := pairwise_runs
    rw [hl, List.pairwise_append] at hlen
    have hx' : x ∈ runs accepts (taken ++ rest) := by simp [hl, hx]
    exact hnone _ _ (mem_runs.mp hx').1 (hlen.2.2 x hx _ List.mem_cons_self)

end KubeManifest.Text.Pattern
