import KubeManifest.Number.Binary64
import Mathlib.Algebra.Order.Field.Power
import Mathlib.Data.Rat.Cast.Order
import Mathlib.Tactic.Linarith
import Mathlib.Tactic.NormNum
import Mathlib.Tactic.Ring

/-!
# Doubles in their one form

* `Binary64.Canonical`, `Binary64.canonical_unique` : the one form of every number;
* `Binary64.equals_iff_value`, `Binary64.equalsInt_iff` : comparison is that of values;
* `Binary64.canonical_ofRatio`, `Binary64.canonical_ofDecimal` : numbers that are made have their one form.
-/

namespace KubeManifest.Binary64

/-! ## Values -/

def Canonical : Binary64 → Prop
  | finite _ m e => m < 2 ^ 53 ∧ -1074 ≤ e ∧ (m < 2 ^ 52 → e = -1074)
  | infinite _ => True
  | notANumber => False

def value : Binary64 → ℚ
  | finite negative m e => if negative then -(m * 2 ^ e) else m * 2 ^ e
  | _ => 0

variable {negative negative' : Bool} {m m' : Nat} {e e' : Int} {x y : Binary64}

theorem exponent_le (h : Canonical (finite negative m e)) (h' : Canonical (finite negative' m' e'))
    (heq : (m : ℚ) * 2 ^ e = m' * 2 ^ e') : e' ≤ e := by
  obtain ⟨hm, he, -⟩ := h
  obtain ⟨-, -, hm'⟩ := h'
  by_contra hlt
  have hlarge : 2 ^ 52 ≤ m' := by
    by_contra hsmall
    have := hm' (by omega)
    omega
  -- an exponent that is greater by one doubles the value
  have hpow : (2 : ℚ) ^ e * 2 ≤ 2 ^ e' := by
    rw [← zpow_add_one₀ (by norm_num)]
    exact zpow_le_zpow_right₀ (by norm_num) (by omega)
  have hpos : (0 : ℚ) < 2 ^ e := by positivity
  have hm'Q : (2 : ℚ) ^ 52 ≤ m' := by exact_mod_cast hlarge
  have hmQ : (m : ℚ) < 2 ^ 53 := by exact_mod_cast hm
  have hle : (2 : ℚ) ^ 53 * 2 ^ e ≤ m * 2 ^ e := by
    calc (2 : ℚ) ^ 53 * 2 ^ e = 2 ^ 52 * (2 ^ e * 2) := by rw [pow_succ]; ring
      _ ≤ (m' : ℚ) * 2 ^ e' := by gcongr
      _ = m * 2 ^ e := heq.symm
  exact absurd (le_of_mul_le_mul_right hle hpos) (not_le.mpr hmQ)

/-- Every number has one form. -/
theorem canonical_unique (h : Canonical (finite negative m e)) (h' : Canonical (finite negative' m' e'))
    (heq : (m : ℚ) * 2 ^ e = m' * 2 ^ e') : m = m' ∧ e = e' := by
  obtain rfl : e = e' := le_antisymm (exponent_le h' h heq.symm) (exponent_le h h' heq)
  have hpow : (2 : ℚ) ^ e ≠ 0 := by positivity
  exact ⟨by exact_mod_cast mul_right_cancel₀ hpow heq, rfl⟩

theorem equals_iff_value (h : Canonical (finite negative m e)) (h' : Canonical (finite negative' m' e')) :
    equals (finite negative m e) (finite negative' m' e') = true ↔
      value (finite negative m e) = value (finite negative' m' e') := by
  have hnonneg : (0 : ℚ) ≤ m * 2 ^ e := by positivity
  have hnonneg' : (0 : ℚ) ≤ m' * 2 ^ e' := by positivity
  simp only [equals, isZero, value, Bool.or_eq_true, Bool.and_eq_true, beq_iff_eq, finite.injEq]
  constructor
  · rintro (⟨rfl, rfl, rfl⟩ | ⟨rfl, rfl⟩)
    · rfl
    · simp
  · intro heq
    -- a sign tells nothing of zero, and everything of other numbers
    have habs : (m : ℚ) * 2 ^ e = m' * 2 ^ e' := by
      cases negative <;> cases negative' <;> simp only [Bool.false_eq_true, if_true, if_false] at heq <;> linarith
    obtain ⟨rfl, rfl⟩ := canonical_unique h h' habs
    by_cases hm : m = 0
    · exact .inr ⟨hm, hm⟩
    · have hpos : (0 : ℚ) < m * 2 ^ e := by positivity
      refine .inl ⟨?_, rfl, rfl⟩
      cases negative <;> cases negative' <;> simp only [Bool.false_eq_true, if_true, if_false] at heq ⊢ <;> linarith

theorem ratio_spec (m : Nat) (e : Int) : ((ratio m e).1 : ℚ) = m * 2 ^ e * (ratio m e).2 ∧ 0 < (ratio m e).2 := by
  cases e with
  | ofNat e => simp [ratio]
  | negSucc e => simp [ratio, zpow_negSucc]

/-- A number equals a whole number if that is its value. -/
theorem equalsInt_iff {n : Int} : equalsInt (finite negative m e) n = true ↔ value (finite negative m e) = n := by
  obtain ⟨hratio, hden⟩ := ratio_spec m e
  have hden : ((ratio m e).2 : ℚ) ≠ 0 := by exact_mod_cast hden.ne'
  have hcast : ∀ a b : Int, a = b ↔ (a : ℚ) = b := fun a b => Int.cast_inj.symm
  simp only [equalsInt, value, beq_iff_eq, hcast]
  cases negative with
  | false =>
    simp only [Bool.false_eq_true, if_false]
    push_cast
    rw [hratio]
    exact mul_left_inj' hden
  | true =>
    simp only [if_true]
    push_cast
    rw [hratio, ← neg_mul]
    exact mul_left_inj' hden

/-! ## Numbers that are made -/

variable {num den : Nat}

theorem scaleDown_spec (hden : 0 < den) (e : Int) : 0 < (scaleDown num den e).2 ∧
    ((scaleDown num den e).1 : ℚ) / (scaleDown num den e).2 = num / den / 2 ^ e := by
  cases e with
  | ofNat e =>
    simp only [scaleDown, Nat.pow_eq]
    refine ⟨by positivity, ?_⟩
    push_cast
    rw [div_div, Int.ofNat_eq_natCast, zpow_natCast]
  | negSucc e =>
    simp only [scaleDown, Nat.pow_eq]
    refine ⟨hden, ?_⟩
    push_cast
    rw [zpow_negSucc, div_inv_eq_mul, div_mul_eq_mul_div]

theorem fits_iff (hden : 0 < den) (e : Int) :
    (scaleDown num den e).1 < 2 ^ 53 * (scaleDown num den e).2 ↔ (num : ℚ) / den / 2 ^ e < 2 ^ 53 := by
  obtain ⟨hpos, heq⟩ := @scaleDown_spec num den hden e
  have hposQ : (0 : ℚ) < (scaleDown num den e).2 := by exact_mod_cast hpos
  rw [← heq, div_lt_iff₀ hposQ]
  exact_mod_cast Iff.rfl

/-- A fraction lies between powers of two by the lengths of its parts. -/
theorem ratio_bounds (hnum : 0 < num) (hden : 0 < den) :
    (2 : ℚ) ^ ((num.log2 : Int) - den.log2 - 1) ≤ num / den ∧
      (num : ℚ) / den < 2 ^ ((num.log2 : Int) - den.log2 + 1) := by
  have hdenQ : (0 : ℚ) < den := by exact_mod_cast hden
  have hnum₁ : (2 : ℚ) ^ (num.log2 : Int) ≤ num := by exact_mod_cast Nat.log2_self_le hnum.ne'
  have hnum₂ : (num : ℚ) < 2 ^ ((num.log2 : Int) + 1) := by exact_mod_cast Nat.lt_log2_self
  have hden₁ : (2 : ℚ) ^ (den.log2 : Int) ≤ den := by exact_mod_cast Nat.log2_self_le hden.ne'
  have hden₂ : (den : ℚ) < 2 ^ ((den.log2 : Int) + 1) := by exact_mod_cast Nat.lt_log2_self
  constructor
  · rw [le_div_iff₀ hdenQ]
    calc (2 : ℚ) ^ ((num.log2 : Int) - den.log2 - 1) * den
        ≤ 2 ^ ((num.log2 : Int) - den.log2 - 1) * 2 ^ ((den.log2 : Int) + 1) := by gcongr
      _ = 2 ^ (num.log2 : Int) := by rw [← zpow_add₀ two_ne_zero]; congr 1; ring
      _ ≤ num := hnum₁
  · rw [div_lt_iff₀ hdenQ]
    calc (num : ℚ) < 2 ^ ((num.log2 : Int) + 1) := hnum₂
      _ = 2 ^ ((num.log2 : Int) - den.log2 + 1) * 2 ^ (den.log2 : Int) := by
        rw [← zpow_add₀ two_ne_zero]; congr 1; ring
      _ ≤ 2 ^ ((num.log2 : Int) - den.log2 + 1) * den := by gcongr

/-- The exponent is one at which the fraction has 53 digits, or the least one. -/
theorem exists_exponent (hnum : 0 < num) (hden : 0 < den) : ∃ e, exponentOf num den = max e (-1074) ∧
    (2 : ℚ) ^ 52 ≤ num / den / 2 ^ e ∧ (num : ℚ) / den / 2 ^ e < 2 ^ 53 := by
  obtain ⟨hlow, hhigh⟩ := ratio_bounds hnum hden
  have hpow : ∀ (k : Nat) {e e' : Int}, k + e = e' → (2 : ℚ) ^ k * 2 ^ e = 2 ^ e' := by
    rintro k e e' rfl
    rw [zpow_add₀ two_ne_zero, zpow_natCast]
  have hpos : ∀ e : Int, (0 : ℚ) < 2 ^ e := fun e => by positivity
  unfold exponentOf
  simp only [Nat.pow_eq, decide_eq_true_eq, fits_iff hden]
  generalize hguess : (num.log2 : Int) - den.log2 - 53 = guess
  by_cases hfits : (num : ℚ) / den / 2 ^ guess < 2 ^ 53
  · rw [if_pos hfits]
    refine ⟨guess, rfl, ?_, hfits⟩
    have hsum : (52 : Nat) + guess = (num.log2 : Int) - den.log2 - 1 := by omega
    rw [le_div_iff₀ (hpos _), hpow 52 hsum]
    exact hlow
  · have hnext : (num : ℚ) / den / 2 ^ (guess + 1) < 2 ^ 53 := by
      have hsum : (53 : Nat) + (guess + 1) = (num.log2 : Int) - den.log2 + 1 := by omega
      rw [div_lt_iff₀ (hpos _), hpow 53 hsum]
      exact hhigh
    rw [if_neg hfits, if_pos hnext]
    refine ⟨guess + 1, rfl, ?_, hnext⟩
    rw [not_lt, le_div_iff₀ (hpos _), hpow 53 rfl] at hfits
    have hsum : (52 : Nat) + (guess + 1) = (53 : Nat) + guess := by omega
    rw [le_div_iff₀ (hpos _), hpow 52 hsum]
    exact hfits

theorem exponentOf_spec (hnum : 0 < num) (hden : 0 < den) : (num : ℚ) / den / 2 ^ exponentOf num den < 2 ^ 53 ∧
    -1074 ≤ exponentOf num den ∧
    (exponentOf num den ≠ -1074 → (2 : ℚ) ^ 52 ≤ num / den / 2 ^ exponentOf num den) := by
  obtain ⟨e, heq, hlow, hhigh⟩ := exists_exponent hnum hden
  rcases le_total (-1074) e with hle | hle
  · rw [heq, max_eq_left hle]
    exact ⟨hhigh, hle, fun _ => hlow⟩
  · rw [heq, max_eq_right hle]
    refine ⟨lt_of_le_of_lt ?_ hhigh, le_rfl, fun hne => absurd rfl hne⟩
    have hpow : (2 : ℚ) ^ e ≤ 2 ^ (-1074 : Int) := zpow_le_zpow_right₀ (by norm_num) hle
    have hratio : (0 : ℚ) ≤ num / den := div_nonneg (Nat.cast_nonneg _) (Nat.cast_nonneg _)
    exact div_le_div_of_nonneg_left hratio (by positivity) hpow

theorem roundDiv_spec (num den : Nat) : num / den ≤ roundDiv num den ∧ roundDiv num den ≤ num / den + 1 := by
  unfold roundDiv
  dsimp only
  split
  · omega
  · split
    · omega
    · split <;> omega

/-- The mantissa of a fraction is that of a double, unless it was rounded to the next power of two. -/
theorem roundDiv_bounds {n d : Nat} (hd : 0 < d) (hhigh : (n : ℚ) / d < 2 ^ 53) :
    roundDiv n d ≤ 2 ^ 53 ∧ ((2 : ℚ) ^ 52 ≤ n / d → 2 ^ 52 ≤ roundDiv n d) := by
  obtain ⟨hlow, hnext⟩ := roundDiv_spec n d
  have hdQ : (0 : ℚ) < d := by exact_mod_cast hd
  constructor
  · have hlt : n < 2 ^ 53 * d := by exact_mod_cast (div_lt_iff₀ hdQ).mp hhigh
    have hdiv : n / d < 2 ^ 53 := Nat.div_lt_of_lt_mul (by rwa [mul_comm] at hlt)
    omega
  · intro hmin
    have hle : 2 ^ 52 * d ≤ n := by exact_mod_cast (le_div_iff₀ hdQ).mp hmin
    exact ((Nat.le_div_iff_mul_le hd).mpr hle).trans hlow

theorem canonical_signedZero (negative : Bool) : Canonical (signedZero negative) :=
  ⟨by norm_num, le_rfl, fun _ => rfl⟩

/-- The double nearest to a fraction has its one form. -/
theorem canonical_ofRatio (negative : Bool) (num : Nat) (hden : 0 < den) : Canonical (ofRatio negative num den) := by
  unfold ofRatio
  split
  · exact canonical_signedZero negative
  · rename_i hnum
    have hnum : 0 < num := Nat.pos_of_ne_zero (by simpa using hnum)
    obtain ⟨hhigh, hleast, hlow⟩ := exponentOf_spec hnum hden
    obtain ⟨hd, hscaled⟩ := @scaleDown_spec num den hden (exponentOf num den)
    rw [← hscaled] at hhigh hlow
    obtain ⟨hmax, hmin⟩ := roundDiv_bounds hd hhigh
    replace hmin : exponentOf num den ≠ -1074 → 2 ^ 52 ≤ roundDiv _ _ := fun hne => hmin (hlow hne)
    dsimp only
    generalize roundDiv _ _ = m at hmax hmin
    generalize exponentOf num den = e at hleast hmin
    split
    · dsimp only
      split
      · trivial
      · exact ⟨by norm_num, by omega, fun hlt => absurd hlt (by norm_num)⟩
    · rename_i hne
      have hlt : m < 2 ^ 53 := lt_of_le_of_ne hmax (by simpa using hne)
      dsimp only
      split
      · trivial
      · exact ⟨hlt, hleast, fun hsmall => by_contra fun hne => absurd (hmin hne) (not_le.mpr hsmall)⟩

/-- The double nearest to a decimal has its one form. -/
theorem canonical_ofDecimal (negative : Bool) (digits : Nat) (exponent : Int) :
    Canonical (ofDecimal negative digits exponent) := by
  unfold ofDecimal
  split
  · exact canonical_signedZero negative
  · dsimp only
    split
    · trivial
    · split
      · exact canonical_signedZero negative
      · split
        · exact canonical_ofRatio negative _ one_pos
        · exact canonical_ofRatio negative _ (Nat.pow_pos (by decide))

theorem canonical_ofInt (n : Int) : Canonical (ofInt n) :=
  canonical_ofRatio _ _ one_pos

end KubeManifest.Binary64
