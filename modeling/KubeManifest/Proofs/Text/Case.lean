import KubeManifest.Text.Case
import Mathlib.Data.Nat.Bitwise

/-!
# Lower case settles

What is in lower case stays as it is. The runs of capitals are checked for this at once: the code points that have a
lower case and those that are one are the bits of two numbers without a common bit.

* `Text.capitals_settled` : no lower case is a capital, or the dash;
* `Text.mem_lowerAfter` : the characters of a text in lower case;
* `Text.lower_lower`, `Text.dash_notMem_lower`, `Text.lower_of_ascii` : texts.
-/

namespace KubeManifest.Text

/-! ## Sets of code points as numbers -/

def bits (ns : List Nat) : Nat :=
  ns.foldr (fun n m => m ||| 2 ^ n) 0

theorem testBit_bits (ns : List Nat) (n : Nat) : (bits ns).testBit n = true ↔ n ∈ ns := by
  induction ns with
  | nil => simp [bits]
  | cons k ns ih =>
    have hcons : bits (k :: ns) = bits ns ||| 2 ^ k := rfl
    rw [hcons, Nat.testBit_or, Bool.or_eq_true, ih, Nat.testBit_two_pow, decide_eq_true_iff, List.mem_cons, or_comm,
      eq_comm]

theorem notMem_of_bits {ms ns : List Nat} (h : bits ms &&& bits ns = 0) {n : Nat} (hn : n ∈ ms) : n ∉ ns := by
  intro hmem
  have hbit := Nat.testBit_and (bits ms) (bits ns) n
  rw [h, Nat.zero_testBit, (testBit_bits ms n).mpr hn, (testBit_bits ns n).mpr hmem] at hbit
  contradiction

/-! ## The runs of capitals -/

def CaseRun.places (r : CaseRun) : List Nat :=
  (List.range' r.first (r.last + 1 - r.first)).filter r.contains

def CaseRun.image (r : CaseRun) (n : Nat) : Nat :=
  Int.toNat (n + r.shift)

theorem CaseRun.mem_places {r : CaseRun} {n : Nat} (h : r.contains n = true) : n ∈ r.places := by
  refine List.mem_filter.mpr ⟨List.mem_range'_1.mpr ?_, h⟩
  simp only [contains, Bool.and_eq_true, decide_eq_true_iff] at h
  omega

/-- What no lower case is: the dash, the two letters with rules of their own, and the capitals. -/
def capitalPlaces (runs : List CaseRun) : List Nat :=
  0x2d :: 0x130 :: 0x3a3 :: (List.range' 0x41 26 ++ runs.flatMap CaseRun.places)

/-- What a lower case is that differs from its capital. Zero stands for what is no code point. -/
def smallPlaces (runs : List CaseRun) : List Nat :=
  0 :: 0x307 :: 0x3c2 :: 0x3c3 :: (List.range' 0x61 26 ++ runs.flatMap fun r => r.places.map r.image)

/-- Runs of capitals that lead to no capital, and not to the dash. -/
def Settled (runs : List CaseRun) : Prop :=
  bits (smallPlaces runs) &&& bits (capitalPlaces runs) = 0

instance (runs : List CaseRun) : Decidable (Settled runs) :=
  inferInstanceAs (Decidable (_ = _))

/-- No lower case is a capital, or the dash. -/
theorem capitals_settled : Settled capitals := by
  unfold capitals
  apply Letters.words (P := fun words => Settled (words.map CaseRun.ofHex))
  · repeat' apply Letters.append
    all_goals apply Letters.ofList
  · decide +kernel

/-! ## Characters -/

structure IsLower (c : Char) : Prop where
  lowerChar_eq : lowerChar c = c
  ne_dotted : c ≠ '\u0130'
  ne_sigma : c ≠ '\u03a3'

theorem isLower_of_notMem {c : Char} (h : c.toNat ∉ capitalPlaces capitals) : IsLower c := by
  have hne : ∀ d : Char, d.toNat ∈ capitalPlaces capitals → c ≠ d := fun d hd heq => h (heq ▸ hd)
  refine ⟨?_, hne _ (by simp [capitalPlaces]), hne _ (by simp [capitalPlaces])⟩
  simp only [capitalPlaces, List.mem_cons, List.mem_append, List.mem_range'_1, List.mem_flatMap, not_or] at h
  obtain ⟨-, -, -, hascii, hruns⟩ := h
  unfold lowerChar
  split
  · unfold Char.toLower
    rw [dif_neg]
    rintro ⟨hle, hge⟩
    have h₁ : 65 ≤ c.toNat := hle
    have h₂ : c.toNat ≤ 90 := hge
    omega
  · have hnone : capitals.find? (·.contains c.toNat) = none := by
      rw [List.find?_eq_none]
      exact fun r hr hc => hruns ⟨r, hr, CaseRun.mem_places hc⟩
    rw [hnone]

/-- A character that differs from its capital is in lower case. -/
theorem isLower_of_mem {c : Char} (h : c.toNat ∈ smallPlaces capitals) : IsLower c ∧ c ≠ '-' := by
  have hnot := notMem_of_bits capitals_settled h
  refine ⟨isLower_of_notMem hnot, ?_⟩
  rintro rfl
  exact hnot (by simp [capitalPlaces])

theorem toNat_toLower {c : Char} : c.toLower = c ∨ (65 ≤ c.toNat ∧ c.toNat ≤ 90 ∧ c.toLower.toNat = c.toNat + 32) := by
  unfold Char.toLower
  split
  · rename_i h
    have h₁ : 65 ≤ c.toNat := h.1
    have h₂ : c.toNat ≤ 90 := h.2
    refine .inr ⟨h₁, h₂, ?_⟩
    change (c.val + 32).toNat = c.val.toNat + 32
    rw [UInt32.toNat_add]
    have h₃ : c.val.toNat ≤ 90 := h.2
    simp
    omega
  · exact .inl rfl

theorem toNat_ofNat (n : Nat) : (Char.ofNat n).toNat = n ∨ (Char.ofNat n).toNat = 0 := by
  by_cases h : n.isValidChar
  · exact .inl (by rw [Char.ofNat, dif_pos h]; rfl)
  · exact .inr (by rw [Char.ofNat, dif_neg h]; rfl)

/-- A character is its own lower case, or has one that is known. -/
theorem lowerChar_cases (c : Char) : lowerChar c = c ∨ (lowerChar c).toNat ∈ smallPlaces capitals := by
  unfold lowerChar
  split
  · refine toNat_toLower.imp_right fun ⟨hge, hle, heq⟩ => ?_
    have hmem : c.toLower.toNat ∈ List.range' 0x61 26 := List.mem_range'_1.mpr (by omega)
    simp [smallPlaces, hmem]
  · split
    · rename_i r hr
      right
      have hcontains := List.find?_some hr
      have himage : r.image c.toNat ∈ smallPlaces capitals := by
        have hmem : r.image c.toNat ∈ capitals.flatMap fun r => r.places.map r.image :=
          List.mem_flatMap.mpr ⟨r, List.mem_of_find?_eq_some hr, List.mem_map_of_mem (CaseRun.mem_places hcontains)⟩
        simp [smallPlaces, hmem]
      rcases toNat_ofNat (r.image c.toNat) with h | h
      · exact h ▸ himage
      · exact h ▸ List.mem_cons_self
    · exact .inl rfl

/-! ## Texts -/

/-- The characters of a text in lower case. -/
theorem mem_lowerAfter {before cs : List Char} {d : Char} (h : d ∈ lowerAfter before cs) :
    d.toNat ∈ smallPlaces capitals ∨ (d ∈ cs ∧ IsLower d) := by
  induction cs generalizing before with
  | nil => cases h
  | cons c cs ih =>
    rw [lowerAfter, List.mem_append] at h
    rcases h with h | h
    · split at h
      · simp only [List.mem_cons, List.not_mem_nil, or_false] at h
        rcases h with rfl | rfl <;> exact .inl (by simp [smallPlaces])
      · rename_i hdotted
        split at h
        · simp only [List.mem_singleton] at h
          subst h
          split <;> exact .inl (by simp [smallPlaces])
        · rename_i hsigma
          obtain rfl := List.mem_singleton.mp h
          refine (lowerChar_cases c).symm.imp_right fun heq => ?_
          rw [heq]
          exact ⟨List.mem_cons_self, heq, by simpa using hdotted, by simpa using hsigma⟩
    · exact (ih h).imp_right fun ⟨hmem, hlower⟩ => ⟨List.mem_cons_of_mem _ hmem, hlower⟩

theorem isLower_of_mem_lowerAfter {before cs : List Char} {d : Char} (h : d ∈ lowerAfter before cs) : IsLower d :=
  (mem_lowerAfter h).elim (fun hmem => (isLower_of_mem hmem).1) And.right

theorem lowerAfter_of_isLower {before cs : List Char} (h : ∀ c ∈ cs, IsLower c) : lowerAfter before cs = cs := by
  induction cs generalizing before with
  | nil => rfl
  | cons c cs ih =>
    obtain ⟨hc, hcs⟩ := List.forall_mem_cons.mp h
    rw [lowerAfter, ih hcs, if_neg (by simpa using hc.ne_dotted), if_neg (by simpa using hc.ne_sigma), hc.lowerChar_eq,
      List.singleton_append]

theorem mem_lowerAfter_of_isLower {before cs : List Char} {c : Char} (hc : IsLower c) (h : c ∈ cs) :
    c ∈ lowerAfter before cs := by
  induction cs generalizing before with
  | nil => cases h
  | cons d cs ih =>
    rw [lowerAfter, List.mem_append]
    rcases List.mem_cons.mp h with rfl | h
    · rw [if_neg (by simpa using hc.ne_dotted), if_neg (by simpa using hc.ne_sigma), hc.lowerChar_eq]
      exact .inl List.mem_cons_self
    · exact .inr (ih h)

@[simp] theorem lower_lower (s : String) : lower (lower s) = lower s := by
  unfold lower
  rw [String.toList_ofList, lowerAfter_of_isLower fun c hc => isLower_of_mem_lowerAfter hc]

/-- No dash comes about. -/
theorem dash_notMem_lower {s : String} (h : '-' ∉ s.toList) : '-' ∉ (lower s).toList := by
  rw [lower, String.toList_ofList]
  intro hmem
  exact (mem_lowerAfter hmem).elim (fun hsmall => (isLower_of_mem hsmall).2 rfl) fun hs => h hs.1

theorem lower_ne_empty {s : String} (h : s ≠ "") : lower s ≠ "" := by
  intro heq
  rw [lower, ← String.toList_eq_nil_iff, String.toList_ofList] at heq
  cases hs : s.toList with
  | nil => exact h (String.toList_eq_nil_iff.mp hs)
  | cons c cs =>
    rw [hs, lowerAfter, List.append_eq_nil_iff] at heq
    obtain ⟨himage, -⟩ := heq
    split at himage
    · cases himage
    · split at himage <;> cases himage

theorem lowerAfter_of_ascii {before cs : List Char} (h : ∀ c ∈ cs, c.toNat < 128) :
    lowerAfter before cs = cs.map Char.toLower := by
  induction cs generalizing before with
  | nil => rfl
  | cons c cs ih =>
    obtain ⟨hc, hcs⟩ := List.forall_mem_cons.mp h
    have hne : ∀ d : Char, 128 ≤ d.toNat → ¬(c == d) = true := by
      intro d hd heq
      rw [beq_iff_eq.mp heq] at hc
      omega
    rw [lowerAfter, ih hcs, if_neg (hne _ (by decide)), if_neg (hne _ (by decide)), lowerChar, if_pos hc,
      List.singleton_append, List.map_cons]

/-- The lower case of a text of letters without accents. -/
theorem lower_of_ascii {s t : String} (h : s.toList.map Char.toLower = t.toList) (ht : ∀ c ∈ t.toList, c.toNat < 128) :
    lower s = t := by
  have hs : ∀ c ∈ s.toList, c.toNat < 128 := by
    intro c hc
    have hlt := ht c.toLower (h ▸ List.mem_map_of_mem hc)
    rcases toNat_toLower (c := c) with heq | ⟨-, -, heq⟩
    · rwa [heq] at hlt
    · omega
  rw [lower, lowerAfter_of_ascii hs, h, String.ofList_toList]

end KubeManifest.Text
