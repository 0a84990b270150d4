import KubeManifest.Number.Integer
import KubeManifest.Proofs.Results
import KubeManifest.Proofs.Text.Blank

/-!
# Decimal digits

* `Text.isBlank_of_isDigit`, `Text.isDigit_of_ascii` : digits are no white space, and those of ASCII are the usual ones;
* `Number.readNatural_toDigits` : a number is read from its decimal digits;
* `Number.readInteger_toDigits` : so it is where a sign and white space could stand as well;
* `Number.readInteger_eq_none_iff` : a text of digits of any script is a number, unless one of them has no place in a
  decimal number or they are too many.
-/

namespace KubeManifest

namespace Number

variable {c : Char}

/-! ## Digits of ASCII -/

theorem toNat_of_isDigit (h : c.isDigit = true) : 48 ≤ c.toNat ∧ c.toNat ≤ 57 := by
  simp only [Char.isDigit, Bool.and_eq_true, decide_eq_true_eq, ge_iff_le, UInt32.le_iff_toNat_le] at h
  exact h

theorem not_isBlank_of_isDigit (h : c.isDigit = true) : Text.isBlank c = false := by
  have hrange := toNat_of_isDigit h
  simp only [Text.isBlank, Bool.or_eq_false_iff, Bool.and_eq_false_iff, decide_eq_false_iff_not, beq_eq_false_iff_ne]
  omega

theorem digitValue?_of_isDigit (h : c.isDigit = true) : Text.digitValue? c = some (c.toNat - '0'.toNat) := by
  have hrange := toNat_of_isDigit h
  rw [Text.digitValue?, if_pos (by omega), if_pos h]

end Number

namespace Text

variable {c : Char}

/-! ## Digits of every script -/

/-- The white space beyond ASCII. -/
def widePlaces : List Nat :=
  [0x85, 0xA0, 0x1680, 0x2028, 0x2029, 0x202F, 0x205F, 0x3000] ++ List.range' 0x2000 11

theorem mem_widePlaces_of_isBlank (h : isBlank c = true) : c.toNat < 128 ∨ c.toNat ∈ widePlaces := by
  simp only [isBlank, Bool.or_eq_true, Bool.and_eq_true, decide_eq_true_eq, beq_iff_eq] at h
  simp only [widePlaces, List.mem_append, List.mem_cons, List.not_mem_nil, or_false, List.mem_range'_1]
  omega

theorem decimalZeros_narrow : ∀ r ∈ decimalZeros.ranges, ∀ n ∈ widePlaces, ¬(r.1 ≤ n ∧ n ≤ r.1 + 9) := by
  unfold decimalZeros CharSet.ofHex
  apply Letters.words (P := fun words => ∀ r ∈ words.map CharSet.range, ∀ n ∈ widePlaces, ¬(r.1 ≤ n ∧ n ≤ r.1 + 9))
  · repeat' apply Letters.append
    all_goals apply Letters.ofList
  · decide +kernel

theorem detachedDigits_narrow :
    ∀ r ∈ detachedDigits.ranges, 128 ≤ r.1 ∧ ∀ n ∈ widePlaces, ¬(r.1 ≤ n ∧ n ≤ r.2) := by
  unfold detachedDigits CharSet.ofHex
  apply Letters.words
    (P := fun words => ∀ r ∈ words.map CharSet.range, 128 ≤ r.1 ∧ ∀ n ∈ widePlaces, ¬(r.1 ≤ n ∧ n ≤ r.2))
  · repeat' apply Letters.append
    all_goals apply Letters.ofList
  · decide +kernel

/-- Among the characters of ASCII there are no other digits. -/
theorem isDigit_of_ascii (h : c.toNat < 128) : isDigit c = c.isDigit := by
  have hdetached : detachedDigits.contains c = false := by
    rw [← Bool.not_eq_true, CharSet.contains_iff]
    rintro ⟨r, hr, hle, -⟩
    have hge := (detachedDigits_narrow r hr).1
    omega
  rw [isDigit, hdetached, digitValue?, if_pos h, Bool.or_false]
  cases c.isDigit <;> rfl

/-- Digits are no white space. -/
theorem isBlank_of_isDigit (h : isDigit c = true) : isBlank c = false := by
  rw [← Bool.not_eq_true]
  intro hblank
  rcases mem_widePlaces_of_isBlank hblank with hascii | hwide
  · rw [isDigit_of_ascii hascii] at h
    rw [Number.not_isBlank_of_isDigit h] at hblank
    contradiction
  · have hge : ∀ n ∈ widePlaces, 128 ≤ n := by decide
    have hnot : ¬c.toNat < 128 := Nat.not_lt.mpr (hge _ hwide)
    rw [isDigit, digitValue?, if_neg hnot, Bool.or_eq_true, Option.isSome_map] at h
    rcases h with hdecimal | hdetached
    · obtain ⟨r, hr⟩ := Option.isSome_iff_exists.mp hdecimal
      have hrange := List.find?_some hr
      simp only [Bool.and_eq_true, decide_eq_true_eq] at hrange
      exact decimalZeros_narrow r (List.mem_of_find?_eq_some hr) _ hwide hrange
    · obtain ⟨r, hr, hrange⟩ := CharSet.contains_iff.mp hdetached
      exact (detachedDigits_narrow r hr).2 _ hwide hrange

theorem ne_of_isDigit {d : Char} (h : isDigit c = true) (hd : d.toNat < 128) (hnot : d.isDigit = false) : c ≠ d := by
  rintro rfl
  rw [isDigit_of_ascii hd, hnot] at h
  contradiction

end Text

namespace Number

variable {cs : List Char} {n : Nat}

/-! ## Numbers -/

theorem groupedDigits_of_isDigit (hne : cs ≠ []) (h : ∀ c ∈ cs, c.isDigit = true) :
    groupedDigits cs = some (cs.map fun c => c.toNat - '0'.toNat) := by
  fun_induction groupedDigits cs with
  | case1 => exact absurd rfl hne
  | case2 c => rw [digitValue?_of_isDigit (h c (by simp))]; rfl
  | case3 c cs ih => exact absurd (h '_' (by simp)) (by decide)
  | case4 c cs hcs hund ih =>
    obtain ⟨hc, hcs'⟩ := List.forall_mem_cons.mp h
    rw [digitValue?_of_isDigit hc, ih (by rintro rfl; exact hcs rfl) hcs']
    rfl

theorem isDigit_of_mem_toDigits : ∀ c ∈ Nat.toDigits 10 n, c.isDigit = true :=
  fun _ hc => Nat.isDigit_of_mem_toDigits (by decide) (by decide) hc

theorem readNatural_toDigits (h : (Nat.toDigits 10 n).length ≤ maxDigits) :
    readNatural (Nat.toDigits 10 n) = some n := by
  have hvalue : digitsValue ((Nat.toDigits 10 n).map fun c => c.toNat - '0'.toNat) = n := by
    rw [digitsValue, List.foldl_map]
    exact Nat.ofDigitChars_ten_toDigits
  rw [readNatural, groupedDigits_of_isDigit Nat.toDigits_ne_nil isDigit_of_mem_toDigits]
  simp only [Option.bind_eq_bind, Option.bind_some, List.length_map]
  rw [if_neg (by omega), hvalue]

theorem trim_eq_self (h : ∀ c ∈ cs, Text.isBlank c = false) : trim cs = cs := by
  have hmargin : ∀ ds : List Char, (∀ c ∈ ds, Text.isBlank c = false) → ds.dropWhile isMargin = ds := by
    intro ds hds
    cases ds with
    | nil => rfl
    | cons d ds =>
      have hd : isMargin d = false := by rw [isMargin, hds d List.mem_cons_self, Bool.false_and]
      exact List.dropWhile_cons_of_neg (Bool.eq_false_iff.mp hd)
  rw [trim, hmargin cs h, hmargin cs.reverse fun c hc => h c (List.mem_reverse.mp hc), List.reverse_reverse]

/-- A number is read from its decimal digits, unless it has too many of them. -/
theorem readInteger_toDigits (h : (Nat.toDigits 10 n).length ≤ maxDigits) :
    readInteger (String.ofList (Nat.toDigits 10 n)) = some (n : Int) := by
  have hdigit := isDigit_of_mem_toDigits (n := n)
  rw [readInteger, String.toList_ofList, trim_eq_self fun c hc => not_isBlank_of_isDigit (hdigit c hc)]
  split
  · rename_i cs hcs
    exact absurd (hdigit '-' (by simp [hcs])) (by decide)
  · rename_i cs hcs
    exact absurd (hdigit '+' (by simp [hcs])) (by decide)
  · rw [readNatural_toDigits h]
    rfl

/-! ## Texts of digits -/

theorem groupedDigits_eq_mapM (hne : cs ≠ []) (h : '_' ∉ cs) : groupedDigits cs = cs.mapM Text.digitValue? := by
  fun_induction groupedDigits cs with
  | case1 => exact absurd rfl hne
  | case2 c => cases hc : Text.digitValue? c <;> simp [hc]
  | case3 c cs ih => simp at h
  | case4 c cs hcs hund ih =>
    rw [List.mapM_cons, ih (by rintro rfl; exact hcs rfl) (by simp at h; exact h.2)]

theorem readNatural_eq_none_iff (hne : cs ≠ []) (h : '_' ∉ cs) :
    readNatural cs = none ↔ (∃ c ∈ cs, Text.digitValue? c = none) ∨ maxDigits < cs.length := by
  rw [readNatural, groupedDigits_eq_mapM hne h]
  cases hds : cs.mapM Text.digitValue? with
  | none =>
    refine iff_of_true rfl (.inl ?_)
    by_contra hall
    simp only [not_exists, not_and] at hall
    obtain ⟨ds, hsome⟩ := exists_mapM_eq_some fun c hc => Option.ne_none_iff_exists'.mp (hall c hc)
    rw [hds] at hsome
    contradiction
  | some ds =>
    have hvalues : ¬∃ c ∈ cs, Text.digitValue? c = none := by
      rintro ⟨c, hc, hnone⟩
      obtain ⟨d, -, hd⟩ := exists_mem_of_mapM_eq_some hds c hc
      rw [hnone] at hd
      contradiction
    rw [or_iff_right hvalues, ← mapM_eq_some_length hds]
    simp

/-- A text of digits is no number exactly if one of them has no place in a decimal number, or they are too many. -/
theorem readInteger_eq_none_iff {s : String} (hne : s ≠ "") (h : ∀ c ∈ s.toList, Text.isDigit c = true) :
    readInteger s = none ↔ (∃ c ∈ s.toList, Text.digitValue? c = none) ∨ maxDigits < s.toList.length := by
  have htrimmed := trim_eq_self fun c hc => Text.isBlank_of_isDigit (h c hc)
  have hunderscore : '_' ∉ s.toList := fun hc => Text.ne_of_isDigit (h _ hc) (by decide) (by decide) rfl
  rw [readInteger, htrimmed, ← readNatural_eq_none_iff (by simpa using hne) hunderscore]
  split
  · rename_i cs hcs
    exact absurd rfl (Text.ne_of_isDigit (h '-' (by simp [hcs])) (by decide) (by decide))
  · rename_i cs hcs
    exact absurd rfl (Text.ne_of_isDigit (h '+' (by simp [hcs])) (by decide) (by decide))
  · exact Option.map_eq_none_iff

end Number

end KubeManifest
