/-!
# Sets of characters given by ranges

* `CharSet` : a set of code points as a sorted list of closed ranges;
* `CharSet.ofHex` : reads the written form `30-39 5F 660-669`, hexadecimal and separated by blanks;
* `CharSet.contains` : membership;
* `Text.Letters.words` : what holds of the words of a written form, checked for the characters that it is written with.
  Texts put together are taken apart before, since their characters do not compute.
-/

namespace KubeManifest

/-- A set of code points, as closed ranges. -/
structure CharSet where
  ranges : List (Nat × Nat)

namespace CharSet

/-- The value of a hexadecimal digit; other characters count as zero. -/
def hexDigit (c : Char) : Nat :=
  if '0' ≤ c ∧ c ≤ '9' then c.toNat - '0'.toNat
  else if 'A' ≤ c ∧ c ≤ 'F' then c.toNat - 'A'.toNat + 10
  else if 'a' ≤ c ∧ c ≤ 'f' then c.toNat - 'a'.toNat + 10
  else 0

def hexNumber (digits : List Char) : Nat :=
  digits.foldl (fun n c => 16 * n + hexDigit c) 0

def decimalNumber (digits : List Char) : Nat :=
  digits.foldl (fun n c => 10 * n + hexDigit c) 0

/-- One written range: `5F` or `30-39`. -/
def range (word : List Char) : Nat × Nat :=
  match word.span (· != '-') with
  | (lo, _ :: hi) => (hexNumber lo, hexNumber hi)
  | (lo, []) => (hexNumber lo, hexNumber lo)

/-- The non-empty words of a text, separated by spaces. -/
def words (text : String) : List (List Char) :=
  (text.toList.splitOn ' ').filter (! ·.isEmpty)

/-- The set written as ranges of hexadecimal code points. -/
def ofHex (text : String) : CharSet :=
  ⟨(words text).map range⟩

def contains (s : CharSet) (c : Char) : Bool :=
  s.ranges.any fun (lo, hi) => lo ≤ c.toNat && c.toNat ≤ hi

theorem contains_iff {s : CharSet} {c : Char} :
    s.contains c = true ↔ ∃ r ∈ s.ranges, r.1 ≤ c.toNat ∧ c.toNat ≤ r.2 := by
  simp [contains]

end CharSet

/-! ## Written forms -/

namespace Text

structure Letters (s : String) (cs : List Char) : Prop where
  toList : s.toList = cs

theorem Letters.ofList (cs : List Char) : Letters (String.ofList cs) cs :=
  ⟨String.toList_ofList⟩

theorem Letters.append {s t : String} {cs ds : List Char} (hs : Letters s cs) (ht : Letters t ds) :
    Letters (s ++ t) (cs ++ ds) :=
  ⟨by rw [String.toList_append, hs.toList, ht.toList]⟩

/-- What is checked for the words that some characters spell. -/
theorem Letters.words {P : List (List Char) → Prop} {s : String} {cs : List Char} (h : Letters s cs)
    (hcs : P ((cs.splitOn ' ').filter (! ·.isEmpty))) : P (CharSet.words s) := by
  rw [CharSet.words, h.toList]
  exact hcs

end Text

end KubeManifest
