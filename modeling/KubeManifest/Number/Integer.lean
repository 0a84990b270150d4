import KubeManifest.Text.Blank
import KubeManifest.Text.Digit

/-!
# Whole numbers in text

* `Number.digitsValue` : the number that a row of decimal digits stands for;
* `Number.readInteger` : a sign and decimal digits of any script, with white space around them and
  single underscores between the digits. More than 4300 digits are refused.
-/

namespace KubeManifest.Number

/-- The most digits that a whole number may have in text. -/
def maxDigits : Nat := 4300

/-- The digits of a number with single underscores between them, as values. -/
def groupedDigits : List Char → Option (List Nat)
  | [] => none
  | [c] => (Text.digitValue? c).map ([·])
  | c :: '_' :: cs => do return (← Text.digitValue? c) :: (← groupedDigits cs)
  | c :: cs => do return (← Text.digitValue? c) :: (← groupedDigits cs)

def digitsValue (ds : List Nat) : Nat :=
  ds.foldl (fun n d => 10 * n + d) 0

/-- The whole number that a text without a sign stands for. -/
def readNatural (cs : List Char) : Option Nat := do
  let ds ← groupedDigits cs
  if ds.length > maxDigits then none else some (digitsValue ds)

/-- White space that may stand around a number: that of texts but the four separators of ASCII. -/
def isMargin (c : Char) : Bool :=
  Text.isBlank c && !(28 ≤ c.toNat && c.toNat ≤ 31)

/-- A text without the white space that may stand around a number. -/
def trim (cs : List Char) : List Char :=
  ((cs.dropWhile isMargin).reverse.dropWhile isMargin).reverse

/-- The whole number that a text stands for. -/
def readInteger (s : String) : Option Int :=
  match trim s.toList with
  | '-' :: cs => (readNatural cs).map fun n => -(n : Int)
  | '+' :: cs => (readNatural cs).map Int.ofNat
  | cs => (readNatural cs).map Int.ofNat

end KubeManifest.Number
