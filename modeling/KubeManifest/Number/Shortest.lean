import KubeManifest.Number.Binary64

/-!
# The decimal text of a double

* `Binary64.shortest` : the decimal of fewest digits that reads back as the number, and of those the
  nearest to it;
* `Binary64.text` : that decimal as text. From `1e16` up and below `1e-4` it has an exponent of two
  digits at least; otherwise there is a digit on each side of the point;
* `Binary64.fixed`, `Binary64.scientific` : the text with a given number of places, exact and rounded
  half to even.
-/

namespace KubeManifest.Binary64

def decimalDigits (n : Nat) : List Char :=
  Nat.toDigits 10 n

/-- Factors that compare `k * 10 ^ grid` with `x * 2 ^ exponent`: the first is smaller exactly when
`k * a < x * b`. -/
def commonScale (grid exponent : Int) : Nat × Nat :=
  (Nat.pow 10 grid.toNat * Nat.pow 2 (-exponent).toNat, Nat.pow 2 exponent.toNat * Nat.pow 10 (-grid).toNat)

/-- Whether `mantissa * 2 ^ exponent` is below `10 ^ power`. -/
def belowPower (mantissa : Nat) (exponent power : Int) : Bool :=
  let (a, b) := commonScale power exponent
  mantissa * b < a

/-- The digits that a positive number has before the point, negative when zeros follow the point. -/
def pointOf (mantissa : Nat) (exponent : Int) : Int :=
  let guess := ((mantissa.log2 : Int) + exponent) * 30103 / 100000
  if belowPower mantissa exponent guess then guess
  else if belowPower mantissa exponent (guess + 1) then guess + 1
  else guess + 2

/-- The point of the grid `10 ^ grid` that rounds to the number and lies nearest to it, if any does.
Of two equally near ones the even one counts. -/
def gridPoint? (mantissa : Nat) (exponent grid : Int) : Option Nat :=
  let (a, b) := commonScale grid (exponent - 2)
  let value := 4 * mantissa * b
  let below := if mantissa == Nat.pow 2 52 && exponent > -1074 then 1 else 2
  let low := (4 * mantissa - below) * b
  let high := (4 * mantissa + 2) * b
  let inside (k : Nat) : Bool :=
    if mantissa % 2 == 0 then low ≤ k * a && k * a ≤ high else low < k * a && k * a < high
  let k := value / a
  match inside k, inside (k + 1) with
  | true, true =>
    let down := value - k * a
    let up := (k + 1) * a - value
    some (if down < up then k else if up < down then k + 1 else if k % 2 == 0 then k else k + 1)
  | true, false => some k
  | false, true => some (k + 1)
  | false, false => none

/-- The first grid that has a point, of those with `digits` digits, `digits + 1` and so on. -/
def shortestFrom (mantissa : Nat) (exponent point : Int) (digits : Nat) : Nat → Nat × Int
  | 0 => (0, 0)
  | tries + 1 =>
    match gridPoint? mantissa exponent (point - digits) with
    | some k => (k, point - digits)
    | none => shortestFrom mantissa exponent point (digits + 1) tries

/-- The decimal `k * 10 ^ grid` of fewest digits that reads back as a positive number. -/
def shortest (mantissa : Nat) (exponent : Int) : Nat × Int :=
  shortestFrom mantissa exponent (pointOf mantissa exponent) 1 17

/-- The text of an exponent of ten: its sign and two digits at least. -/
def exponentText (e : Int) : List Char :=
  let ds := decimalDigits e.natAbs
  (if e < 0 then '-' else '+') :: (List.replicate (2 - ds.length) '0' ++ ds)

/-- The text of a positive decimal, given by its digits and the place of the point among them. -/
def decimalText (digits : List Char) (point : Int) : List Char :=
  if point ≤ -4 ∨ point > 16 then
    let fraction := digits.drop 1
    digits.take 1 ++ (if fraction.isEmpty then [] else '.' :: fraction) ++
      'e' :: exponentText (point - 1)
  else if point ≤ 0 then
    '0' :: '.' :: (List.replicate (-point).toNat '0' ++ digits)
  else
    let whole := digits.take point.toNat
    let fraction := digits.drop point.toNat
    whole ++ List.replicate (point.toNat - digits.length) '0' ++
      '.' :: (if fraction.isEmpty then ['0'] else fraction)

/-- The digits of the shortest decimal, without zeros at the end, and the place of the point. -/
def shortestDigits (mantissa : Nat) (exponent : Int) : List Char × Int :=
  let (k, grid) := shortest mantissa exponent
  let ds := decimalDigits k
  ((ds.reverse.dropWhile (· == '0')).reverse, grid + ds.length)

def text : Binary64 → String
  | notANumber => "nan"
  | infinite negative => if negative then "-inf" else "inf"
  | finite negative m e =>
    let body :=
      if m == 0 then ['0', '.', '0']
      else
        let (digits, point) := shortestDigits m e
        decimalText digits point
    String.ofList (if negative then '-' :: body else body)

def fixedRatio (num den places : Nat) : List Char :=
  let ds := decimalDigits (roundDiv (num * Nat.pow 10 places) den)
  let ds := List.replicate (places + 1 - ds.length) '0' ++ ds
  let whole := ds.take (ds.length - places)
  if places == 0 then whole else whole ++ '.' :: ds.drop (ds.length - places)

/-- The absolute value of a finite number with a fixed number of places. -/
def fixed (x : Binary64) (places : Nat) : List Char :=
  match x.magnitude with
  | some (num, den) => fixedRatio num den places
  | none => []

/-- The absolute value of a finite number with one digit before the point and `places` after it, and
its exponent of ten. -/
def scientific (x : Binary64) (places : Nat) : List Char × Int :=
  match x with
  | finite _ m e =>
    if m == 0 then ('0' :: List.replicate places '0', 0)
    else
      let point := pointOf m e
      let (a, b) := commonScale (point - 1 - places) e
      let ds := decimalDigits (roundDiv (m * b) a)
      if ds.length > places + 1 then (ds.take (places + 1), point) else (ds, point - 1)
  | _ => ([], 0)

end KubeManifest.Binary64
