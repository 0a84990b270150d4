import KubeManifest.Number.Shortest
import KubeManifest.Text.Quoted
import KubeManifest.Value.Basic

/-!
# The spelling of numbers and moments

* `IntStyle.spell`, `FloatStyle.spell` : a number written in the way that another one was: its base,
  its width, its underscores, its point and its exponent;
* `Binary64.spell`, `Moment.spell` : a number or moment that was not read from a document.
-/

namespace KubeManifest

/-! ## Whole numbers -/

namespace IntStyle

def digits (radix : Radix) (n : Nat) : List Char :=
  match radix with
  | .decimal => Nat.toDigits 10 n
  | .binary => Nat.toDigits 2 n
  | .octal => Nat.toDigits 8 n
  | .hex => Nat.toDigits 16 n
  | .hexCapital => (Nat.toDigits 16 n).map Char.toUpper

def base : Radix → List Char
  | .decimal => []
  | .binary => ['0', 'b']
  | .octal => ['0', 'o']
  | .hex | .hexCapital => ['0', 'x']

/-- Characters with an underscore before every group of `size`, counted from the end and given in reverse. -/
def group (size : Nat) : Nat → List Char → List Char
  | _, [] => []
  | 0, c :: cs => '_' :: c :: group size (size - 1) cs
  | n + 1, c :: cs => c :: group size n cs

/-- Puts in the underscores of a number, its sign counting as a digit. -/
def insertUnderscores (grouping : Option Grouping) (cs : List Char) : List Char :=
  match grouping with
  | none => cs
  | some g =>
    let grouped := if g.size == 0 then cs else (group g.size g.size cs.reverse).reverse
    (if g.leading then ['_'] else []) ++ grouped ++ (if g.trailing then ['_'] else [])

/-- A number in a style. The sign stands after the base, and the width counts it. -/
def spell (style : IntStyle) (n : Int) : List Char :=
  let ds := digits style.radix n.natAbs
  let sign := if n < 0 then ['-'] else []
  let zeros := (style.width.getD 0) - ds.length - sign.length
  base style.radix ++
    insertUnderscores style.grouping (sign ++ List.replicate zeros '0' ++ ds)

end IntStyle

/-! ## Floating-point numbers -/

namespace FloatStyle

/-- Characters filled up with zeros before them. -/
def padLeft (width : Nat) (cs : List Char) : List Char :=
  List.replicate (width - cs.length) '0' ++ cs

/-- Characters filled up with zeros after them. -/
def padRight (width : Nat) (cs : List Char) : List Char :=
  cs ++ List.replicate (width - cs.length) '0'

/-- The whole part of a number, without sign. -/
def whole (x : Binary64) : Nat :=
  match x.magnitude with
  | some (num, den) => num / den
  | none => 0

def dropZeroBeforePoint : List Char → List Char
  | '0' :: '.' :: cs => '.' :: dropZeroBeforePoint cs
  | c :: cs => c :: dropZeroBeforePoint cs
  | [] => []

def spellPositional (style : FloatStyle) (x : Binary64) : List Char :=
  let sign := style.sign.toList
  let width := style.width - sign.length
  match style.point with
  | none => sign ++ padLeft width (Nat.toDigits 10 (whole x))
  | some point =>
    if point > 0 && point + 1 == style.width then sign ++ Nat.toDigits 10 (whole x) ++ ['.']
    else
      let cs := sign ++ padLeft width (x.fixed (style.width - point - 1))
      let cs :=
        if point == 0 || (point == 1 && !sign.isEmpty) then dropZeroBeforePoint cs else cs
      padRight style.width cs

def spellExponent (style : ExponentStyle) (e : Int) : List Char :=
  let sign := if e < 0 then ['-'] else if style.signed then ['+'] else []
  style.letter :: sign ++ padLeft (style.width - sign.length) (Nat.toDigits 10 e.natAbs)

/-- Moves digits from after the point to before it until there are `point` characters. -/
def movePoint (point : Nat) : List Char → List Char → Int → List Char × List Char × Int
  | before, c :: after, e =>
    if before.length < point then movePoint point (before ++ [c]) after (e - 1)
    else (before, c :: after, e)
  | before, [], e => (before, [], e)

/-- A number with an exponent. Its mantissa gets the width and the point that the style has. -/
def spellScientific (style : FloatStyle) (es : ExponentStyle) (x : Binary64) : List Char :=
  let signed := style.sign.isSome
  let (ds, e) := x.scientific (style.width + (if signed then 1 else 0))
  let minus := if x.isNegative then ['-'] else []
  let limit := (if style.point.any (· > 0) then style.width else style.width + 1) +
    (if x.isNegative && !x.isZero then 1 else 0)
  let mantissa := (minus ++ ds.take 1 ++ '.' :: ds.drop 1).take limit
  let (before, after) := mantissa.span (· != '.')
  let after := after.drop 1
  let least := style.width - (if style.point.isSome then 1 else 0)
  let after := padRight (least - before.length) after
  let before := if signed && !x.isNegative && !x.isZero then '+' :: before else before
  match style.point with
  | none =>
    let (after, e) := if after == ['0'] then ([], e) else (after, e - after.length)
    let missing := style.width + (if signed then 1 else 0) - before.length - after.length
    before ++ after ++ List.replicate missing '0' ++ spellExponent es (e - missing)
  | some 0 => before ++ after ++ '.' :: spellExponent es (e - after.length)
  | some point =>
    let zeros := style.leadingZeros
    let (before, after, e) :=
      if zeros > 0 then
        let all := List.replicate (zeros - 1) '0' ++ before ++ after
        (['0'], all.take (all.length - zeros), e + zeros)
      else (before, after, e)
    let (before, after, e) := movePoint point before after e
    before ++ '.' :: after ++ spellExponent es e

def spell (style : FloatStyle) (x : Binary64) : List Char :=
  match style.exponent with
  | none => spellPositional style x
  | some es => spellScientific style es x

end FloatStyle

/-- A number that has no style, or none that it could be written in. -/
def Binary64.spell (style : Option FloatStyle) : Binary64 → List Char
  | .notANumber => ".nan".toList
  | .infinite negative => (if negative then "-.inf" else ".inf").toList
  | x =>
    match style with
    | some style => style.spell x
    | none => x.text.toList

/-! ## Moments -/

def Moment.spell (style : Option MomentStyle) (m : Moment) : List Char :=
  match style, m with
  | some style, .instant d c _ =>
    (Moment.isoText (if style.marker then "T" else " ") (.instant d c none) ++ style.zone).toList
  | _, m => (m.isoText " ").toList

end KubeManifest
