import KubeManifest.Number.Integer
import KubeManifest.Text.CharSet
import KubeManifest.Yaml.Schema

/-!
# The values of scalars

* `Yaml.Fault` : the ways in which a text fails to stand for values;
* `Scalar.readInt`, `Scalar.readFloat`, `Scalar.readMoment` : numbers and moments, with the way they
  were written;
* `Scalar.read` : the value of any scalar, by its quotes and its text.

Where nothing is to be written the same way again, `Scalar.unstyled` drops what was kept for that.
-/

namespace KubeManifest

namespace Yaml

/-- The ways in which a text fails to stand for values: it is not YAML, a number or a moment does not
exist, a number has no digits, a value contains itself, or a key has parts that no key may have. -/
inductive Fault
  | malformed
  | badScalar
  | noDigits
  | endless
  | badKey
  | noCharacter
deriving DecidableEq, Repr

end Yaml

namespace Scalar

open Yaml (Fault Version Schema.splitSign)

/-! ## Whole numbers -/

def digitsIn (base : Nat) (ds : List Char) : Nat :=
  ds.foldl (fun n c => base * n + CharSet.hexDigit c) 0

/-- The number that groups of digits stand for, each group counting sixty times the next. -/
def sexagesimal (cs : List Char) : Nat :=
  (cs.splitOn ':').foldl (fun n part => 60 * n + digitsIn 10 part) 0

/-- The underscores of a written number. Those at the end do not count as places between digits. -/
def groupingOf (hasBase : Bool) (cs : List Char) : Option Grouping :=
  let kept := cs.reverse.dropWhile (· == '_')
  if kept.contains '_' then
    let digits := if hasBase then cs.drop 2 else cs
    some {
      size := (kept.takeWhile (· != '_')).length
      leading := hasBase && digits.head? == some '_'
      trailing := digits.length > 1 && digits.getLast? == some '_' }
  else none

/-- The radix of hexadecimal digits, by the case of the first letter among them. -/
def hexRadix (ds : List Char) : Radix :=
  if (ds.find? (! ·.isDigit)).any Char.isUpper then .hexCapital else .hex

/-- A number with a base of its own. Digits that begin with zero keep their width. -/
def readBased (hasWidth : Bool) (negative : Bool) (base : Nat) (radix : Radix) (cs ds : List Char) :
    Except Fault Scalar :=
  match ds with
  | [] => .error .noDigits
  | first :: _ =>
    let n : Int := digitsIn base ds
    let width := if hasWidth && first == '0' then some ds.length else none
    .ok (.int (if negative then -n else n) (some ⟨radix, width, groupingOf true cs⟩))

/-- A whole number. One that has a name keeps that it is written. -/
def readInt (version : Version) (named : Bool) (s : String) : Except Fault Scalar :=
  let cs := s.toList
  let (sign, ds) := Schema.splitSign (cs.filter (· != '_'))
  let negative := sign == some '-'
  let modern := version == .v12
  let value (n : Nat) : Int := if negative then -(n : Int) else n
  if ds == ['0'] then .ok (.int 0 none)
  else
    match ds with
    | [] => .error .noDigits
    | '0' :: 'b' :: ds => readBased modern negative 2 .binary cs ds
    | '0' :: 'x' :: ds => readBased modern negative 16 (hexRadix ds) cs ds
    | '0' :: 'o' :: ds => readBased modern negative 8 .octal cs ds
    | first :: _ =>
      if !modern && first == '0' && ds.all Char.isDigit then
        .ok (.int (value (digitsIn 8 ds)) (some ⟨.octal, none, groupingOf true cs⟩))
      else if !modern && ds.contains ':' then .ok (.int (value (sexagesimal ds)) none)
      else if !ds.all Char.isDigit || ds.length > Number.maxDigits then .error .badScalar
      else
        let grouping := groupingOf false cs
        let width := if modern && first == '0' then some ds.length else none
        let styled := width.isSome || grouping.isSome || named
        .ok (.int (value (digitsIn 10 ds)) (if styled then some ⟨.decimal, width, grouping⟩ else none))

/-! ## Floating-point numbers -/

/-- The number of zeros before the first other digit of a mantissa without a sign. -/
def leadingZeros (mantissa : List Char) : Nat :=
  (mantissa.takeWhile fun c => c == '0' || c == '.').count '0'

/-- How a floating-point number was written. -/
def floatStyleOf (cs : List Char) : FloatStyle :=
  let (mantissa, rest) := cs.span fun c => c != 'e' && c != 'E'
  let sign := (Schema.splitSign cs).1
  let point := mantissa.findIdx? (· == '.')
  let zeros := leadingZeros mantissa
  match rest with
  | [] => ⟨mantissa.length, point, sign, zeros, none⟩
  | letter :: exponent =>
    let width := mantissa.length - (if sign.isSome then 1 else 0)
    let signed := (Schema.splitSign exponent).1.isSome
    ⟨width, point, sign, zeros, some ⟨letter, exponent.length, signed⟩⟩

/-- The number that a sign, digits with a point, and an exponent stand for. -/
def floatValue? (cs : List Char) : Option Binary64 :=
  let (sign, cs) := Schema.splitSign (cs.filter (· != '_'))
  let (mantissa, exponent) := cs.span fun c => c != 'e' && c != 'E'
  let (whole, fraction) := mantissa.span (· != '.')
  let digits := whole ++ fraction.drop 1
  let (exponentSign, exponentDigits) := Schema.splitSign (exponent.drop 1)
  let e : Int := digitsIn 10 exponentDigits
  if digits.isEmpty || !digits.all Char.isDigit then none
  else
    some (.ofDecimal (sign == some '-') (digitsIn 10 digits)
      ((if exponentSign == some '-' then -e else e) - (fraction.drop 1).length))

/-- The number that groups of digits stand for, the last of them with a point. -/
def sexagesimalFloat (negative : Bool) (cs : List Char) : Binary64 :=
  let (whole, fraction) := (cs.filter (· != '_')).span (· != '.')
  let digits := fraction.drop 1
  let scale := Nat.pow 10 digits.length
  .ofRatio negative (sexagesimal whole * scale + digitsIn 10 digits) scale

def readFloat (s : String) : Except Fault Scalar :=
  let cs := s.toList
  let (sign, rest) := Schema.splitSign cs
  let negative := sign == some '-'
  let word := rest.map Char.toLower
  if word == ".inf".toList then .ok (.float (.infinite negative) none)
  else if word == ".nan".toList then .ok (.float .notANumber none)
  else if rest.contains ':' then .ok (.float (sexagesimalFloat negative rest) none)
  else
    match floatValue? cs with
    | some x => .ok (.float x (some (floatStyleOf cs)))
    | none => .error .badScalar

/-! ## Moments -/

/-- The microseconds of a fraction of a second. A seventh digit rounds. -/
def fractionValue (ds : List Char) : Nat :=
  let kept := ds.take 6
  digitsIn 10 kept * Nat.pow 10 (6 - kept.length) + (if (ds[6]?).any ('5' ≤ ·) then 1 else 0)

def zoneOffset : List Char → Int
  | sign :: cs =>
    let (hours, minutes) := cs.span (· != ':')
    let n : Int := (digitsIn 10 hours * 60 + digitsIn 10 (minutes.drop 1)) * 60000000
    if sign == '-' then -n else n
  | [] => 0

def readMoment (s : String) : Except Fault Scalar :=
  match Yaml.Schema.momentParts? s.toList with
  | none => .error .badScalar
  | some parts =>
    let day : Date := ⟨digitsIn 10 parts.year, digitsIn 10 parts.month, digitsIn 10 parts.day⟩
    let (m, style) : Moment × Option MomentStyle := match parts.time with
      | none => (.date day, none)
      | some t =>
        let clock : Clock :=
          ⟨digitsIn 10 t.hour, digitsIn 10 t.minute, digitsIn 10 t.second, fractionValue t.fraction⟩
        let offset :=
          if t.zone.isEmpty then none else if t.zone == ['Z'] then some 0 else some (zoneOffset t.zone)
        (.instant day clock offset,
          if t.marker || !t.zone.isEmpty then some ⟨t.marker, String.ofList t.zone⟩ else none)
    if m.isValid then .ok (.moment m style) else .error .badScalar

/-! ## All scalars -/

/-- The value of a scalar from its tag, its text and its quotes. Of the tags only that of whole numbers
counts. -/
def read (version : Version) (tag : Option String) (named : Bool) (text : String) (style : TextStyle) :
    Except Fault Scalar :=
  if tag == some "!!int" then readInt version named text
  else if style != .plain || tag.isSome then .ok (.text text style)
  else
    match Yaml.Schema.kindOf version text with
    | .null => .ok .null
    | .bool b => .ok (.bool b)
    | .int => readInt version named text
    | .float => readFloat text
    | .moment => readMoment text
    | .merge | .equals | .text => .ok (.text text .plain)

/-- The scalar without the way it was written. -/
def unstyled : Scalar → Scalar
  | int n _ => int n none
  | float x _ => float x none
  | text s _ => text s .plain
  | moment m _ => moment m none
  | s => s

/-- Whether a name that a scalar was given is written again with it. -/
def keepsName : Scalar → Bool
  | null => false
  | bool _ => true
  | int _ style => style.any fun s => s.radix != .decimal || s.width.isNone
  | float _ style => style.isSome
  | text _ _ => true
  | moment _ _ => false

def hasPlace : Scalar → Bool
  | moment _ _ => true
  | _ => false

end Scalar

end KubeManifest
