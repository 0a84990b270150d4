import KubeManifest.Value.Basic
import KubeManifest.Yaml.Token

/-!
# What plain texts stand for

* `Schema.kindOf` : whether a text without quotes is null, a truth value, a number, a moment, the merge
  key, the value key, or just text;
* `Schema.nulls`, `Schema.truth?` : the words for null and for the truth values;
* `Schema.isFloat`, `Schema.isInt` : the written forms of numbers;
* `Schema.momentParts?` : the parts of a date or date-time.

Version 1.1 has more words and forms than 1.2. Of another version nothing is known, and every text is
just text.
-/

namespace KubeManifest.Yaml

namespace Schema

inductive Kind
  | null
  | bool (b : Bool)
  | int
  | float
  | moment
  | merge
  | equals
  | text
deriving DecidableEq, Repr

/-! ## Words -/

def nulls : List String := ["", "~", "null", "Null", "NULL"]

/-- The truth value that a word of version 1.2 stands for. -/
def truth? (s : String) : Option Bool :=
  if ["true", "True", "TRUE"].contains s then some true
  else if ["false", "False", "FALSE"].contains s then some false
  else none

/-- The truth value that a word of version 1.1 stands for. -/
def oldTruth? (s : String) : Option Bool :=
  if ["y", "Y", "yes", "Yes", "YES", "on", "On", "ON"].contains s then some true
  else if ["n", "N", "no", "No", "NO", "off", "Off", "OFF"].contains s then some false
  else truth? s

/-! ## Numbers -/

def splitSign : List Char → Option Char × List Char
  | '-' :: cs => (some '-', cs)
  | '+' :: cs => (some '+', cs)
  | cs => (none, cs)

def isGrouped (c : Char) : Bool :=
  c.isDigit || c == '_'

/-- Whether a text is an exponent: a letter, a sign, and digits. -/
def isExponent (signed : Bool) : List Char → Bool
  | [] => false
  | e :: cs =>
    let (sign, ds) := splitSign cs
    (e == 'e' || e == 'E') && (!signed || sign.isSome) && !ds.isEmpty && ds.all Char.isDigit

/-- Whether a text is digits in groups of two below sixty, each after a colon. -/
def isSexagesimal : List Char → Bool
  | [] => true
  | ':' :: a :: b :: cs =>
    if b.isDigit then '0' ≤ a && a ≤ '5' && isSexagesimal cs
    else a.isDigit && isSexagesimal (b :: cs)
  | [':', a] => a.isDigit
  | _ => false

def isFloat (version : Version) (cs : List Char) : Bool :=
  let (sign, r) := splitSign cs
  let whole := r.takeWhile isGrouped
  let tail := r.drop whole.length
  match whole with
  | [] =>
    match tail with
    | '.' :: t =>
      let fraction := t.takeWhile isGrouped
      let exponent := t.drop fraction.length
      ["inf", "Inf", "INF"].any (·.toList == t) ||
        (sign.isNone && ["nan", "NaN", "NAN"].any (·.toList == t)) ||
        ((version == .v12 || sign.isNone) && !fraction.isEmpty &&
          (exponent.isEmpty || isExponent true exponent))
    | _ => false
  | first :: _ =>
    first.isDigit &&
      match tail with
      | '.' :: t =>
        let exponent := t.dropWhile isGrouped
        exponent.isEmpty || isExponent false exponent
      | ':' :: _ =>
        version == .v11 &&
          let parts := tail.takeWhile fun c => c == ':' || c.isDigit
          let fraction := tail.drop parts.length
          isSexagesimal parts && fraction.head? == some '.' && (fraction.drop 1).all isGrouped
      | _ => isExponent false tail

/-- Whether all characters, and one at least, have a property. -/
def allOf (p : Char → Bool) (cs : List Char) : Bool :=
  !cs.isEmpty && cs.all p

def isOctal (c : Char) : Bool :=
  ('0' ≤ c && c ≤ '7') || c == '_'

def isHex (c : Char) : Bool :=
  isGrouped c || ('a' ≤ c && c ≤ 'f') || ('A' ≤ c && c ≤ 'F')

def isInt (version : Version) (cs : List Char) : Bool :=
  let r := (splitSign cs).2
  if cs.head? == some '_' then false
  else
    match r with
    | '0' :: 'b' :: t => allOf (fun c => c == '0' || c == '1' || c == '_') t
    | '0' :: 'x' :: t => allOf isHex t
    | '0' :: 'o' :: t => version == .v12 && allOf isOctal t
    | _ =>
      if version == .v12 then allOf isGrouped r
      else
        r == ['0'] || allOf isOctal r || (allOf isGrouped r && r.head?.any fun c => '1' ≤ c && c ≤ '9') ||
          (let whole := r.takeWhile isGrouped
            let parts := r.drop whole.length
            whole.head?.any (fun c => '1' ≤ c && c ≤ '9') && !parts.isEmpty && isSexagesimal parts)

/-! ## Moments -/

structure TimeParts where
  marker : Bool
  hour : List Char
  minute : List Char
  second : List Char
  fraction : List Char
  zone : List Char
deriving DecidableEq, Repr

/-- The parts of a written date or date-time. -/
structure MomentParts where
  year : List Char
  month : List Char
  day : List Char
  time : Option TimeParts
deriving DecidableEq, Repr

def takeDigits? (least most : Nat) (cs : List Char) : Option (List Char × List Char) :=
  let ds := (cs.take most).takeWhile Char.isDigit
  if least ≤ ds.length then some (ds, cs.drop ds.length) else none

def takeChar? (c : Char) : List Char → Option (List Char)
  | d :: cs => if d == c then some cs else none
  | [] => none

def isBlank (c : Char) : Bool :=
  c == ' ' || c == '\t'

/-- Whether a text is a zone: `Z`, or a sign with hours and perhaps minutes. -/
def isZone : List Char → Bool
  | ['Z'] => true
  | sign :: cs =>
    (sign == '+' || sign == '-') &&
      match takeDigits? 1 2 cs with
      | some (_, []) => true
      | some (_, ':' :: ds) => ds.length == 2 && ds.all Char.isDigit
      | _ => false
  | [] => false

/-- The parts of a time of day after a date. -/
def timeParts? (cs : List Char) : Option TimeParts := do
  let marker := cs.head? == some 'T' || cs.head? == some 't'
  let rest ←
    if marker then some (cs.drop 1)
    else if cs.head?.any isBlank then some (cs.dropWhile isBlank)
    else none
  let (hour, rest) ← takeDigits? 1 2 rest
  let (minute, rest) ← takeDigits? 2 2 (← takeChar? ':' rest)
  let (second, rest) ← takeDigits? 2 2 (← takeChar? ':' rest)
  let fraction := match rest with
    | '.' :: ds => ds.takeWhile Char.isDigit
    | _ => []
  let rest := if rest.head? == some '.' then rest.drop (fraction.length + 1) else rest
  let zone := rest.dropWhile isBlank
  if rest.isEmpty || isZone zone then some ⟨marker, hour, minute, second, fraction, zone⟩ else none

/-- The parts of a date or date-time. A date alone has months and days of two digits. -/
def momentParts? (cs : List Char) : Option MomentParts := do
  let (year, rest) ← takeDigits? 4 4 cs
  let (month, rest) ← takeDigits? 1 2 (← takeChar? '-' rest)
  let (day, rest) ← takeDigits? 1 2 (← takeChar? '-' rest)
  if rest.isEmpty then
    if month.length == 2 && day.length == 2 then some ⟨year, month, day, none⟩ else none
  else return ⟨year, month, day, some (← timeParts? rest)⟩

/-! ## All together -/

/-- What a plain text stands for in a version of YAML. -/
def kindOf (version : Version) (s : String) : Kind :=
  let cs := s.toList
  if version == .other then .text
  else
    match if version == .v11 then oldTruth? s else truth? s with
    | some b => .bool b
    | none =>
      if isFloat version cs then .float
      else if isInt version cs then .int
      else if s == "<<" then .merge
      else if nulls.contains s then .null
      else if (momentParts? cs).isSome then .moment
      else if s == "=" then .equals
      else .text

end Schema

end KubeManifest.Yaml
