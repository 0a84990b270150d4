import KubeManifest.Number.Integer
import KubeManifest.Value.Basic

/-!
# Reading JSON

* `Json.read` : the value that a text stands for. White space is the space, tab, line feed and carriage
  return; `NaN`, `Infinity` and `-Infinity` are numbers; of two entries with one name the last value
  counts, in the first place;
* `Json.Problem` : what is wrong with a text, and where; `Json.Problem.message` says it by line, column
  and offset.
-/

namespace KubeManifest.Json

inductive Fault
  | expectedValue
  | expectedName
  | expectedColon
  | expectedComma
  | extraData
  | unterminated
  | controlCharacter
  | badEscape
  | badUnicodeEscape
  | byteOrderMark
  | tooManyDigits
  | noCharacter
deriving DecidableEq, Repr

/-- A fault and the number of characters before it. -/
structure Problem where
  fault : Fault
  position : Nat
deriving DecidableEq, Repr

/-- A place in a text: the characters before it by number, and those after it. -/
structure Cursor where
  position : Nat
  rest : List Char

namespace Cursor

def advance (c : Cursor) (n : Nat) : Cursor :=
  ⟨c.position + n, c.rest.drop n⟩

def isSpace (c : Char) : Bool :=
  c == ' ' || c == '\t' || c == '\n' || c == '\r'

def skipSpace (c : Cursor) : Cursor :=
  c.advance (c.rest.takeWhile isSpace).length

def fail {α : Type} (c : Cursor) (fault : Fault) : Except Problem α :=
  .error ⟨fault, c.position⟩

end Cursor

/-! ## Strings -/

/-- The value of four hexadecimal digits. -/
def hex4? (cs : List Char) : Option Nat :=
  let digit? (c : Char) : Option Nat :=
    if c.isDigit then some (c.toNat - '0'.toNat)
    else if 'a' ≤ c && c ≤ 'f' then some (c.toNat - 'a'.toNat + 10)
    else if 'A' ≤ c && c ≤ 'F' then some (c.toNat - 'A'.toNat + 10)
    else none
  match cs with
  | a :: b :: c :: d :: _ => do
    return (((← digit? a) * 16 + (← digit? b)) * 16 + (← digit? c)) * 16 + (← digit? d)
  | _ => none

/-- The character of a code point, which half of a pair alone lacks. -/
def codePoint? (n : Nat) : Option Char :=
  if 0xD800 ≤ n && n < 0xE000 then none else some (Char.ofNat n)

/-- The character that a letter after a backslash stands for. -/
def escape? : Char → Option Char
  | '"' => some '"'
  | '\\' => some '\\'
  | '/' => some '/'
  | 'b' => some '\x08'
  | 'f' => some '\x0c'
  | 'n' => some '\n'
  | 'r' => some '\r'
  | 't' => some '\t'
  | _ => none

/-- An escape by code point at the place after its `u`: its character, and its length without the
backslash and the `u`. Two halves of a pair make one character. A text may not end with an escape. -/
def unicodeEscape (position : Nat) (cs : List Char) : Except Problem (Char × Nat) :=
  let bad (place : Nat) : Except Problem (Char × Nat) := .error ⟨.badUnicodeEscape, place⟩
  let single (n : Nat) : Except Problem (Char × Nat) :=
    match codePoint? n with
    | some c => .ok (c, 4)
    | none => .error ⟨.noCharacter, position - 1⟩
  match hex4? cs, cs.drop 4 with
  | _, [] => bad (position - 1)
  | none, _ => bad (position - 1)
  | some high, '\\' :: 'u' :: rest =>
    if 0xD800 ≤ high && high < 0xDC00 && rest.length > 4 then
      match hex4? rest with
      | none => bad (position + 5)
      | some low =>
        if 0xDC00 ≤ low && low < 0xE000 then
          .ok (Char.ofNat (0x10000 + (high - 0xD800) * 0x400 + (low - 0xDC00)), 10)
        else single high
    else single high
  | some n, _ => single n

/-- Reads the characters of a string whose quote stands at `start`. The characters before the first
`skip` ones have been read with an escape. -/
def readChars (start : Nat) : Nat → Nat → List Char → List Char → Except Problem (String × Cursor)
  | _, _, _, [] => .error ⟨.unterminated, start⟩
  | position, skip + 1, acc, _ :: cs => readChars start (position + 1) skip acc cs
  | position, 0, acc, '"' :: cs => .ok (String.ofList acc.reverse, ⟨position + 1, cs⟩)
  | position, 0, acc, '\\' :: cs =>
    match cs with
    | [] => .error ⟨.unterminated, start⟩
    | 'u' :: digits =>
      match unicodeEscape (position + 2) digits with
      | .error p => .error p
      | .ok (c, length) => readChars start (position + 1) (length + 1) (c :: acc) cs
    | e :: _ =>
      match escape? e with
      | none => .error ⟨.badEscape, position⟩
      | some c => readChars start (position + 1) 1 (c :: acc) cs
  | position, 0, acc, c :: cs =>
    if c.toNat < 0x20 then .error ⟨.controlCharacter, position⟩
    else readChars start (position + 1) 0 (c :: acc) cs

def readString (c : Cursor) : Except Problem (String × Cursor) :=
  readChars c.position (c.position + 1) 0 [] (c.rest.drop 1)

/-! ## Numbers and words -/

/-- The decimal digits of ASCII that a text begins with. -/
def digits (cs : List Char) : List Char :=
  cs.takeWhile Char.isDigit

def number (ds : List Char) : Nat :=
  ds.foldl (fun n c => 10 * n + (c.toNat - '0'.toNat)) 0

def readNumber (c : Cursor) : Except Problem (Value × Cursor) :=
  let negative := c.rest.head? == some '-'
  let start := if negative then c.advance 1 else c
  let whole := match start.rest with
    | '0' :: _ => ['0']
    | cs => digits cs
  if whole.isEmpty then c.fail .expectedValue
  else
    let afterWhole := start.advance whole.length
    let fraction := match afterWhole.rest with
      | '.' :: cs => digits cs
      | _ => []
    let afterFraction :=
      if fraction.isEmpty then afterWhole else afterWhole.advance (fraction.length + 1)
    let exponent : Option (Int × Nat) := match afterFraction.rest with
      | e :: cs =>
        if e == 'e' || e == 'E' then
          let sign := match cs with
            | '-' :: _ => ['-']
            | '+' :: _ => ['+']
            | _ => []
          let ds := digits (cs.drop sign.length)
          if ds.isEmpty then none
          else
            let n : Int := number ds
            some (if sign == ['-'] then -n else n, 1 + sign.length + ds.length)
        else none
      | [] => none
    if fraction.isEmpty && exponent.isNone then
      if whole.length > Number.maxDigits then c.fail .tooManyDigits
      else
        let n : Int := number whole
        .ok (.ofInt (if negative then -n else n), afterWhole)
    else
      let (e, length) := exponent.getD (0, 0)
      let x := Binary64.ofDecimal negative (number (whole ++ fraction)) (e - fraction.length)
      .ok (.scalar (.float x none) none, afterFraction.advance length)

def words : List (List Char × Value) :=
  [("null".toList, .null), ("true".toList, .ofBool true), ("false".toList, .ofBool false),
    ("NaN".toList, .scalar (.float .notANumber none) none),
    ("Infinity".toList, .scalar (.float (.infinite false) none) none),
    ("-Infinity".toList, .scalar (.float (.infinite true) none) none)]

def readAtom (c : Cursor) : Except Problem (Value × Cursor) :=
  match words.find? fun (w, _) => w.isPrefixOf c.rest with
  | some (w, v) => .ok (v, c.advance w.length)
  | none => readNumber c

/-! ## Values -/

mutual

/-- Reads a value. The first argument bounds the depth; the length of the text is enough. -/
def readValue : Nat → Cursor → Except Problem (Value × Cursor)
  | 0, c => c.fail .expectedValue
  | fuel + 1, c =>
    match c.rest with
    | '"' :: _ => do
      let (s, c) ← readString c
      return (.ofString s, c)
    | '[' :: _ =>
      let c := (c.advance 1).skipSpace
      if c.rest.head? == some ']' then .ok (.ofList [], c.advance 1) else readItems fuel [] c
    | '\x7b' :: _ =>
      let c := (c.advance 1).skipSpace
      if c.rest.head? == some '\x7d' then .ok (.ofFields [], c.advance 1) else readEntries fuel [] c
    | _ => readAtom c

/-- Reads the items of a list from one on; those before it are given in reverse. -/
def readItems : Nat → List Value → Cursor → Except Problem (Value × Cursor)
  | 0, _, c => c.fail .expectedValue
  | fuel + 1, acc, c => do
    let (v, c) ← readValue fuel c
    let c := c.skipSpace
    match c.rest.head? with
    | some ']' => return (.ofList (v :: acc).reverse, c.advance 1)
    | some ',' => readItems fuel (v :: acc) (c.advance 1).skipSpace
    | _ => c.fail .expectedComma

def readEntries : Nat → Fields → Cursor → Except Problem (Value × Cursor)
  | 0, _, c => c.fail .expectedValue
  | fuel + 1, fs, c => do
    if c.rest.head? != some '"' then c.fail .expectedName
    else
      let (name, c) ← readString c
      let c := c.skipSpace
      if c.rest.head? != some ':' then c.fail .expectedColon
      else
        let (v, c) ← readValue fuel (c.advance 1).skipSpace
        let c := c.skipSpace
        let fs := Fields.set fs name v
        match c.rest.head? with
        | some '\x7d' => return (.ofFields fs, c.advance 1)
        | some ',' => readEntries fuel fs (c.advance 1).skipSpace
        | _ => c.fail .expectedComma

end

def read (cs : List Char) : Except Problem Value :=
  if cs.head? == some '\ufeff' then .error ⟨.byteOrderMark, 0⟩
  else do
    let (v, c) ← readValue (2 * cs.length + 2) (Cursor.mk 0 cs).skipSpace
    let c := c.skipSpace
    if c.rest.isEmpty then return v else c.fail .extraData

/-! ## Messages -/

def Fault.message : Fault → String
  | expectedValue => "Expecting value"
  | expectedName => "Expecting property name enclosed in double quotes"
  | expectedColon => "Expecting ':' delimiter"
  | expectedComma => "Expecting ',' delimiter"
  | extraData => "Extra data"
  | unterminated => "Unterminated string starting at"
  | controlCharacter => "Invalid control character at"
  | badEscape => "Invalid \\escape"
  | badUnicodeEscape => "Invalid \\uXXXX escape"
  | byteOrderMark => "Unexpected UTF-8 BOM (decode using utf-8-sig)"
  | tooManyDigits => "Exceeds the limit for integer string conversion"
  | noCharacter => "No character has this code point"

/-- A problem by its wording, line, column and offset in a text. -/
def Problem.message (p : Problem) (cs : List Char) : String :=
  let before := cs.take p.position
  let line := before.count '\n' + 1
  let column := (before.reverse.takeWhile (· != '\n')).length + 1
  p.fault.message ++ ": line " ++ toString line ++ " column " ++ toString column ++
    " (char " ++ toString p.position ++ ")"

end KubeManifest.Json
