import KubeManifest.Value.Display

/-!
# Writing JSON

`Json.render?` writes a value with two blanks per level. Characters of every script stand for
themselves, moments are written as their text, and keys that are numbers, truth values or null become
texts. A value with another key that is no text has no JSON. Whole numbers are written in full, as by
`Value.display`.
-/

namespace KubeManifest.Json

def stringChar (c : Char) : List Char :=
  if c == '"' then ['\\', '"']
  else if c == '\\' then ['\\', '\\']
  else if c == '\n' then ['\\', 'n']
  else if c == '\r' then ['\\', 'r']
  else if c == '\t' then ['\\', 't']
  else if c == '\x08' then ['\\', 'b']
  else if c == '\x0c' then ['\\', 'f']
  else if c.toNat < 0x20 then '\\' :: 'u' :: Text.hexPadded 4 c.toNat
  else [c]

def string (s : String) : String :=
  String.ofList ('"' :: s.toList.flatMap stringChar ++ ['"'])

def float : Binary64 → String
  | .notANumber => "NaN"
  | .infinite negative => if negative then "-Infinity" else "Infinity"
  | x => x.text

/-- A truth value; one that has a name counts as a number. -/
def truth (b : Bool) (mark : Option Mark) : String :=
  if (mark.bind (·.anchor)).isSome then (if b then "1" else "0")
  else if b then "true" else "false"

def scalar (s : Scalar) (mark : Option Mark) : String :=
  match s with
  | .null => "null"
  | .bool b => truth b mark
  | .int n _ => toString n
  | .float x _ => float x
  | .text s _ => string s
  | .moment m style => string (m.display style)

def key? : Value → Option String
  | .scalar (.text s _) _ => some (string s)
  | .scalar (.moment _ _) _ => none
  | .scalar s mark => some (string (scalar s mark))
  | _ => none

def margin (depth : Nat) : String :=
  String.ofList (List.replicate (2 * depth) ' ')

/-- Parts between brackets, one on a line. -/
def block (opening closing : String) (depth : Nat) (parts : List String) : String :=
  if parts.isEmpty then opening ++ closing
  else
    let lines := parts.map fun part => margin (depth + 1) ++ part
    opening ++ "\n" ++ ",\n".intercalate lines ++ "\n" ++ margin depth ++ closing

mutual

def render? : Nat → Value → Option String
  | _, .scalar s mark => some (scalar s mark)
  | depth, .list items _ => (renderItems? (depth + 1) items).map (block "[" "]" depth)
  | depth, .map fs _ => (renderEntries? (depth + 1) fs).map (block "\x7b" "\x7d" depth)

def renderItems? : Nat → List Value → Option (List String)
  | _, [] => some []
  | depth, x :: xs => do return (← render? depth x) :: (← renderItems? depth xs)

def renderEntries? : Nat → List (Value × Value) → Option (List String)
  | _, [] => some []
  | depth, (k, v) :: fs => do
    let name ← key? k
    let value ← render? depth v
    return (name ++ ": " ++ value) :: (← renderEntries? depth fs)

end

def render (v : Value) : Option String :=
  render? 0 v

end KubeManifest.Json
