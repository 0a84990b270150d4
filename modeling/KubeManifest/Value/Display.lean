import KubeManifest.Number.Shortest
import KubeManifest.Text.Quoted
import KubeManifest.Value.Basic

/-!
# Values as text

* `Value.display` : the text of a value on its own; a text stands for itself;
* `Value.quoted` : its text inside another value; texts are quoted;
* `Value.displayKey` : its text as a key, where a list is set in round brackets.
-/

namespace KubeManifest

namespace Moment

/-- A length of time by its days, seconds and microseconds, those that are not zero. -/
def durationText (micros : Int) : String :=
  let days := micros / dayLength
  let rest := (micros % dayLength).toNat
  let parts :=
    (if days == 0 then [] else ["days=" ++ toString days]) ++
    (if rest / 1000000 == 0 then [] else ["seconds=" ++ toString (rest / 1000000)]) ++
    (if rest % 1000000 == 0 then [] else ["microseconds=" ++ toString (rest % 1000000)])
  "datetime.timedelta(" ++ (if parts.isEmpty then "0" else ", ".intercalate parts) ++ ")"

/-- A moment by its parts, under the name of its kind. -/
def quoted (styled : Bool) : Moment → String
  | date d =>
    "datetime.date(" ++ ", ".intercalate [toString d.year, toString d.month, toString d.day] ++ ")"
  | instant d c offset =>
    let seconds :=
      if c.micro != 0 then [toString c.second, toString c.micro]
      else if c.second != 0 then [toString c.second] else []
    let zone := match offset with
      | none => []
      | some 0 => ["tzinfo=datetime.timezone.utc"]
      | some o => ["tzinfo=datetime.timezone(" ++ durationText o ++ ")"]
    (if styled then "TimeStamp(" else "datetime.datetime(") ++
      ", ".intercalate ([toString d.year, toString d.month, toString d.day, toString c.hour,
        toString c.minute] ++ seconds ++ zone) ++ ")"

/-- The text of a moment. A letter separates the time of day where one was written. -/
def display (m : Moment) (style : Option MomentStyle) : String :=
  m.isoText (if style.any (·.marker) then "T" else " ")

end Moment

namespace Value

/-- The text of a truth value; one that has a name counts as a number. -/
def truthText (b : Bool) (mark : Option Mark) : String :=
  if (mark.bind (·.anchor)).isSome then (if b then "1" else "0")
  else if b then "True" else "False"

def quotedScalar (s : Scalar) (mark : Option Mark) : String :=
  match s with
  | .null => "None"
  | .bool b => truthText b mark
  | .int n _ => toString n
  | .float x _ => x.text
  | .text s _ => Text.quoted s
  | .moment m style => m.quoted style.isSome

mutual

def quoted : Value → String
  | scalar s mark => quotedScalar s mark
  | list items _ => "[" ++ ", ".intercalate (quotedItems items) ++ "]"
  | map fs _ => "\x7b" ++ ", ".intercalate (quotedEntries fs) ++ "\x7d"

def quotedItems : List Value → List String
  | [] => []
  | x :: xs => quoted x :: quotedItems xs

def quotedEntries : List (Value × Value) → List String
  | [] => []
  | (k, v) :: fs => (quotedKey k ++ ": " ++ quoted v) :: quotedEntries fs

/-- The text of a key inside another value. A list is set in round brackets. -/
def quotedKey : Value → String
  | list items _ =>
    let parts := quotedItems items
    "(" ++ ", ".intercalate parts ++ (if parts.length == 1 then ",)" else ")")
  | scalar s mark => quotedScalar s mark
  | map fs _ => "\x7b" ++ ", ".intercalate (quotedEntries fs) ++ "\x7d"

end

/--
A value as text. Whole numbers are written in full: a limit on the digits of their text is taken to be
off here, and `Number.maxDigits` is the one for reading.
-/
def display : Value → String
  | scalar (.text s _) _ => s
  | scalar (.moment m style) _ => m.display style
  | v => quoted v

def displayKey : Value → String
  | list items mark => quotedKey (list items mark)
  | v => display v

@[simp] theorem display_ofString (s : String) : (ofString s).display = s := rfl

@[simp] theorem displayKey_ofString (s : String) : (ofString s).displayKey = s := rfl

end Value

end KubeManifest
