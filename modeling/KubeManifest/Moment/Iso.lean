import KubeManifest.Moment.Basic

/-!
# Reading ISO 8601 texts

`Moment.ofIso?` reads a date, `2017-01-31`, `20170131`, `2017-W05-2`, `2017W052` or `2017-W05`, and
perhaps one separating character with a time of day and an offset. Hours, minutes and seconds have two digits
each and are separated by colons or by nothing; a fraction follows a point or a comma and counts to
six digits. An offset is `Z` or a sign with a time of day.
-/

namespace KubeManifest.Moment

/-- The number that the first `count` characters stand for, if they are digits of ASCII, and the rest. -/
def takeDigits : Nat → List Char → Option (Nat × List Char)
  | count, cs =>
    let ds := cs.take count
    if ds.length == count && ds.all Char.isDigit then
      some (ds.foldl (fun n c => 10 * n + (c.toNat - '0'.toNat)) 0, cs.drop count)
    else none

/-! ## Dates -/

/-- The number of characters that the date takes in a text of at least seven. -/
def dateLength (cs : List Char) : Option Nat :=
  let length := cs.length
  let digitAt (i : Nat) : Bool := (cs[i]?).any Char.isDigit
  if length == 7 then some 7
  else if cs[4]? == some '-' then
    if cs[5]? == some 'W' then
      if cs[8]? == some '-' then
        if length == 9 then none
        else if length > 10 && digitAt 10 then some 8
        else some 10
      else some 8
    else some 10
  else if cs[4]? == some 'W' then
    let pos := 7 + ((cs.drop 7).takeWhile Char.isDigit).length
    if pos < 9 then some pos
    else if pos % 2 == 0 then some 7
    else some 8
  else some 8

/-- The Monday of the first week of a year, as the number of a day. -/
def firstMonday (year : Nat) : Int :=
  let first : Date := ⟨year, 1, 1⟩
  let monday := first.ordinal - first.weekday
  if first.weekday > 3 then monday + 7 else monday

def ofWeek? (year week day : Nat) : Option Date :=
  let first := (Date.mk year 1 1).weekday
  let weeks := if first == 3 || (first == 2 && Date.isLeap year) then 53 else 52
  if week == 0 || week > weeks || day == 0 || day > 7 then none
  else some (Date.ofOrdinal (firstMonday year + (week - 1) * 7 + (day - 1)))

def readDate (cs : List Char) : Option Date := do
  let (year, cs) ← takeDigits 4 cs
  let separated := cs.head? == some '-'
  let cs := if separated then cs.drop 1 else cs
  let skip (cs : List Char) : Option (List Char) :=
    if separated then (if cs.head? == some '-' then some (cs.drop 1) else none) else some cs
  if cs.head? == some 'W' then
    let (week, cs) ← takeDigits 2 (cs.drop 1)
    if cs.isEmpty then ofWeek? year week 1
    else
      let (day, _) ← takeDigits 1 (← skip cs)
      ofWeek? year week day
  else
    let (month, cs) ← takeDigits 2 cs
    let (day, cs) ← takeDigits 2 (← skip cs)
    if cs.isEmpty then some ⟨year, month, day⟩ else none

/-! ## Times of day -/

/-- The fraction of a second as microseconds, and whether nothing follows its digits. A text of no
digits is no fraction. -/
def readFraction (cs : List Char) (following : Option Char) : Option (Nat × Bool) := do
  let count := min 6 cs.length
  let (n, rest) ← takeDigits count cs
  let rest := rest.dropWhile Char.isDigit
  return (n * Nat.pow 10 (6 - count), rest.isEmpty && following.isNone)

/-- Reads the parts of a time of day from the `i`-th on: the parts read so far, whether colons separate
them, and what follows the text. The answer tells whether the text ended where it should. -/
def readClockFrom (following : Option Char) (colons : Bool) (parts : List Nat) (cs : List Char) :
    Nat → Option (List Nat × Nat × Bool)
  | 0 => do
    let (micro, clean) ← readFraction cs following
    return (parts, micro, clean)
  | left + 1 => do
    let (n, cs) ← takeDigits 2 cs
    let parts := parts ++ [n]
    match cs with
    | [] => return (parts, 0, following.isNone)
    | c :: rest =>
      let colons := if parts.length == 1 then c == ':' else colons
      if rest.isEmpty then return (parts, 0, false)
      else if colons && c == ':' then readClockFrom following colons parts rest left
      else if c == '.' || c == ',' then
        let (micro, clean) ← readFraction rest following
        return (parts, micro, clean)
      else if !colons then readClockFrom following colons parts cs left
      else none

/-- Reads a time of day, and tells whether the text ended where it should. -/
def readClock (following : Option Char) (cs : List Char) : Option (Clock × Bool) := do
  let (parts, micro, clean) ← readClockFrom following true [] cs 3
  return (⟨parts.getD 0 0, parts.getD 1 0, parts.getD 2 0, micro⟩, clean)

/-- Reads a time of day with perhaps an offset. -/
def readTime (cs : List Char) : Option (Clock × Option Int) := do
  let isZone (c : Char) : Bool := c == '+' || c == '-' || c == 'Z'
  let (clock, zone) := cs.span (! isZone ·)
  match zone with
  | [] =>
    let (c, clean) ← readClock none clock
    if clean then some (c, none) else none
  | sign :: rest =>
    let (c, _) ← readClock (some sign) clock
    if sign == 'Z' then
      if rest.isEmpty then some (c, some 0) else none
    else
      let (o, clean) ← readClock none rest
      let n := if o.hour == 0 && o.minute == 0 && o.second == 0 then 0 else clockMicroseconds o
      if clean then some (c, some (if sign == '-' then -n else n)) else none

/-- Reads a moment. A date alone stands for its midnight. -/
def ofIso? (s : String) : Option Moment := do
  let cs := s.toList
  if s.utf8ByteSize < 7 then none
  else
    let length ← dateLength cs
    let d ← readDate (cs.take length)
    let (c, offset) ←
      match cs.drop length with
      | [] => some (⟨0, 0, 0, 0⟩, none)
      | _ :: time => readTime time
    let m := Moment.instant d c offset
    if m.isValid then some m else none

end KubeManifest.Moment
