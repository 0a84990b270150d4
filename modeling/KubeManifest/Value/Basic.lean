import KubeManifest.Moment.Basic
import KubeManifest.Number.Binary64

/-!
# Values of a document

* `Scalar` : null, booleans, numbers, texts and moments, with the way they were written where a document
  is to be written the same way again (`TextStyle`, `IntStyle`, `FloatStyle`, `MomentStyle`);
* `Value` : scalars, lists, and mappings whose entries keep their order;
* `Mark` : the place of a value in the document it was read from. Values with one mark are one
  value, mentioned several times;
* `Value.isTruthy` : false of null, `false`, zero, and what is empty.
-/

namespace KubeManifest

/-! ## Ways of writing -/

/-- How a text was written. A folded block keeps the places of its folds, and both kinds of block keep
the comment beside their header. -/
inductive TextStyle
  | plain
  | single
  | double
  | literal (comment : String)
  | folded (folds : List Nat) (comment : String)
deriving DecidableEq, Repr

/-- The base of a written whole number. -/
inductive Radix
  | decimal
  | binary
  | octal
  | hex
  | hexCapital
deriving DecidableEq, Repr

/-- The underscores of a written number: how many digits stand after the last one, and whether one
stands before or after all digits. -/
structure Grouping where
  size : Nat
  leading : Bool
  trailing : Bool
deriving DecidableEq, Repr

/-- How a whole number was written, other than by its decimal digits alone. -/
structure IntStyle where
  radix : Radix := .decimal
  width : Option Nat := none
  grouping : Option Grouping := none
deriving DecidableEq, Repr

/-- The written exponent of a floating-point number: its letter, its width, and whether it has a sign. -/
structure ExponentStyle where
  letter : Char
  width : Nat
  signed : Bool
deriving DecidableEq, Repr

/-- How a floating-point number was written: the width of its mantissa, the place of the point in it,
its sign, and the zeros before its first other digit. -/
structure FloatStyle where
  width : Nat
  point : Option Nat
  sign : Option Char
  leadingZeros : Nat
  exponent : Option ExponentStyle := none
deriving DecidableEq, Repr

/-- How an instant was written: whether a letter separates the time of day from the date, and its zone
letter for letter. -/
structure MomentStyle where
  marker : Bool
  zone : String
deriving DecidableEq, Repr

/-! ## Values -/

/-- The place of a value: the number of its document and the offset of the value in it. -/
structure Origin where
  document : Nat
  offset : Nat
deriving DecidableEq, Repr

/-- What tells a value from its equals: its place, and the name it was given there. -/
structure Mark where
  origin : Origin
  anchor : Option String := none
deriving DecidableEq, Repr

inductive Scalar
  | null
  | bool (b : Bool)
  | int (n : Int) (style : Option IntStyle)
  | float (x : Binary64) (style : Option FloatStyle)
  | text (s : String) (style : TextStyle)
  | moment (m : Moment) (style : Option MomentStyle)
deriving DecidableEq, Repr

/-- A value: a scalar, a list, or a mapping with its entries in order. -/
inductive Value
  | scalar (s : Scalar) (mark : Option Mark)
  | list (items : List Value) (mark : Option Mark)
  | map (fields : List (Value × Value)) (mark : Option Mark)
deriving Repr

abbrev Fields := List (Value × Value)

namespace Value

instance : Inhabited Value := ⟨.scalar .null none⟩

abbrev null : Value := .scalar .null none

/-- A text without a style of its own. -/
abbrev ofString (s : String) : Value := .scalar (.text s .plain) none

abbrev ofInt (n : Int) : Value := .scalar (.int n none) none

abbrev ofBool (b : Bool) : Value := .scalar (.bool b) none

/-- A list that was not read from a document. -/
abbrev ofList (items : List Value) : Value := .list items none

/-- A mapping that was not read from a document. -/
abbrev ofFields (fields : Fields) : Value := .map fields none

def text? : Value → Option String
  | scalar (.text s _) _ => some s
  | _ => none

def fields? : Value → Option Fields
  | map fs _ => some fs
  | _ => none

def isNull : Value → Bool
  | scalar .null _ => true
  | _ => false

def isText (v : Value) (s : String) : Bool :=
  v.text? == some s

def isMap : Value → Bool
  | map _ _ => true
  | _ => false

def isScalar : Value → Bool
  | scalar _ _ => true
  | _ => false

/-- Whether a value counts as given: not null, `false`, zero or empty. -/
def isTruthy : Value → Bool
  | scalar .null _ => false
  | scalar (.bool b) _ => b
  | scalar (.int n _) _ => n != 0
  | scalar (.float x _) _ => !x.isZero
  | scalar (.text s _) _ => s != ""
  | scalar (.moment _ _) _ => true
  | list items _ => !items.isEmpty
  | map fs _ => !fs.isEmpty

/-- A value, or another one in its place when it does not count as given. -/
def orElse (v : Value) (other : Value) : Value :=
  if v.isTruthy then v else other

@[simp] theorem text?_ofString (s : String) : (ofString s).text? = some s := rfl

@[simp] theorem isNull_null : isNull null = true := rfl

@[simp] theorem isNull_map (fs : Fields) (m : Option Mark) : isNull (.map fs m) = false := rfl

@[simp] theorem isNull_list (vs : List Value) (m : Option Mark) : isNull (.list vs m) = false := rfl

end Value

/-! ## Entries by name -/

namespace Fields

def find? : Fields → String → Option Value
  | [], _ => none
  | (k, v) :: fs, name => if k.isText name then some v else find? fs name

def get (fs : Fields) (name : String) : Value :=
  (find? fs name).getD .null

def has (fs : Fields) (name : String) : Bool :=
  (find? fs name).isSome

/-- The entries with a new value under a name: in its place, or at the end when the name is new. -/
def set : Fields → String → Value → Fields
  | [], name, v => [(.ofString name, v)]
  | (k, old) :: fs, name, v =>
    if k.isText name then (k, v) :: fs else (k, old) :: set fs name v

def setDefault (fs : Fields) (name : String) (v : Value) : Fields :=
  if has fs name then fs else fs ++ [(.ofString name, v)]

def erase (fs : Fields) (name : String) : Fields :=
  fs.filter fun (k, _) => !k.isText name

/-- The entries whose keys are none of some names. -/
def except (fs : Fields) (names : List String) : Fields :=
  fs.filter fun (k, _) => !names.any k.isText

/-- Mapping entries from pairs of a name and a value. A name that comes again changes the value in its first
place. -/
def ofPairs (pairs : List (String × Value)) : Fields :=
  pairs.foldl (fun fs (name, v) => set fs name v) []

@[simp] theorem find?_nil (name : String) : find? [] name = none := rfl

theorem find?_cons (k v : Value) (fs : Fields) (name : String) :
    find? ((k, v) :: fs) name = if k.isText name then some v else find? fs name := rfl

theorem find?_set_self (fs : Fields) (name : String) (v : Value) :
    find? (set fs name v) name = some v := by
  induction fs with
  | nil => simp [set, find?, Value.isText]
  | cons e fs ih =>
    obtain ⟨k, old⟩ := e
    by_cases h : k.isText name <;> simp [set, find?, h, ih]

theorem find?_set_ne (fs : Fields) {name other : String} (v : Value) (h : name ≠ other) :
    find? (set fs name v) other = find? fs other := by
  induction fs with
  | nil => simp [set, find?, Value.isText, h]
  | cons e fs ih =>
    obtain ⟨k, old⟩ := e
    by_cases hk : k.isText name
    · have : k.isText other = false := by
        simp only [Value.isText, beq_iff_eq] at hk
        simp [Value.isText, hk, h]
      simp [set, find?, hk, this]
    · simp [set, find?, hk, ih]

end Fields

end KubeManifest
