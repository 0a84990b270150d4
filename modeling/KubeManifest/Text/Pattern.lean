/-!
# Patterns of texts

* `Pattern` : what a text is to be made of, with groups that have names;
* `Pattern.outcomes` : all ways in which a text can begin with a pattern, the preferred ones first;
* `Pattern.run` : the preferred one for a whole text.

A repetition prefers many characters or few, an optional part prefers to be there, and of two
alternatives the first is preferred. What comes later in a sequence can rule out what was preferred before.
-/

namespace KubeManifest.Text

inductive Pattern
  | empty
  | start
  | finish
  | char (accepts : Char → Bool)
  | many (accepts : Char → Bool)
  | few (accepts : Char → Bool)
  | maybe (p : Pattern)
  | seq (p q : Pattern)
  | either (p q : Pattern)
  | group (name : String) (p : Pattern)

namespace Pattern

/-- A way to match a pattern: what was taken from a text, what is left, and the texts of the groups. -/
structure Outcome where
  taken : List Char
  rest : List Char
  groups : List (String × List Char) := []
deriving DecidableEq, Repr

def Outcome.followedBy (o next : Outcome) : Outcome :=
  ⟨o.taken ++ next.taken, next.rest, o.groups ++ next.groups⟩

/-- The outcome in which all that was taken is the text of a group too. -/
def Outcome.named (o : Outcome) (name : String) : Outcome :=
  { o with groups := (name, o.taken) :: o.groups }

def Outcome.group? (o : Outcome) (name : String) : Option String :=
  (o.groups.lookup name).map String.ofList

/-- The ways to take accepted characters from the beginning of a text, the shortest first. -/
def runs (accepts : Char → Bool) : List Char → List (List Char × List Char)
  | [] => [([], [])]
  | c :: cs =>
    ([], c :: cs) ::
      if accepts c then (runs accepts cs).map fun (taken, rest) => (c :: taken, rest) else []

/-- The ways in which a text can begin with a pattern, the preferred ones first. `first` says that nothing
stands before the text. -/
def outcomes : Pattern → (first : Bool) → List Char → List Outcome
  | empty, _, cs => [⟨[], cs, []⟩]
  | start, first, cs => if first then [⟨[], cs, []⟩] else []
  | finish, _, cs => if cs.isEmpty || cs == ['\n'] then [⟨[], cs, []⟩] else []
  | char _, _, [] => []
  | char accepts, _, c :: cs => if accepts c then [⟨[c], cs, []⟩] else []
  | many accepts, _, cs => (runs accepts cs).reverse.map fun (taken, rest) => ⟨taken, rest, []⟩
  | few accepts, _, cs => (runs accepts cs).map fun (taken, rest) => ⟨taken, rest, []⟩
  | maybe p, first, cs => outcomes p first cs ++ [⟨[], cs, []⟩]
  | seq p q, first, cs =>
    (outcomes p first cs).flatMap fun o =>
      (outcomes q (first && o.taken.isEmpty) o.rest).map o.followedBy
  | either p q, first, cs => outcomes p first cs ++ outcomes q first cs
  | group name p, first, cs => (outcomes p first cs).map fun o => o.named name

/-- The preferred way in which a text begins with a pattern. -/
def run (p : Pattern) (text : List Char) : Option Outcome :=
  (p.outcomes true text).head?

def inTurn (accepts : List (Char → Bool)) : Pattern :=
  accepts.foldr (fun a p => seq (char a) p) empty

end Pattern

end KubeManifest.Text
