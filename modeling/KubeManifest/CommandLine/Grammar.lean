import KubeManifest.Text.Cut
import KubeManifest.Text.Digit
import KubeManifest.Value.Basic

/-!
# Grammars of command lines

* `Switch`, `Grammar` : the switches of a command, and what stands besides them;
* `Grammar.argument?` : what an argument is. Long switches may be shortened as long as one fits;
* `Grammar.parse` : the values of switches and the other arguments, read from left to right. Reading stops at
  a switch that asks for help or the version, and at the first mistake.
-/

namespace KubeManifest.CommandLine

/-- What a switch does: it asks for something, it is set, or it takes a value, of some choices if there are any. -/
inductive Effect
  | help
  | version
  | set (key : String)
  | take (key : String) (choices : List String)
deriving DecidableEq, Repr

structure Switch where
  names : List String
  effect : Effect
deriving DecidableEq, Repr

/-- What stands besides switches: nothing, one or more texts in one place, or a command with all that follows. -/
inductive Operands
  | none
  | texts
  | command
deriving DecidableEq, Repr

structure Grammar where
  switches : List Switch
  operands : Operands

inductive Stop
  | help
  | version
  | misuse
deriving DecidableEq, Repr

/-- What an argument is. A switch may have its value, or further switches of one letter, attached to it. -/
inductive Argument
  | operand
  | separator
  | unknown
  | switch (s : Switch) (short : Bool) (attached : Option (List Char))
deriving DecidableEq, Repr

structure Parsed where
  values : List (String × Value) := []
  operands : List String := []
  hasUnknown : Bool := false

namespace Switch

def isNamed (s : Switch) (name : List Char) : Bool :=
  s.names.contains (String.ofList name)

def takesValue (s : Switch) : Bool :=
  match s.effect with
  | .take _ _ => true
  | _ => false

end Switch

/-! ## Arguments -/

/-- Whether a character is a decimal digit of any script. -/
def isDecimal (c : Char) : Bool :=
  (Text.digitValue? c).isSome

/-- Whether a text is a negative number, which is no switch. -/
def isNegativeNumber (cs : List Char) : Bool :=
  match Text.dropFinalBreak cs with
  | '-' :: digits =>
    let whole := digits.takeWhile isDecimal
    match digits.drop whole.length with
    | [] => !whole.isEmpty
    | '.' :: fraction => !fraction.isEmpty && fraction.all isDecimal
    | _ => false
  | _ => false

namespace Grammar

def find? (g : Grammar) (name : List Char) : Option Switch :=
  g.switches.find? (·.isNamed name)

/-- The switches with a name that begins with a text, one for each of these names. -/
def beginning (g : Grammar) (start : List Char) : List Switch :=
  g.switches.flatMap fun s => (s.names.filter fun name => start.isPrefixOf name.toList).map fun _ => s

/-- The switches that an argument may stand for, with what is attached to them. -/
def candidates (g : Grammar) (cs : List Char) : List Argument :=
  match cs with
  | '-' :: '-' :: _ =>
    let (name, attached) := match Text.cutFirst? '=' cs with
      | some (name, attached) => (name, some attached)
      | none => (cs, none)
    (g.beginning name).map fun s => .switch s false attached
  | '-' :: c :: attached =>
    ((g.find? ['-', c]).map fun s => Argument.switch s true (some attached)).toList ++
      (g.beginning cs).map fun s => .switch s true none
  | _ => []

/-- The switch of which an argument is the whole name, with the value after an equals sign. -/
def wholeName? (g : Grammar) (cs : List Char) : Option Argument :=
  let short := cs[1]? != some '-'
  match g.find? cs with
  | some s => some (.switch s short none)
  | none => do
    let (name, attached) ← Text.cutFirst? '=' cs
    let s ← g.find? name
    return .switch s short (some attached)

/-- What an argument is, unless it may be short for several switches. -/
def argument? (g : Grammar) (s : String) : Option Argument :=
  let cs := s.toList
  if cs.head? != some '-' then some .operand
  else
    match g.wholeName? cs with
    | some a => some a
    | none =>
      if cs.length == 1 then some .operand
      else
        match g.candidates cs with
        | [a] => some a
        | _ :: _ :: _ => none
        | [] => some (if isNegativeNumber cs || cs.contains ' ' then .operand else .unknown)

/-- What arguments are. All after two dashes are operands. -/
def arguments? (g : Grammar) : List String → Option (List (String × Argument))
  | [] => some []
  | s :: rest =>
    if s == "--" then some ((s, .separator) :: rest.map fun s => (s, .operand))
    else do return (s, ← g.argument? s) :: (← g.arguments? rest)

/-! ## Reading -/

/-- A switch with the letters after it, as switches each with its value. The next argument is the value of the last
one if it needs one, as the answer tells. -/
def letters? (g : Grammar) (next : Option String) (s : Switch) :
    List Char → Option (List (Switch × Option String) × Bool)
  | [] => if s.takesValue then next.map fun v => ([(s, some v)], true) else some ([(s, none)], false)
  | c :: cs =>
    if s.takesValue then some ([(s, some (String.ofList (c :: cs)))], false)
    else do
      let (rest, usesNext) ← letters? g next (← g.find? ['-', c]) cs
      return ((s, none) :: rest, usesNext)

/-- A switch with what is attached to it. A long switch without a value has nothing attached. -/
def expand? (g : Grammar) (short : Bool) (next : Option String) (s : Switch) :
    Option (List Char) → Option (List (Switch × Option String) × Bool)
  | none => g.letters? next s []
  | some [] => if s.takesValue then some ([(s, some "")], false) else none
  | some cs => if s.takesValue || short then g.letters? next s cs else none

/-- A value. Two dashes that are attached to a switch stand for a list of no values. -/
def valueOf (s : String) : Value :=
  if s == "--" then .ofList [] else .ofString s

def apply (p : Parsed) (s : Switch) (value : String) : Except Stop Parsed :=
  match s.effect with
  | .help => .error .help
  | .version => .error .version
  | .set key => .ok { p with values := p.values ++ [(key, .ofBool true)] }
  | .take key choices =>
    if choices.isEmpty || value == "--" || choices.contains value then
      .ok { p with values := p.values ++ [(key, valueOf value)] }
    else .error .misuse

def nextValue : List (String × Argument) → Option String
  | (s, .operand) :: _ => some s
  | _ => none

/-- Reads arguments, with what was read before them. Texts stand in one place, which a switch ends. -/
def parseFrom (g : Grammar) (p : Parsed) (ended : Bool) : List (String × Argument) → Except Stop Parsed
  | [] => .ok p
  | (s, .operand) :: rest =>
    match g.operands with
    | .command => .ok { p with operands := s :: rest.map (·.1) }
    | .texts =>
      if ended then parseFrom g { p with hasUnknown := true } ended rest
      else parseFrom g { p with operands := p.operands ++ [s] } ended rest
    | .none => parseFrom g { p with hasUnknown := true } ended rest
  | (_, .separator) :: rest =>
    match g.operands with
    | .command => .error .misuse
    | .texts => parseFrom g { p with hasUnknown := p.hasUnknown || ended } ended rest
    | .none => parseFrom g { p with hasUnknown := true } ended rest
  | (_, .unknown) :: rest =>
    parseFrom g { p with hasUnknown := true } (ended || !p.operands.isEmpty) rest
  | (_, .switch s short attached) :: rest =>
    match g.expand? short (nextValue rest) s attached with
    | none => .error .misuse
    | some (switches, usesNext) =>
      match switches.foldlM (fun p (s, value) => apply p s (value.getD "")) p with
      | .error stop => .error stop
      | .ok p => parseFrom g p (ended || !p.operands.isEmpty) (if usesNext then rest.tail else rest)
termination_by args => args.length
decreasing_by
  all_goals simp only [List.length_cons]
  all_goals first
    | omega
    | split
      · have := List.length_tail (l := rest)
        omega
      · omega

/-- Reads arguments. Texts that a command needs have to be there. -/
def parse (g : Grammar) (args : List String) : Except Stop Parsed :=
  match g.arguments? args with
  | none => .error .misuse
  | some args => do
    let p ← g.parseFrom {} false args
    if g.operands == .texts && p.operands.isEmpty then .error .misuse else .ok p

end Grammar

end KubeManifest.CommandLine
