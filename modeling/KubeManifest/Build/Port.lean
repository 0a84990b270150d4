import KubeManifest.Build.Section
import KubeManifest.Model.Container
import KubeManifest.Number.Integer
import KubeManifest.Text.Case
import KubeManifest.Text.Cut
import KubeManifest.Text.Word

/-!
# Ports of images

* `PortSpec.entries` : the entries of a port list; commas separate several in one text;
* `PortSpec.expand` : an entry with the properties in place of their names in `$` and braces;
* `PortSpec.parse` : the port of an entry `hostIP:hostPort:containerPort/protocol`, in which all but the
  container's port may be missing. A host port that names no number is left open.
-/

namespace KubeManifest.PortSpec

def entries (specs : List String) : List String :=
  specs.flatMap fun spec =>
    ((spec.toList.splitOn ',').map fun cs => String.ofList (Text.strip cs)).filter (· != "")

/-! ## Properties -/

/-- The name after a dollar sign and in braces at the beginning of a text, and what follows it. -/
def propertyName? : List Char → Option (List Char × List Char)
  | '$' :: '\x7b' :: rest =>
    match Text.cutFirst? '\x7d' rest with
    | some (name, after) => if name.isEmpty then none else some (name, after)
    | none => none
  | _ => none

theorem length_lt_of_propertyName? {cs name after : List Char}
    (h : propertyName? cs = some (name, after)) : after.length < cs.length := by
  unfold propertyName? at h
  split at h
  · split at h
    · rename_i ha
      split at h
      · simp at h
      · simp only [Option.some.injEq, Prod.mk.injEq] at h
        obtain ⟨rfl, rfl⟩ := h
        obtain ⟨rfl, _⟩ := Text.cutFirst?_eq_some ha
        simp
        omega
    · simp at h
  · simp at h

/-- A text with the properties in place of their names. An entry is blamed for those that are not
defined. -/
def expandText (properties : Fields) (spec : String) (cs : List Char) : Except Failure (List Char) :=
  match _h : propertyName? cs with
  | some (name, after) =>
    match Fields.find? properties (String.ofList name) with
    | some v => do return v.display.toList ++ (← expandText properties spec after)
    | none => .error (.badPort spec (.undefinedProperty (String.ofList name)))
  | none =>
    match cs with
    | [] => .ok []
    | c :: cs => do return c :: (← expandText properties spec cs)
termination_by cs.length
decreasing_by
  · exact length_lt_of_propertyName? _h
  · simp

/-- An entry with the properties in place of their names. -/
def expand (properties : Fields) (spec : String) : Except Failure (List Char) :=
  expandText properties spec spec.toList

/-! ## Parts of an entry -/

def maxPort : Int := 65535

def protocols : List (String × String) := [("tcp", "TCP"), ("udp", "UDP")]

def portNumber (spec : String) (cs : List Char) : Except Failure Int :=
  match Number.readInteger (String.ofList cs) with
  | none => .error (.badPort spec (.notNumber (String.ofList cs)))
  | some n => if 0 < n ∧ n ≤ maxPort then .ok n else .error (.badPort spec (.outOfRange n))

def isNumeral (cs : List Char) : Bool :=
  !cs.isEmpty && cs.all Text.isDigit

def startsName (c : Char) : Bool :=
  c.isAlpha || c == '_'

/-- Whether a text is the name of a property, perhaps with a plus sign before it. A line feed at its end
does not count. -/
def isPropertyName (cs : List Char) : Bool :=
  let name := Text.dropFinalBreak (if cs.head? == some '+' then cs.drop 1 else cs)
  (name.head?.any startsName) && name.all fun c => Text.isWord c || c == '.' || c == '-'

/-- The host port that a text gives: its number, or that of the property that it names. -/
def hostPort (properties : Fields) (spec : String) (cs : List Char) : Except Failure (Option Int) :=
  if isNumeral cs then some <$> portNumber spec cs
  else if !isPropertyName cs then .error (.badPort spec (.badHostPort (String.ofList cs)))
  else
    match Section.text? (Fields.get properties (String.ofList cs)) with
    | some value =>
      if isNumeral value.toList then some <$> portNumber spec value.toList else .ok none
    | none => .ok none

/-- The address that a text gives: itself, or the property that it names after a plus sign. -/
def hostIP (properties : Fields) (cs : List Char) : Value :=
  match cs with
  | '+' :: name => Fields.get properties (String.ofList name)
  | _ => .ofString (String.ofList cs)

def cutProtocol (spec : String) (cs : List Char) : Except Failure (List Char × Value) :=
  match Text.cutLast? '/' cs with
  | none => .ok (cs, .null)
  | some (rest, name) =>
    match protocols.lookup (Text.lower (String.ofList name)) with
    | some protocol => .ok (rest, .ofString protocol)
    | none => .error (.badPort spec .badProtocol)

/-! ## Entries -/

def numberValue (n : Option Int) : Value :=
  (n.map Value.ofInt).getD .null

def parse (properties : Fields) (spec : String) : Except Failure ContainerPort := do
  let (rest, protocol) ← cutProtocol spec (← expand properties spec)
  match rest.splitOn ':' with
  | [port] =>
    if port.isEmpty then throw (.badPort spec .badShape)
    return { containerPort := .ofInt (← portNumber spec port), protocol }
  | [host, port] =>
    if host.isEmpty || port.isEmpty then throw (.badPort spec .badShape)
    let n ← portNumber spec port
    return { containerPort := .ofInt n, hostPort := numberValue (← hostPort properties spec host), protocol }
  | [ip, host, port] =>
    if ip.isEmpty || host.isEmpty || port.isEmpty then throw (.badPort spec .badShape)
    let n ← portNumber spec port
    let h ← hostPort properties spec host
    return { containerPort := .ofInt n, hostPort := numberValue h, hostIP := hostIP properties ip, protocol }
  | _ => throw (.badPort spec .badShape)

def ports (properties : Fields) (specs : List String) : Except Failure (List ContainerPort) :=
  (entries specs).mapM (parse properties)

end KubeManifest.PortSpec
