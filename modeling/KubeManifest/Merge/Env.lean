import KubeManifest.Merge.Basic
import KubeManifest.Model.Container
import KubeManifest.Text.Blank

/-!
# Variables of an environment

A list of variables as a store of values by name, in which the first variable of a name counts:

* `EnvVar.put`, `EnvVar.putIfAbsent` : set a variable, with or without respect for the one that is there;
* `EnvVar.lookup` : the first value of a name that is not blank;
* `EnvVar.addMissing` : the variables of a list, and then those of another one with new names.
-/

namespace KubeManifest.EnvVar

/-! ## The store -/

def find? (env : List EnvVar) (name : Value) : Option EnvVar :=
  env.find? fun v => v.name.same name

/-- The variables with a value for a name: in the first one of the name, or in a new one. -/
def put : List EnvVar → Value → Value → List EnvVar
  | [], name, value => [{ name := name, value := value }]
  | v :: env, name, value =>
    if v.name.same name then (if v.value.same value then v else { v with value }) :: env
    else v :: put env name value

def putChanges (env : List EnvVar) (name value : Value) : Bool :=
  (find? env name).all fun v => !v.value.same value

def putIfAbsent (env : List EnvVar) (name value : Value) : List EnvVar :=
  if (find? env name).isSome then env else env ++ [{ name := name, value := value }]

/-- The variable of a name that keeps another value from being put. -/
def conflict? (env : List EnvVar) (name value : Value) : Option EnvVar :=
  (find? env name).filter fun v => !v.value.same value

/-- The first value of a name that is given and not blank, or else the one to fall back to. -/
def lookup : List EnvVar → Value → Value → Except Misfit Value
  | [], _, fallback => .ok fallback
  | v :: env, name, fallback =>
    if v.name.same name && v.value.isTruthy then
      match v.value.text? with
      | some s => if Text.isBlankText s then lookup env name fallback else .ok v.value
      | none => .error .noSuchPart
    else lookup env name fallback

/-! ## Merging -/

/-- Whether a variable has the name of another one. What is missing has no name. -/
def hasNameOf (existing added : Option EnvVar) : Except Misfit Bool :=
  match existing, added with
  | some e, some a => .ok (e.name.same a.name)
  | _, _ => .error .noSuchPart

def anyNamed : List (Option EnvVar) → Option EnvVar → Except Misfit Bool
  | [], _ => .ok false
  | e :: env, added => do if ← hasNameOf e added then return true else anyNamed env added

/-- The variables, and then those of another list whose names are new. -/
def addMissing (env : List (Option EnvVar)) : List (Option EnvVar) → Merged (List (Option EnvVar))
  | [] => ⟨env, none⟩
  | added :: rest =>
    match anyNamed env added with
    | .ok true => addMissing env rest
    | .ok false => addMissing (env ++ [added]) rest
    | .error misfit => ⟨env, some misfit⟩

end KubeManifest.EnvVar
