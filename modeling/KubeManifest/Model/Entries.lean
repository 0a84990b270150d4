import KubeManifest.Value.Kind
import KubeManifest.Value.Misfit
import KubeManifest.Value.Plain

/-!
# Entries of models

What the models of resources share when they are read from mappings and written as mappings:

* `Model.entriesOf?`, `Model.many` : the mapping that a model is read from, and lists of models;
* `Model.field`, `Model.extraOf` : a plain copy of one entry, and of the entries that no field holds;
* `Model.compact` : the entries of the fields that are set to something other than an empty
  collection.
-/

namespace KubeManifest

/-- Whether a value is a list or mapping without parts. -/
def Value.isEmptyCollection : Value → Bool
  | list items _ => items.isEmpty
  | map fs _ => fs.isEmpty
  | _ => false

namespace Model

/-! ## Reading -/

/-- The entries that a model is read from. Null stands for no model. -/
def entriesOf? (model : String) : Value → Except Misfit (Option Fields)
  | .map fs _ => .ok (some fs)
  | .scalar .null _ => .ok none
  | v => .error (.notMapping model v.kindName)

/-- A plain copy of the value under a name, null when there is none. -/
def field (fs : Fields) (name : String) : Value :=
  (Fields.get fs name).plain

/-- The entries that no field holds, with plain values. -/
def extraOf (known : List String) (fs : Fields) : Fields :=
  Fields.plainValues (Fields.except fs known)

/-- What a list of models is read from, one by one: the items of a list, the characters of a text, the
keys of a mapping. -/
def itemsOf : Value → Except Misfit (List Value)
  | .list items _ => .ok items
  | .map fs _ => .ok (fs.map (·.1))
  | .scalar (.text s _) _ => .ok (s.toList.map fun c => .ofString c.toString)
  | .scalar _ _ => .error .wrongKind

/-- A list of models, of which each may be null. Null stands for no list. -/
def many {α : Type} (read : Value → Except Misfit (Option α)) (v : Value) :
    Except Misfit (Option (List (Option α))) :=
  if v.isNull then .ok none
  else do return some (← (← itemsOf v).mapM read)

/-! ## Writing -/

/-- The entries of fields, without those that are null or empty collections. -/
def compact (fields : List (String × Value)) : Fields :=
  (fields.filter fun (_, v) => !(v.isNull || v.isEmptyCollection)).map fun (name, v) =>
    (.ofString name, v)

def optional {α : Type} (write : α → Value) (m : Option α) : Value :=
  (m.map write).getD .null

/-- A list of models as a list of mappings. A model that is null has no entries. -/
def written {α : Type} (write : α → Value) : Option (List (Option α)) → Except Misfit Value
  | none => .ok .null
  | some models => do
    return .ofList (← models.mapM fun
      | some m => .ok (write m)
      | none => .error .noSuchPart)

def parts {α : Type} (parts : α → Value) : Option (List (Option α)) → Value
  | none => .null
  | some models => .ofList (models.map (optional parts))

end Model

end KubeManifest
