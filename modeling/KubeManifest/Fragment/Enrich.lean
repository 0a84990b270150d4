import KubeManifest.Fragment.Filename
import KubeManifest.Fragment.Reader
import KubeManifest.Kind.Versions

/-!
# Enriching fragments

* `Fragment.fill` : gives an entry a value where it has none; null and blank texts count as none;
* `Fragment.enrich` : gives a fragment the kind, version and name that its file name implies. Kinds that
  a fragment states win over the one of the file name, but the version follows the file name first;
* `Fragment.enrichFile` : reads and enriches a file.
-/

namespace KubeManifest

namespace Fragment

/-! ## Entries -/

/-- Whether a value is null or a blank text. -/
def isVacant : Value → Bool
  | .scalar .null _ => true
  | .scalar (.text s _) _ => Text.isBlankText s
  | _ => false

/-- A style for another text in its place: the same quotes, or a block without comments and folds. -/
def sameQuotes : TextStyle → TextStyle
  | .literal _ => .literal ""
  | .folded _ _ => .folded [] ""
  | style => style

/-- A value in the place of another one. A text takes the place of a text in the same quotes. -/
def inPlaceOf (old new : Value) : Value :=
  match old, new with
  | .scalar (.text _ style) _, .scalar (.text s .plain) none => .scalar (.text s (sameQuotes style)) none
  | _, new => new

def fill (fs : Fields) (name : String) (v : Value) : Fields :=
  let old := Fields.get fs name
  if isVacant old then Fields.set fs name (inPlaceOf old v) else fs

mutual

/-- A value in which every mapping at a place has other entries. -/
def replaceAt (origin : Origin) (fs : Fields) : Value → Value
  | .scalar s mark => .scalar s mark
  | .list items mark => .list (replaceItems origin fs items) mark
  | .map entries mark =>
    if mark.any (·.origin == origin) then .map fs mark
    else .map (replaceEntries origin fs entries) mark

/-- Items in which every mapping at a place has other entries. -/
def replaceItems (origin : Origin) (fs : Fields) : List Value → List Value
  | [] => []
  | x :: xs => replaceAt origin fs x :: replaceItems origin fs xs

def replaceEntries (origin : Origin) (fs : Fields) : List (Value × Value) → List (Value × Value)
  | [] => []
  | (k, v) :: rest => (k, replaceAt origin fs v) :: replaceEntries origin fs rest

end

/-- The fragment with other metadata, wherever its mapping is mentioned. -/
def setMetadata (fs : Fields) (metadata : Fields) (mark : Option Mark) : Fields :=
  match mark with
  | some m => replaceEntries m.origin metadata fs
  | none => Fields.set fs "metadata" (.map metadata none)

/-! ## Enriching -/

/-- The kind that a fragment states, null if it is vacant. A blank text counts as null, any other value
stands. -/
def statedKind (fs : Fields) : Value :=
  let v := Fields.get fs "kind"
  if isVacant v then .null else v

def nameFor (info : Classification) (defaultName : String) : String :=
  match info.name with
  | some name => if Text.isBlankText name then defaultName else name
  | none => defaultName

/-- Gives a fragment the kind, version and name that its file name implies. -/
def enrich (versions : Versions) (info : Classification) (filename : String) (defaultName : String)
    (fs : Fields) : Except Failure Fields := do
  let stated := statedKind fs
  let implied : Value := (info.kind.map Value.ofString).getD .null
  if implied.isNull && stated.isNull then throw (.noKind filename)
  let fs := fill fs "kind" implied
  let version ← versions.apiVersion (implied.orElse stated)
  let fs := fill fs "apiVersion" version
  let name := Value.ofString (nameFor info defaultName)
  match Fields.get fs "metadata" with
  | .scalar .null _ => return Fields.set fs "metadata" (.ofFields (fill [] "name" name))
  | .map metadata mark => return setMetadata fs (fill metadata "name" name) mark
  | v => throw (.badMetadata filename v.kindName)

/-- Reads and enriches a file. Its name is looked at before its content. -/
def enrichFile (files : Files) (kinds : KindTable) (versions : Versions) (defaultName : String)
    (document : Nat) (path : Path) : Except Failure Fields := do
  let info ← Classification.ofFilename kinds path.name
  let fs ← ofFile files document path info.extension
  enrich versions info path.name defaultName fs

end Fragment

end KubeManifest
