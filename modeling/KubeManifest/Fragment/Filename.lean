import KubeManifest.Failure
import KubeManifest.Kind.Table
import KubeManifest.Text.Cut
import KubeManifest.Text.Pattern

/-!
# File names of fragments

* `Filename.pattern`, `Filename.split?` : the form of the names, and the name, type and extension in one;
* `Classification.ofFilename` : what a file name says about the resource inside;
* `KindTable.fileStem` : the stem for a resource's own file;
* `Filename.isExcluded` : files of profiles, which hold no resources.
-/

namespace KubeManifest

namespace Filename

open Text (Pattern)

/-- Whether two letters are the same but for their case; the long `s` is an `s`. -/
def sameLetter (a b : Char) : Bool :=
  a.toLower == b || (a == 'ſ' && b == 's')

/-- A word but for the case of its letters. -/
def word (s : String) : Pattern :=
  .inTurn (s.toList.map fun c => (sameLetter · c))

/-- A dash and a type: as many characters as can be, but no dash. -/
def typePattern : Pattern :=
  .seq (.char (· == '-')) (.group "type" (.seq (.char (· != '-')) (.many (· != '-'))))

def extensionPattern : Pattern :=
  .group "ext" (.either (word "yaml") (.either (word "yml") (word "json")))

/-- What follows the name in a file name. -/
def ending : Pattern :=
  .seq (.maybe typePattern) (.seq (.char (· == '.')) (.seq extensionPattern .finish))

/-- The form `name-type.ext` or `name.ext` of the file names of fragments, with a name as short as can be. -/
def pattern : Pattern :=
  .seq .start (.seq (.group "name" (.few (· != '\n'))) ending)

structure Parts where
  name : String
  type : Option String
  extension : String
deriving DecidableEq, Repr

def split? (filename : String) : Option Parts := do
  let o ← pattern.run filename.toList
  return ⟨(o.group? "name").getD "", o.group? "type", (o.group? "ext").getD ""⟩

def isExcluded (filename : String) : Bool :=
  let s := String.ofList (Text.dropFinalBreak filename.toList)
  ["profile.yml", "profile.yaml", "profiles.yml", "profiles.yaml"].contains s

def isFragment (filename : String) : Bool :=
  (split? filename).isSome && !isExcluded filename

end Filename

/-- What a file name says about the resource inside. -/
structure Classification where
  name : Option String
  type : Option String
  extension : String
  kind : Option String
deriving DecidableEq, Repr

/-- Reads a file name. Without a type the whole name may be a token, and then it is no name. -/
def Classification.ofFilename (kinds : KindTable) (filename : String) :
    Except Failure Classification :=
  match Filename.split? filename with
  | none => .error (.badFilename filename)
  | some parts =>
    let extension := Text.lower parts.extension
    match parts.type with
    | some token =>
      match kinds.kindFor? token with
      | some kind => .ok ⟨some parts.name, some token, extension, some kind⟩
      | none => .error (.unknownToken token filename kinds.tokens)
    | none =>
      match kinds.kindFor? parts.name with
      | some kind => .ok ⟨none, none, extension, some kind⟩
      | none => .ok ⟨some parts.name, none, extension, none⟩

def KindTable.fileStem (kinds : KindTable) (name kind : String) : String :=
  match kinds.tokenFor? kind with
  | some token => if token == "" then name else name ++ "-" ++ token
  | none => name

end KubeManifest
