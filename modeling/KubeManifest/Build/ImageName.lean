import KubeManifest.Failure
import KubeManifest.Text.Cut
import KubeManifest.Text.Word

/-!
# Names of images

* `ImageName` : registry, repository, tag and digest;
* `ImageName.parse` : reads `registry/user/name:tag@digest`, in which all but the repository may be missing;
* `ImageName.user?` : the first part of a repository that has several.
-/

namespace KubeManifest

structure ImageName where
  repository : String
  registry : Option String := none
  tag : Option String := none
  digest : Option String := none
deriving DecidableEq, Repr

namespace ImageName

def maxTag : Nat := 128

/-- Whether a text is a tag. A line feed at its end does not count. -/
def isTag (cs : List Char) : Bool :=
  let cs := Text.dropFinalBreak cs
  (cs.head?.any Text.isWord) && cs.length ≤ maxTag &&
    cs.all fun c => Text.isWord c || c == '.' || c == '-'

def isRegistry (part : List Char) : Bool :=
  part.contains '.' || part.contains ':' || part == "localhost".toList

/-- The text before the tag, and the tag: what follows the last colon after the last slash. -/
def cutTag (cs : List Char) : List Char × Option (List Char) :=
  match Text.cutLast? ':' cs with
  | some (before, tag) => if tag.contains '/' then (cs, none) else (before, some tag)
  | none => (cs, none)

def cutRegistry (cs : List Char) : Option (List Char) × List Char :=
  match Text.cutFirst? '/' cs with
  | some (first, rest) => if isRegistry first then (some first, rest) else (none, cs)
  | none => (none, cs)

/-- The tag of names that have neither tag nor digest. -/
def defaultTag : String := "latest"

/-- The text before the digest, and the digest: what follows the first at sign. -/
def cutDigest (cs : List Char) : List Char × Option (List Char) :=
  match Text.cutFirst? '@' cs with
  | some (before, digest) => (before, some digest)
  | none => (cs, none)

def tagFor (tag digest : Option (List Char)) : Option String :=
  if tag.isNone && digest.isNone then some defaultTag else tag.map String.ofList

def parse (name : String) : Except Failure ImageName :=
  if name == "" then .error (.badConfig none .emptyImageName)
  else
    let (rest, digest) := cutDigest name.toList
    let (base, tag) := cutTag rest
    if !tag.all isTag then .error (.badConfig none (.badTag (String.ofList (tag.getD [])) name))
    else
      let (registry, repository) := cutRegistry base
      .ok {
        repository := String.ofList repository
        registry := registry.map String.ofList
        tag := tagFor tag digest
        digest := digest.map String.ofList }

/-- The first part of a repository that has several. -/
def user? (n : ImageName) : Option String :=
  (Text.cutFirst? '/' n.repository.toList).map fun (user, _) => String.ofList user

def simpleName (n : ImageName) : String :=
  match Text.cutLast? '/' n.repository.toList with
  | some (_, name) => String.ofList name
  | none => n.repository

end ImageName

end KubeManifest
