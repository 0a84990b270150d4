import KubeManifest.Text.CharSet
import KubeManifest.Text.Cut

/-!
# Hosts in brackets

`Url.isLiteral` : whether a host may stand in brackets: an address of eight groups, of which one run of zeros
may be left out and the last two may be written as four decimal numbers, perhaps with a zone after a per
cent sign, or an address of a later version.
-/

namespace KubeManifest.Url

def isHex (c : Char) : Bool :=
  c.isDigit || ('a' ≤ c && c ≤ 'f') || ('A' ≤ c && c ≤ 'F')

def isGroup (cs : List Char) : Bool :=
  !cs.isEmpty && cs.length ≤ 4 && cs.all isHex

/-- Whether a text is a decimal number of a byte without leading zeros. -/
def isByte (cs : List Char) : Bool :=
  !cs.isEmpty && cs.length ≤ 3 && cs.all Char.isDigit && (cs == ['0'] || cs.head? != some '0') &&
    CharSet.decimalNumber cs ≤ 255

/-- Whether a text is four decimal numbers of bytes. -/
def isFourBytes (cs : List Char) : Bool :=
  let parts := cs.splitOn '.'
  parts.length == 4 && parts.all isByte

/-- Whether groups stand on one side of a run of zeros that is left out: an empty group alone is at the
edge. -/
def isSide (groups : List (List Char)) : Bool :=
  groups == [[]] || groups.all isGroup

def written (groups : List (List Char)) : Nat :=
  groups.countP fun g => !g.isEmpty

def areGroups (groups : List (List Char)) : Bool :=
  let inner := groups.dropLast.drop 1
  match inner.findIdx? List.isEmpty with
  | none => groups.length == 8 && groups.all isGroup
  | some n =>
    let before := groups.take (n + 1)
    let after := groups.drop (n + 2)
    isSide before && isSide after && written before + written after ≤ 7

/-- The groups of an address, with two groups for four bytes at the end. -/
def groupsOf? (cs : List Char) : Option (List (List Char)) :=
  let parts := cs.splitOn ':'
  if parts.length < 3 then none
  else
    let last := parts.getLast?.getD []
    if !last.contains '.' then some parts
    else if isFourBytes last then some (parts.dropLast ++ [['0'], ['0']])
    else none

def isAddress (cs : List Char) : Bool :=
  let (address, zoned) := match Text.cutFirst? '%' cs with
    | some (address, zone) => (address, !zone.isEmpty && !zone.contains '%')
    | none => (cs, true)
  zoned && (groupsOf? address).any areGroups

/-- Whether a text is an address of a later version. -/
def isFuture (cs : List Char) : Bool :=
  match Text.cutFirst? '.' (cs.drop 1) with
  | some (version, rest) => !version.isEmpty && version.all isHex && !rest.isEmpty
  | none => false

/-- Whether a host may stand in brackets. -/
def isLiteral (cs : List Char) : Bool :=
  if cs.head? == some 'v' then isFuture cs else isAddress cs

end KubeManifest.Url
