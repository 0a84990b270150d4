import KubeManifest.Failure
import KubeManifest.Text.Case
import KubeManifest.Url.Literal

/-!
# Addresses

* `Url.split?` : scheme, authority and path of an address; everything after a `?` or `#` is left out;
* `Url.host?`, `Url.port` : the parts of an authority after the user.
-/

namespace KubeManifest

/-- The parts of an address that a request needs. -/
structure Url where
  scheme : String
  authority : List Char
  path : String
deriving DecidableEq, Repr

namespace Url

/-! ## Splitting -/

def isSchemeChar (c : Char) : Bool :=
  c.isAlpha || c.isDigit || c == '+' || c == '-' || c == '.'

def cutScheme (cs : List Char) : List Char × List Char :=
  match Text.cutFirst? ':' cs with
  | some (scheme, rest) =>
    if (scheme.head?.any Char.isAlpha) && scheme.all isSchemeChar then (scheme.map Char.toLower, rest)
    else ([], cs)
  | none => ([], cs)

/-- The authority after two slashes, and the rest. -/
def cutAuthority (cs : List Char) : List Char × List Char :=
  match cs with
  | '/' :: '/' :: rest => rest.span fun c => c != '/' && c != '?' && c != '#'
  | _ => ([], cs)

def hostPart (authority : List Char) : List Char :=
  match Text.cutLast? '@' authority with
  | some (_, rest) => rest
  | none => authority

/--
Whether brackets in an authority stand around the whole host. This is the stricter of two rules, that of
the URL library in its releases from 3.11.12 on and in older ones that took it over. Before, text around the
brackets was let through.
-/
def hasSoundBrackets (authority : List Char) : Bool :=
  let part := hostPart authority
  match Text.cutFirst? '[' part with
  | some (before, bracketed) =>
    match Text.cutFirst? ']' bracketed with
    | some (host, after) =>
      before.isEmpty && (after.isEmpty || after.head? == some ':') && isLiteral host
    | none => before.isEmpty && isLiteral bracketed
  | none => isLiteral (part.takeWhile (· != ':'))

/-- Characters that are compatible with a text with a slash, question mark, number sign, at sign or
colon. -/
def lookalikes : CharSet := .ofHex
  "2047-2049 2100-2101 2105-2106 2A74 FE13 FE16 FE55-FE56 FE5F FE6B FF03 FF0F FF1A FF1F FF20"

/-- Whether an authority can be told from the rest of the address. -/
def isSound (authority : List Char) : Bool :=
  authority.contains '[' == authority.contains ']' &&
    (!authority.contains '[' || hasSoundBrackets authority) &&
    !authority.any lookalikes.contains

/-- The characters of an address that count: not the blanks and control characters before it, and no tabs and line
ends. -/
def counted (s : String) : List Char :=
  (s.toList.dropWhile fun c => decide (c.toNat ≤ 0x20)).filter fun c => c != '\t' && c != '\r' && c != '\n'

def split? (s : String) : Option Url :=
  let (scheme, rest) := cutScheme (counted s)
  let (authority, rest) := cutAuthority rest
  if isSound authority then
    some ⟨String.ofList scheme, authority,
      String.ofList (rest.takeWhile fun c => c != '?' && c != '#')⟩
  else none

/-! ## Host and port -/

def hostAndPort (authority : List Char) : List Char × List Char :=
  let part := hostPart authority
  match Text.cutFirst? '[' part with
  | some (_, bracketed) =>
    match Text.cutFirst? ']' bracketed with
    | some (host, after) => (host, ((Text.cutFirst? ':' after).map (·.2)).getD [])
    | none => (bracketed, [])
  | none => (Text.cutFirst? ':' part).getD (part, [])

/-- The host in lower case, apart from its zone. -/
def host? (u : Url) : Option String :=
  let (host, _) := hostAndPort u.authority
  if host.isEmpty then none
  else
    let (name, zone) := host.span (· != '%')
    some (Text.lower (String.ofList name) ++ String.ofList zone)

def maxPort : Nat := 65535

def port (u : Url) : Except UrlPortFault (Option Nat) :=
  let (_, port) := hostAndPort u.authority
  if port.isEmpty then .ok none
  else if !port.all Char.isDigit then .error (.notNumber (String.ofList port))
  else if port.length > Number.maxDigits then .error (.tooLong port.length)
  else
    let n := CharSet.decimalNumber port
    if n > maxPort then .error .outOfRange else .ok (some n)

end Url

end KubeManifest
