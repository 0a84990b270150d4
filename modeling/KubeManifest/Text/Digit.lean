import KubeManifest.Text.CharSet

/-!
# Digits of every script

* `Text.digitValue?` : the value of a decimal digit; the digits of a script are ten code points in
  a row, so a list of the zeros gives them all (Unicode 14);
* `Text.isDigit` : decimal digits and the superscript, subscript and enclosed ones, which have no
  place value.
-/

namespace KubeManifest.Text

def decimalZeros : CharSet := .ofHex <|
  "30 660 6F0 7C0 966 9E6 A66 AE6 B66 BE6 C66 CE6 D66 DE6 E50 ED0 F20 1040 1090 17E0 1810 1946 19D0 1A80 " ++
  "1A90 1B50 1BB0 1C40 1C50 A620 A8D0 A900 A9D0 A9F0 AA50 ABF0 FF10 104A0 10D30 11066 110F0 11136 111D0 " ++
  "112F0 11450 114D0 11650 116C0 11730 118E0 11950 11C50 11D50 11DA0 16A60 16AC0 16B50 1D7CE 1D7D8 1D7E2 " ++
  "1D7EC 1D7F6 1E140 1E2F0 1E950 1FBF0"

/-- Digits that do not stand for a place in a decimal number. -/
def detachedDigits : CharSet := .ofHex <|
  "B2-B3 B9 1369-1371 19DA 2070 2074-2079 2080-2089 2460-2468 2474-247C 2488-2490 24EA 24F5-24FD 24FF " ++
  "2776-277E 2780-2788 278A-2792 10A40-10A43 10E60-10E68 11052-1105A 1F100-1F10A"

def digitValue? (c : Char) : Option Nat :=
  if c.toNat < 128 then
    if c.isDigit then some (c.toNat - '0'.toNat) else none
  else
    (decimalZeros.ranges.find? fun (first, _) => first ≤ c.toNat && c.toNat ≤ first + 9).map
      fun (first, _) => c.toNat - first

/-- Whether a character is a digit, decimal or detached. -/
def isDigit (c : Char) : Bool :=
  (digitValue? c).isSome || detachedDigits.contains c

end KubeManifest.Text
