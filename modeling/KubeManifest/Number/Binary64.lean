/-!
# Double-precision numbers, exactly

* `Binary64` : a sign with a whole mantissa and an exponent of two, an infinity, or not a number;
* `Binary64.ofRatio`, `Binary64.ofDecimal` : the double nearest to a fraction or to a decimal, a tie
  going to the even mantissa;
* `Binary64.magnitude` : the absolute value as a fraction;
* `Binary64.equals`, `Binary64.equalsInt` : comparison by value; zero has two signs, and what is not
  a number differs from everything.
-/

namespace KubeManifest

/-- A double-precision number. Mantissas are below `2 ^ 53`, exponents at least `-1074`, and a mantissa
below `2 ^ 52` has the least exponent, so that every number has one form. -/
inductive Binary64
  | finite (negative : Bool) (mantissa : Nat) (exponent : Int)
  | infinite (negative : Bool)
  | notANumber
deriving DecidableEq, Repr

namespace Binary64

def signedZero (negative : Bool) : Binary64 :=
  .finite negative 0 (-1074)

/-- The whole number nearest to a fraction, a tie going to the even one. -/
def roundDiv (num den : Nat) : Nat :=
  let q := num / den
  let r := num % den
  if 2 * r < den then q
  else if den < 2 * r then q + 1
  else if q % 2 == 0 then q else q + 1

/-- The fraction `num / den` divided by a power of two, as a new fraction. -/
def scaleDown (num den : Nat) (exponent : Int) : Nat × Nat :=
  match exponent with
  | .ofNat e => (num, den * Nat.pow 2 e)
  | .negSucc e => (num * Nat.pow 2 (e + 1), den)

/-- The least exponent at which the fraction has a mantissa below `2 ^ 53`. -/
def exponentOf (num den : Nat) : Int :=
  let guess : Int := (num.log2 : Int) - (den.log2 : Int) - 53
  let fits (e : Int) : Bool :=
    let (n, d) := scaleDown num den e
    n < Nat.pow 2 53 * d
  let e := if fits guess then guess else if fits (guess + 1) then guess + 1 else guess + 2
  max e (-1074)

/-- The double nearest to a fraction with a positive denominator. -/
def ofRatio (negative : Bool) (num den : Nat) : Binary64 :=
  if num == 0 then signedZero negative
  else
    let e := exponentOf num den
    let (n, d) := scaleDown num den e
    let m := roundDiv n d
    let (m, e) := if m == Nat.pow 2 53 then (Nat.pow 2 52, e + 1) else (m, e)
    if e > 971 then .infinite negative else .finite negative m e

/-- The double nearest to `digits * 10 ^ exponent`. Exponents far out of range are settled without
the power. -/
def ofDecimal (negative : Bool) (digits : Nat) (exponent : Int) : Binary64 :=
  if digits == 0 then signedZero negative
  else
    let size : Int := (digits.log2 : Int) / 3 + exponent
    if size > 400 ∧ exponent > 0 then .infinite negative
    else if size < -400 then signedZero negative
    else
      match exponent with
      | .ofNat e => ofRatio negative (digits * Nat.pow 10 e) 1
      | .negSucc e => ofRatio negative digits (Nat.pow 10 (e + 1))

/-- The double nearest to a whole number. -/
def ofInt (n : Int) : Binary64 :=
  ofRatio (n < 0) n.natAbs 1

/-- Whether the sign is negative, of zero too. -/
def isNegative : Binary64 → Bool
  | finite negative _ _ => negative
  | infinite negative => negative
  | notANumber => false

def isZero : Binary64 → Bool
  | finite _ m _ => m == 0
  | _ => false

/-- The absolute value of a finite number as a fraction. -/
def ratio (mantissa : Nat) (exponent : Int) : Nat × Nat :=
  match exponent with
  | .ofNat e => (mantissa * Nat.pow 2 e, 1)
  | .negSucc e => (mantissa, Nat.pow 2 (e + 1))

/-- The absolute value as a fraction; infinities and what is not a number have none. -/
def magnitude : Binary64 → Option (Nat × Nat)
  | finite _ m e => some (ratio m e)
  | _ => none

def equals : Binary64 → Binary64 → Bool
  | notANumber, _ => false
  | _, notANumber => false
  | x, y => x == y || (x.isZero && y.isZero)

def equalsInt (x : Binary64) (n : Int) : Bool :=
  match x with
  | finite negative m e =>
    let (num, den) := ratio m e
    let value : Int := if negative then -(num : Int) else num
    value == n * den
  | _ => false

end Binary64

end KubeManifest
