import KubeManifest.Value.Basic

/-!
# Equality of values

`Value.same` compares by value: numbers and truth values as numbers, texts and moments whatever the way they
were written, and mappings without regard to the order of their entries. What is not a number
differs from itself.
-/

namespace KubeManifest

namespace Moment

/-- Equality by place on the time line. A date differs from every instant, and an instant with an
offset from every one without. -/
def same : Moment → Moment → Bool
  | date d, date e => d == e
  | instant d c o, instant e k p =>
    o.isSome == p.isSome &&
      (instant d c o).microseconds == (instant e k p).microseconds
  | _, _ => false

end Moment

namespace Scalar

def whole? : Scalar → Option Int
  | bool b => some (if b then 1 else 0)
  | int n _ => some n
  | _ => none

def same (a b : Scalar) : Bool :=
  match a.whole?, b.whole? with
  | some m, some n => m == n
  | some m, none => match b with
    | float y _ => y.equalsInt m
    | _ => false
  | none, some n => match a with
    | float x _ => x.equalsInt n
    | _ => false
  | none, none => match a, b with
    | null, null => true
    | float x _, float y _ => x.equals y
    | text s _, text t _ => s == t
    | moment m _, moment n _ => m.same n
    | _, _ => false

end Scalar

namespace Value

mutual

def same : Value → Value → Bool
  | scalar a _, scalar b _ => a.same b
  | list xs _, list ys _ => sameItems xs ys
  | map fs _, map gs _ => fs.length == gs.length && sameEntries fs gs
  | _, _ => false

def sameItems : List Value → List Value → Bool
  | [], [] => true
  | x :: xs, y :: ys => same x y && sameItems xs ys
  | _, _ => false

/-- Whether every entry of the first mapping is one of the second. -/
def sameEntries : List (Value × Value) → List (Value × Value) → Bool
  | [], _ => true
  | (k, v) :: fs, gs => (gs.any fun (l, w) => same k l && same v w) && sameEntries fs gs

end

end Value

def Fields.hasKey (fs : Fields) (key : Value) : Bool :=
  fs.any fun (k, _) => k.same key

end KubeManifest
