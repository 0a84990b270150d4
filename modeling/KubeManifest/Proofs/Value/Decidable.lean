import KubeManifest.Value.Basic

/-!
# Whether two values are one

`Value.equal` compares values with their marks and ways of writing, so that what is computed can be compared with
what was expected.
-/

namespace KubeManifest.Value

mutual

def equal : Value → Value → Bool
  | scalar s mark, w =>
    match w with
    | scalar t mark' => s == t && mark == mark'
    | _ => false
  | list items mark, w =>
    match w with
    | list items' mark' => equalItems items items' && mark == mark'
    | _ => false
  | map fs mark, w =>
    match w with
    | map fs' mark' => equalEntries fs fs' && mark == mark'
    | _ => false

def equalItems : List Value → List Value → Bool
  | [], ys => ys.isEmpty
  | x :: xs, ys =>
    match ys with
    | y :: ys => equal x y && equalItems xs ys
    | [] => false

def equalEntries : List (Value × Value) → List (Value × Value) → Bool
  | [], gs => gs.isEmpty
  | (k, v) :: fs, gs =>
    match gs with
    | (k', v') :: gs => equal k k' && equal v v' && equalEntries fs gs
    | [] => false

end

mutual

theorem equal_iff : ∀ v w : Value, equal v w = true ↔ v = w
  | scalar s mark, w => by cases w <;> simp [equal]
  | list items mark, w => by
    cases w with
    | list items' mark' => simp [equal, equalItems_iff items items']
    | _ => simp [equal]
  | map fs mark, w => by
    cases w with
    | map fs' mark' => simp [equal, equalEntries_iff fs fs']
    | _ => simp [equal]

theorem equalItems_iff : ∀ xs ys : List Value, equalItems xs ys = true ↔ xs = ys
  | [], ys => by cases ys <;> simp [equalItems]
  | x :: xs, ys => by
    cases ys with
    | nil => simp [equalItems]
    | cons y ys => simp [equalItems, equal_iff x y, equalItems_iff xs ys]

theorem equalEntries_iff : ∀ fs gs : List (Value × Value), equalEntries fs gs = true ↔ fs = gs
  | [], gs => by cases gs <;> simp [equalEntries]
  | (k, v) :: fs, gs => by
    cases gs with
    | nil => simp [equalEntries]
    | cons e gs => simp [equalEntries, equal_iff k, equal_iff v, equalEntries_iff fs gs, Prod.ext_iff]

end

instance : DecidableEq Value :=
  fun v w => decidable_of_iff (equal v w = true) (equal_iff v w)

end KubeManifest.Value
