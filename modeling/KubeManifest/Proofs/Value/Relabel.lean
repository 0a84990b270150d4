import KubeManifest.Proofs.Value.Prune
import KubeManifest.Yaml.Scalar

/-!
# Values with other labels

The label of a value is what tells it from its equals: its mark, and the way it was written.

* `Relabeling`, `Value.relabel` : other marks and other ways of writing, everywhere in a value;
* `Value.text?_relabel`, `Value.isTruthy_relabel` and the like : what a value is does not depend on them;
* `Fields.find?_relabel`, `Value.prune_relabel` : look-up and pruning get along with them;
* `Value.bare` : the value without any label.
-/

namespace KubeManifest

/-- Other ways of writing and other marks. -/
structure Relabeling where
  scalar : Scalar → Scalar
  mark : Option Mark → Option Mark
  unstyled_scalar : ∀ s : Scalar, (scalar s).unstyled = s.unstyled
  scalar_unstyled : ∀ s : Scalar, scalar s.unstyled = s.unstyled
  mark_none : mark none = none

attribute [simp] Relabeling.mark_none

namespace Relabeling

@[simp] theorem scalar_null (ρ : Relabeling) : ρ.scalar .null = .null :=
  ρ.scalar_unstyled .null

@[simp] theorem scalar_text (ρ : Relabeling) (s : String) : ρ.scalar (.text s .plain) = .text s .plain :=
  ρ.scalar_unstyled (.text s .plain)

/-- Whatever does not depend on the way a scalar is written stays as it is. -/
theorem apply_scalar (ρ : Relabeling) {β : Type} (f : Scalar → β) (hf : ∀ s, f s.unstyled = f s) (s : Scalar) :
    f (ρ.scalar s) = f s := by
  rw [← hf, ρ.unstyled_scalar, hf]

def bare : Relabeling where
  scalar := Scalar.unstyled
  mark _ := none
  unstyled_scalar s := by cases s <;> rfl
  scalar_unstyled s := by cases s <;> rfl
  mark_none := rfl

end Relabeling

namespace Value

mutual

def relabel (ρ : Relabeling) : Value → Value
  | scalar s mark => scalar (ρ.scalar s) (ρ.mark mark)
  | list items mark => list (relabelItems ρ items) (ρ.mark mark)
  | map fs mark => map (relabelEntries ρ fs) (ρ.mark mark)

def relabelItems (ρ : Relabeling) : List Value → List Value
  | [] => []
  | x :: xs => relabel ρ x :: relabelItems ρ xs

def relabelEntries (ρ : Relabeling) : List (Value × Value) → List (Value × Value)
  | [] => []
  | (k, v) :: fs => (relabel ρ k, relabel ρ v) :: relabelEntries ρ fs

end

/-- A value without labels. -/
def bare (v : Value) : Value :=
  v.relabel .bare

end Value

def Fields.relabel (ρ : Relabeling) (fs : Fields) : Fields :=
  fs.map fun e => (e.1.relabel ρ, e.2.relabel ρ)

variable (ρ : Relabeling)

namespace Value

theorem relabelItems_eq (xs : List Value) : relabelItems ρ xs = xs.map (relabel ρ) := by
  induction xs with
  | nil => rfl
  | cons x xs ih => rw [relabelItems, ih, List.map_cons]

theorem relabelEntries_eq (fs : Fields) : relabelEntries ρ fs = fs.relabel ρ := by
  induction fs with
  | nil => rfl
  | cons e fs ih => rw [relabelEntries, ih, Fields.relabel, Fields.relabel, List.map_cons]

@[simp] theorem relabel_scalar (s : Scalar) (mark : Option Mark) :
    relabel ρ (.scalar s mark) = .scalar (ρ.scalar s) (ρ.mark mark) := by
  rw [relabel]

@[simp] theorem relabel_list (items : List Value) (mark : Option Mark) :
    relabel ρ (.list items mark) = .list (items.map (relabel ρ)) (ρ.mark mark) := by
  rw [relabel, relabelItems_eq]

@[simp] theorem relabel_map (fs : Fields) (mark : Option Mark) :
    relabel ρ (.map fs mark) = .map (fs.relabel ρ) (ρ.mark mark) := by
  rw [relabel, relabelEntries_eq]

theorem relabel_null : relabel ρ .null = .null := by
  simp

theorem relabel_ofString (s : String) : relabel ρ (.ofString s) = .ofString s := by
  simp

theorem relabel_ofInt (n : Int) : relabel ρ (.ofInt n) = .ofInt n := by
  rw [relabel_scalar, ρ.mark_none]
  exact congrArg (scalar · none) (ρ.scalar_unstyled (.int n none))

theorem relabel_ofBool (b : Bool) : relabel ρ (.ofBool b) = .ofBool b := by
  rw [relabel_scalar, ρ.mark_none]
  exact congrArg (scalar · none) (ρ.scalar_unstyled (.bool b))

theorem relabel_float (x : Binary64) : relabel ρ (.scalar (.float x none) none) = .scalar (.float x none) none := by
  rw [relabel_scalar, ρ.mark_none]
  exact congrArg (scalar · none) (ρ.scalar_unstyled (.float x none))

theorem relabel_ofList (items : List Value) : relabel ρ (.ofList items) = .ofList (items.map (relabel ρ)) := by
  simp

theorem relabel_ofFields (fs : Fields) : relabel ρ (.ofFields fs) = .ofFields (fs.relabel ρ) := by
  simp

/-! ## What a value is -/

@[simp] theorem text?_relabel (v : Value) : (v.relabel ρ).text? = v.text? := by
  cases v with
  | scalar s mark =>
    rw [relabel_scalar]
    exact (ρ.apply_scalar (fun s => (Value.scalar s (ρ.mark mark)).text?) (fun s => by cases s <;> rfl) s).trans
      (by cases s <;> rfl)
  | list items mark => simp [text?]
  | map fs mark => simp [text?]

@[simp] theorem isText_relabel (v : Value) (s : String) : (v.relabel ρ).isText s = v.isText s := by
  rw [isText, isText, text?_relabel]

theorem isText_relabel_eq (v : Value) : (v.relabel ρ).isText = v.isText :=
  funext (isText_relabel ρ v)

@[simp] theorem isNull_relabel (v : Value) : (v.relabel ρ).isNull = v.isNull := by
  cases v with
  | scalar s mark =>
    rw [relabel_scalar]
    exact (ρ.apply_scalar (fun s => (Value.scalar s (ρ.mark mark)).isNull) (fun s => by cases s <;> rfl) s).trans
      (by cases s <;> rfl)
  | list items mark => simp
  | map fs mark => simp

@[simp] theorem isTruthy_relabel (v : Value) : (v.relabel ρ).isTruthy = v.isTruthy := by
  cases v with
  | scalar s mark =>
    rw [relabel_scalar]
    exact (ρ.apply_scalar (fun s => (Value.scalar s (ρ.mark mark)).isTruthy) (fun s => by cases s <;> rfl) s).trans
      (by cases s <;> rfl)
  | list items mark => simp [isTruthy]
  | map fs mark => simp [isTruthy, Fields.relabel]

@[simp] theorem isScalar_relabel (v : Value) : (v.relabel ρ).isScalar = v.isScalar := by
  cases v <;> simp [isScalar]

@[simp] theorem isMap_relabel (v : Value) : (v.relabel ρ).isMap = v.isMap := by
  cases v <;> simp [isMap]

@[simp] theorem fields?_relabel (v : Value) : (v.relabel ρ).fields? = v.fields?.map (Fields.relabel ρ) := by
  cases v <;> simp [fields?]

theorem orElse_relabel (v w : Value) : (v.relabel ρ).orElse (w.relabel ρ) = (v.orElse w).relabel ρ := by
  rw [orElse, orElse, isTruthy_relabel]
  split <;> rfl

end Value

/-! ## Entries -/

namespace Fields

@[simp] theorem relabel_nil : relabel ρ [] = [] := rfl

@[simp] theorem relabel_cons (k v : Value) (fs : Fields) :
    relabel ρ ((k, v) :: fs) = (k.relabel ρ, v.relabel ρ) :: fs.relabel ρ := rfl

@[simp] theorem isEmpty_relabel (fs : Fields) : (fs.relabel ρ).isEmpty = fs.isEmpty :=
  List.isEmpty_map

theorem relabel_append (fs gs : Fields) : relabel ρ (fs ++ gs) = fs.relabel ρ ++ gs.relabel ρ :=
  List.map_append

/-- Steps that get along with other labels, one after the other. -/
theorem foldl_relabel {step : Fields → Value × Value → Fields}
    (h : ∀ gs e, step (gs.relabel ρ) (e.1.relabel ρ, e.2.relabel ρ) = (step gs e).relabel ρ) (fs gs : Fields) :
    (fs.relabel ρ).foldl step (gs.relabel ρ) = (fs.foldl step gs).relabel ρ := by
  induction fs generalizing gs with
  | nil => rfl
  | cons e fs ih => rw [relabel_cons, List.foldl_cons, List.foldl_cons, h, ih]

/-- A choice of entries that does not depend on the labels of their keys. -/
theorem relabel_filter {p : Value → Bool} (hp : ∀ k : Value, p (k.relabel ρ) = p k) (fs : Fields) :
    (fs.relabel ρ).filter (fun e => p e.1) = relabel ρ (fs.filter fun e => p e.1) := by
  rw [relabel, List.filter_map, relabel]
  congr 1
  exact List.filter_congr fun e _ => hp e.1

@[simp] theorem find?_relabel (fs : Fields) (name : String) :
    find? (fs.relabel ρ) name = (find? fs name).map (Value.relabel ρ) := by
  induction fs with
  | nil => rfl
  | cons e fs ih =>
    obtain ⟨k, v⟩ := e
    rw [relabel_cons, find?_cons, find?_cons, Value.isText_relabel, ih]
    split <;> rfl

@[simp] theorem get_relabel (fs : Fields) (name : String) : get (fs.relabel ρ) name = (get fs name).relabel ρ := by
  rw [get, get, find?_relabel]
  cases find? fs name <;> simp

theorem set_relabel (fs : Fields) (name : String) (v : Value) :
    set (fs.relabel ρ) name (v.relabel ρ) = relabel ρ (set fs name v) := by
  induction fs with
  | nil => simp [set]
  | cons e fs ih =>
    obtain ⟨k, old⟩ := e
    rw [relabel_cons, set, set, Value.isText_relabel, ih]
    split <;> rfl

theorem erase_relabel (fs : Fields) (name : String) : erase (fs.relabel ρ) name = relabel ρ (erase fs name) :=
  relabel_filter ρ (p := fun k => !k.isText name) (fun k => by simp) fs

theorem except_relabel (fs : Fields) (names : List String) :
    except (fs.relabel ρ) names = relabel ρ (except fs names) :=
  relabel_filter ρ (p := fun k => !names.any k.isText) (fun k => by simp [Value.isText_relabel_eq]) fs

end Fields

/-! ## Pruning and ordering -/

namespace Value

theorem pruneEntries_relabel_of {fs : Fields} (h : ∀ e ∈ fs, (e.2.relabel ρ).prune = e.2.prune.relabel ρ) :
    pruneEntries (fs.relabel ρ) = Fields.relabel ρ (pruneEntries fs) := by
  induction fs with
  | nil => rfl
  | cons e fs ih =>
    obtain ⟨k, v⟩ := e
    obtain ⟨hv, hfs⟩ := List.forall_mem_cons.mp h
    rw [Fields.relabel_cons, pruneEntries, pruneEntries, ih hfs, hv, isNull_relabel]
    cases v.prune.isNull <;> rfl

theorem pruneItems_relabel_of {xs : List Value} (h : ∀ x ∈ xs, (x.relabel ρ).prune = x.prune.relabel ρ) :
    pruneItems (xs.map (relabel ρ)) = (pruneItems xs).map (relabel ρ) := by
  induction xs with
  | nil => rfl
  | cons x xs ih =>
    obtain ⟨hx, hxs⟩ := List.forall_mem_cons.mp h
    rw [List.map_cons, pruneItems, pruneItems, ih hxs, hx, isNull_relabel]
    cases x.prune.isNull <;> rfl

theorem prune_relabel (v : Value) : (v.relabel ρ).prune = v.prune.relabel ρ := by
  induction v using induct with
  | scalar s mark => simp [prune]
  | list items mark ih =>
    rw [relabel_list, prune, prune, pruneItems_relabel_of ρ ih, List.isEmpty_map]
    split <;> simp
  | map fs mark ih => rw [relabel_map, prune, prune, pruneEntries_relabel_of ρ ih, relabel_ofFields]

theorem pruneEntries_relabel (fs : Fields) : pruneEntries (fs.relabel ρ) = Fields.relabel ρ (pruneEntries fs) :=
  pruneEntries_relabel_of ρ fun e _ => prune_relabel ρ e.2

end Value

namespace Manifest

theorem order_relabel (fs : Fields) : order (fs.relabel ρ) = (order fs).relabel ρ := by
  have hnames : ∀ name, (fs.relabel ρ).filter (fun e => e.1.isText name) =
      Fields.relabel ρ (fs.filter fun e => e.1.isText name) :=
    fun name => Fields.relabel_filter ρ (p := fun k => k.isText name) (fun k => by simp) fs
  have hothers := Fields.relabel_filter ρ (p := fun k => !leadingNames.any k.isText)
    (fun k => by simp [Value.isText_relabel_eq]) fs
  unfold order
  simp only [hnames, hothers, Fields.relabel_append]
  congr 1
  unfold Fields.relabel
  rw [List.map_flatMap]

theorem arrange_relabel (fs : Fields) : arrange (fs.relabel ρ) = (arrange fs).relabel ρ := by
  rw [arrange, arrange, Value.pruneEntries_relabel, order_relabel]

end Manifest

end KubeManifest
