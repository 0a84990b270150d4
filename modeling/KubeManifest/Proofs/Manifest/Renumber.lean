import KubeManifest.Manifest.Format
import KubeManifest.Proofs.Resource.Renumber

/-!
# Manifests of documents with other numbers

* `Yaml.Node.ofValue_renumber` : a value is written as the same node, if different numbers stay different;
* `Format.write_renumber` : so a manifest has the same text.
-/

namespace KubeManifest

open Relabeling (renumber)

variable {f : Nat → Nat}

/-! ## JSON -/

namespace Json

theorem scalar_renumber (s : Scalar) (mark : Option Mark) : scalar s ((renumber f).mark mark) = scalar s mark := by
  cases s <;> simp [scalar, truth]

theorem key?_renumber (v : Value) : key? (v.relabel (renumber f)) = key? v := by
  cases v with
  | scalar s mark => cases s <;> simp [key?, scalar_renumber]
  | list items mark => simp [key?]
  | map fs mark => simp [key?]

mutual

theorem render?_renumber : ∀ (depth : Nat) (v : Value), render? depth (v.relabel (renumber f)) = render? depth v
  | depth, .scalar s mark => by rw [Value.relabel_scalar, render?, render?, Relabeling.renumber_scalar, scalar_renumber]
  | depth, .list items mark => by rw [Value.relabel_list, render?, render?, renderItems?_renumber _ items]
  | depth, .map fs mark => by rw [Value.relabel_map, render?, render?, renderEntries?_renumber _ fs]

theorem renderItems?_renumber : ∀ (depth : Nat) (xs : List Value),
    renderItems? depth (xs.map (Value.relabel (renumber f))) = renderItems? depth xs
  | _, [] => rfl
  | depth, x :: xs => by
    rw [List.map_cons, renderItems?, renderItems?, render?_renumber depth x, renderItems?_renumber depth xs]

theorem renderEntries?_renumber : ∀ (depth : Nat) (fs : List (Value × Value)),
    renderEntries? depth (Fields.relabel (renumber f) fs) = renderEntries? depth fs
  | _, [] => rfl
  | depth, (k, v) :: fs => by
    rw [Fields.relabel_cons, renderEntries?, renderEntries?, key?_renumber, render?_renumber depth v,
      renderEntries?_renumber depth fs]

end

end Json

/-! ## YAML -/

namespace Yaml

mutual

theorem momentOrigins_renumber : ∀ v : Value,
    momentOrigins (v.relabel (renumber f)) = (momentOrigins v).map (Origin.renumber f)
  | .scalar s mark => by cases s <;> cases mark <;> simp [momentOrigins, Origin.renumber]
  | .list items mark => by rw [Value.relabel_list, momentOrigins, momentOrigins, itemOrigins_renumber items]
  | .map fs mark => by rw [Value.relabel_map, momentOrigins, momentOrigins, entryOrigins_renumber fs]

theorem itemOrigins_renumber : ∀ xs : List Value,
    itemOrigins (xs.map (Value.relabel (renumber f))) = (itemOrigins xs).map (Origin.renumber f)
  | [] => rfl
  | x :: xs => by
    rw [List.map_cons, itemOrigins, itemOrigins, momentOrigins_renumber x, itemOrigins_renumber xs, List.map_append]

theorem entryOrigins_renumber : ∀ fs : List (Value × Value),
    entryOrigins (Fields.relabel (renumber f) fs) = (entryOrigins fs).map (Origin.renumber f)
  | [] => rfl
  | (k, v) :: fs => by
    rw [Fields.relabel_cons, entryOrigins, entryOrigins, momentOrigins_renumber k, momentOrigins_renumber v,
      entryOrigins_renumber fs, List.map_append, List.map_append]

end

/-! ### Names -/

section map

variable {α β : Type} [DecidableEq α] [DecidableEq β] {g : α → β}

theorem contains_map (hg : Function.Injective g) (xs : List α) (x : α) : (xs.map g).contains (g x) = xs.contains x := by
  rw [Bool.eq_iff_iff, List.contains_iff_mem, List.contains_iff_mem, List.mem_map]
  exact ⟨fun ⟨y, hy, h⟩ => hg h ▸ hy, fun h => ⟨x, h, rfl⟩⟩

theorem beq_map (hg : Function.Injective g) (x y : α) : (g x == g y) = (x == y) := by
  rw [Bool.eq_iff_iff, beq_iff_eq, beq_iff_eq, hg.eq_iff]

theorem eraseDups_map (hg : Function.Injective g) (xs : List α) : (xs.map g).eraseDups = xs.eraseDups.map g := by
  match xs with
  | [] => rfl
  | x :: xs =>
    have hlength := List.length_filter_le (fun y => !y == x) xs
    have hne : ((fun y => !y == g x) ∘ g) = fun y => !y == x := funext fun y => congrArg not (beq_map hg y x)
    rw [List.map_cons, List.eraseDups_cons, List.eraseDups_cons, List.filter_map, hne, eraseDups_map hg, List.map_cons]
termination_by xs.length
decreasing_by exact Nat.lt_succ_of_le hlength

theorem lookup_map {γ : Type} (hg : Function.Injective g) (xs : List (α × γ)) (x : α) :
    (xs.map (Prod.map g id)).lookup (g x) = xs.lookup x := by
  induction xs with
  | nil => rfl
  | cons e xs ih => rw [List.map_cons, Prod.map, List.lookup_cons, List.lookup_cons, beq_map hg, ih]; rfl

end map

theorem repeated_renumber (hf : Function.Injective f) (seen os : List Origin) :
    repeated (seen.map (Origin.renumber f)) (os.map (Origin.renumber f)) =
      (repeated seen os).map (Origin.renumber f) := by
  induction os generalizing seen with
  | nil => rfl
  | cons o os ih =>
    rw [List.map_cons, repeated, repeated, contains_map (Origin.renumber_injective hf), ← List.map_cons, ih, ih]
    split <;> rfl

def Naming.renumber (f : Nat → Nat) (naming : Naming) : Naming where
  numbered := naming.numbered.map (Prod.map (Origin.renumber f) id)
  written := naming.written.map (Origin.renumber f)

theorem Naming.of_renumber (hf : Function.Injective f) (fs : Fields) :
    Naming.of (fs.relabel (.renumber f)) = (Naming.of fs).renumber f := by
  unfold Naming.of
  rw [entryOrigins_renumber, show [] = List.map (Origin.renumber f) [] from rfl, repeated_renumber hf,
    eraseDups_map (Origin.renumber_injective hf)]
  simp [Naming.renumber, List.zip_map_left]

theorem Naming.name?_renumber (hf : Function.Injective f) (naming : Naming) (m : Mark) :
    (naming.renumber f).name? ⟨m.origin.renumber f, m.anchor⟩ = naming.name? m := by
  unfold name?
  rw [renumber, lookup_map (Origin.renumber_injective hf)]

/-! ### Nodes -/

theorem scalarNode_renumber (hf : Function.Injective f) (naming : Naming) (place : Place) (s : Scalar)
    (mark : Option Mark) :
    scalarNode (naming.renumber f) place s ((renumber f).mark mark) =
      ((scalarNode naming place s mark).1, (scalarNode naming place s mark).2.renumber f) := by
  cases mark with
  | none => rfl
  | some m =>
    have hname := Naming.name?_renumber hf naming m
    have hwritten : (naming.renumber f).written.contains (m.origin.renumber f) = naming.written.contains m.origin :=
      contains_map (Origin.renumber_injective hf) _ _
    rw [Relabeling.renumber_mark_some, scalarNode, scalarNode]
    dsimp only
    rw [hname]
    cases naming.name? m with
    | none => rfl
    | some name =>
      dsimp only
      rw [hwritten]
      split <;> rfl

theorem keyPlace_renumber (hf : Function.Injective f) (naming : Naming) (k : Value) :
    keyPlace (naming.renumber f) (k.relabel (renumber f)) = keyPlace naming k := by
  cases k with
  | scalar s mark =>
    cases mark with
    | none => simp [keyPlace]
    | some m => simp [keyPlace, Naming.name?_renumber hf]
  | list items mark => simp [keyPlace]
  | map fs mark => simp [keyPlace]

mutual

theorem Node.ofValue_renumber (hf : Function.Injective f) (naming : Naming) (place : Place) : ∀ v : Value,
    Node.ofValue (naming.renumber f) place (v.relabel (renumber f)) =
      ((Node.ofValue naming place v).1, (Node.ofValue naming place v).2.renumber f)
  | .scalar s mark => by
    rw [Value.relabel_scalar, Node.ofValue, Node.ofValue, Relabeling.renumber_scalar, scalarNode_renumber hf]
  | .list items mark => by
    rw [Value.relabel_list, Node.ofValue, Node.ofValue, itemNodes_renumber hf naming place items]
  | .map fs mark => by
    rw [Value.relabel_map, Node.ofValue, Node.ofValue, entryNodes_renumber hf naming place fs]

theorem itemNodes_renumber (hf : Function.Injective f) (naming : Naming) (place : Place) : ∀ xs : List Value,
    itemNodes (naming.renumber f) place (xs.map (Value.relabel (renumber f))) =
      ((itemNodes naming place xs).1, (itemNodes naming place xs).2.renumber f)
  | [] => rfl
  | x :: xs => by
    rw [List.map_cons, itemNodes, itemNodes, Node.ofValue_renumber hf naming place x]
    dsimp only
    rw [itemNodes_renumber hf _ place xs]

theorem entryNodes_renumber (hf : Function.Injective f) (naming : Naming) (place : Place) :
    ∀ fs : List (Value × Value),
      entryNodes (naming.renumber f) place (Fields.relabel (renumber f) fs) =
        ((entryNodes naming place fs).1, (entryNodes naming place fs).2.renumber f)
  | [] => rfl
  | (k, v) :: fs => by
    rw [Fields.relabel_cons, entryNodes, entryNodes, keyPlace_renumber hf, Node.ofValue_renumber hf naming _ k]
    dsimp only
    rw [Node.ofValue_renumber hf _ _ v]
    dsimp only
    rw [entryNodes_renumber hf _ place fs]

end

theorem Node.ofFields_renumber (hf : Function.Injective f) (fs : Fields) :
    Node.ofFields (fs.relabel (renumber f)) = Node.ofFields fs := by
  rw [Node.ofFields, Node.ofFields, Naming.of_renumber hf, entryNodes_renumber hf]

end Yaml

/-! ## Manifests -/

/-- What is written does not depend on the numbers of documents. -/
theorem Format.write_renumber (hf : Function.Injective f) (format : Format) (fs : Fields) :
    format.write (fs.relabel (renumber f)) = format.write fs := by
  cases format with
  | yaml => rw [write, write, Yaml.render, Yaml.render, Yaml.Node.ofFields_renumber hf]
  | json => rw [write, write, ← Value.relabel_ofFields, Json.render, Json.render, Json.render?_renumber]

end KubeManifest
