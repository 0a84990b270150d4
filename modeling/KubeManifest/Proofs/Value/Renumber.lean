import KubeManifest.Proofs.Value.Plain
import KubeManifest.Proofs.Value.Relabel
import KubeManifest.Value.Same

/-!
# Values of documents with other numbers

The number of a document tells the places of its values from those in other documents.

* `Relabeling.renumber` : other numbers for the documents that the marks of a value name;
* `Value.quoted_renumber`, `Value.kindName_renumber`, `Value.same_renumber` : neither the text of a value nor its
  kind nor its equals depend on these numbers;
* `Value.plain_renumber`, `Model.compact_renumber` : copying and writing get along with them;
* `Value.Unnumbered`, `Fields.Unnumbered` : a value, and entries, that name no document.
-/

namespace KubeManifest

/-- The same place in a document with another number. -/
def Origin.renumber (f : Nat → Nat) (o : Origin) : Origin :=
  ⟨f o.document, o.offset⟩

/-- Other numbers for the documents that values were read from. -/
def Relabeling.renumber (f : Nat → Nat) : Relabeling where
  scalar s := s
  mark := Option.map fun m => ⟨m.origin.renumber f, m.anchor⟩
  unstyled_scalar _ := rfl
  scalar_unstyled _ := rfl
  mark_none := rfl

theorem Origin.renumber_injective {f : Nat → Nat} (hf : Function.Injective f) : Function.Injective (renumber f) := by
  rintro ⟨d, o⟩ ⟨d', o'⟩ h
  obtain ⟨hd, ho⟩ := Origin.mk.inj h
  exact congr (congrArg Origin.mk (hf hd)) ho

open Relabeling (renumber)

variable (f : Nat → Nat)

namespace Relabeling

@[simp] theorem renumber_scalar (s : Scalar) : (renumber f).scalar s = s := rfl

@[simp] theorem renumber_mark_some (m : Mark) :
    (renumber f).mark (some m) = some ⟨m.origin.renumber f, m.anchor⟩ := rfl

@[simp] theorem anchor_renumber (mark : Option Mark) :
    ((renumber f).mark mark).bind (·.anchor) = mark.bind (·.anchor) := by
  cases mark <;> rfl

@[simp] theorem isSome_renumber (mark : Option Mark) : ((renumber f).mark mark).isSome = mark.isSome := by
  cases mark <;> rfl

end Relabeling

namespace Value

/-! ## Texts -/

theorem quotedScalar_renumber (s : Scalar) (mark : Option Mark) :
    quotedScalar s ((renumber f).mark mark) = quotedScalar s mark := by
  cases s <;> simp [quotedScalar, truthText]

mutual

theorem quoted_renumber : ∀ v : Value, (v.relabel (renumber f)).quoted = v.quoted
  | .scalar s mark => by
    rw [relabel_scalar, quoted, quoted, Relabeling.renumber_scalar, quotedScalar_renumber]
  | .list items mark => by rw [relabel_list, quoted, quoted, quotedItems_renumber items]
  | .map fs mark => by rw [relabel_map, quoted, quoted, quotedEntries_renumber fs]

theorem quotedItems_renumber : ∀ items : List Value, quotedItems (items.map (relabel (renumber f))) = quotedItems items
  | [] => rfl
  | x :: xs => by rw [List.map_cons, quotedItems, quotedItems, quoted_renumber x, quotedItems_renumber xs]

theorem quotedEntries_renumber : ∀ fs : List (Value × Value),
    quotedEntries (Fields.relabel (renumber f) fs) = quotedEntries fs
  | [] => rfl
  | (k, v) :: fs => by
    rw [Fields.relabel_cons, quotedEntries, quotedEntries, quotedKey_renumber k, quoted_renumber v,
      quotedEntries_renumber fs]

theorem quotedKey_renumber : ∀ v : Value, (v.relabel (renumber f)).quotedKey = v.quotedKey
  | .scalar s mark => by
    rw [relabel_scalar, quotedKey, quotedKey, Relabeling.renumber_scalar, quotedScalar_renumber]
  | .list items mark => by rw [relabel_list, quotedKey, quotedKey, quotedItems_renumber items]
  | .map fs mark => by rw [relabel_map, quotedKey, quotedKey, quotedEntries_renumber fs]

end

@[simp] theorem display_renumber (v : Value) : (v.relabel (renumber f)).display = v.display := by
  have hquoted := quoted_renumber f v
  cases v with
  | scalar s mark => cases s <;> simp_all [display]
  | list items mark => simpa [display] using hquoted
  | map fs mark => simpa [display] using hquoted

@[simp] theorem displayKey_renumber (v : Value) : (v.relabel (renumber f)).displayKey = v.displayKey := by
  have hdisplay := display_renumber f v
  cases v with
  | scalar s mark => simpa [displayKey] using hdisplay
  | list items mark =>
    have hkey := quotedKey_renumber f (.list items mark)
    simpa [displayKey] using hkey
  | map fs mark => simpa [displayKey] using hdisplay

@[simp] theorem kindName_renumber (v : Value) : (v.relabel (renumber f)).kindName = v.kindName := by
  cases v <;> simp [kindName]

@[simp] theorem isEmptyCollection_renumber (v : Value) :
    (v.relabel (renumber f)).isEmptyCollection = v.isEmptyCollection := by
  cases v <;> simp [isEmptyCollection, Fields.relabel]

/-! ## Equality -/

mutual

theorem same_renumber : ∀ v w : Value, same (v.relabel (renumber f)) (w.relabel (renumber f)) = same v w
  | .scalar a _, w => by cases w <;> simp [same]
  | .list xs _, w => by cases w <;> simp [same, sameItems_renumber xs]
  | .map fs _, w => by cases w <;> simp [same, Fields.relabel, sameEntries_renumber fs]

theorem sameItems_renumber : ∀ xs ys : List Value,
    sameItems (xs.map (relabel (renumber f))) (ys.map (relabel (renumber f))) = sameItems xs ys
  | [], ys => by cases ys <;> rfl
  | x :: xs, ys => by cases ys <;> simp [sameItems, same_renumber x, sameItems_renumber xs]

theorem sameEntries_renumber : ∀ fs gs : List (Value × Value),
    sameEntries (fs.map fun e => (e.1.relabel (renumber f), e.2.relabel (renumber f)))
      (gs.map fun e => (e.1.relabel (renumber f), e.2.relabel (renumber f))) = sameEntries fs gs
  | [], gs => by simp [sameEntries]
  | (k, v) :: fs, gs => by
    simp [sameEntries, List.any_map, Function.comp_def, same_renumber k, same_renumber v, sameEntries_renumber fs]

end

end Value

namespace Fields

@[simp] theorem hasKey_renumber (fs : Fields) (key : Value) :
    hasKey (fs.relabel (renumber f)) (key.relabel (renumber f)) = hasKey fs key := by
  simp [hasKey, relabel, List.any_map, Function.comp_def, Value.same_renumber]

@[simp] theorem has_relabel (ρ : Relabeling) (fs : Fields) (name : String) : has (fs.relabel ρ) name = has fs name := by
  simp [has]

theorem ofPairs_relabel (ρ : Relabeling) (pairs : List (String × Value)) :
    ofPairs (pairs.map fun p => (p.1, p.2.relabel ρ)) = relabel ρ (ofPairs pairs) := by
  rw [ofPairs, ofPairs, List.foldl_map]
  change List.foldl _ (relabel ρ []) pairs = _
  exact List.foldl_hom (relabel ρ) fun fs p => set_relabel ρ fs p.1 p.2

end Fields

/-! ## Copies -/

namespace Value

theorem plainEntries_renumber_of {fs : Fields}
    (h : ∀ e ∈ fs, (e.2.relabel (renumber f)).plain = e.2.plain.relabel (renumber f)) :
    plainEntries (fs.relabel (renumber f)) = (plainEntries fs).map fun p => (p.1, p.2.relabel (renumber f)) := by
  rw [plainEntries_eq, plainEntries_eq, Fields.relabel, List.map_map, List.map_map]
  refine List.map_congr_left fun e he => ?_
  simp [h e he]

@[simp] theorem plain_renumber (v : Value) : (v.relabel (renumber f)).plain = v.plain.relabel (renumber f) := by
  induction v using induct with
  | scalar s mark => simp [plain]
  | list items mark ih =>
    rw [relabel_list, plain, plain, plainItems_eq, plainItems_eq, relabel_ofList, List.map_map, List.map_map]
    exact congrArg ofList (List.map_congr_left ih)
  | map fs mark ih =>
    rw [relabel_map, plain, plain, plainEntries_renumber_of f ih, Fields.ofPairs_relabel, relabel_ofFields]

end Value

namespace Fields

@[simp] theorem plain_renumber (fs : Fields) : plain (fs.relabel (renumber f)) = (plain fs).relabel (renumber f) := by
  rw [plain, plain, Value.plainEntries_renumber_of f fun e _ => Value.plain_renumber f e.2, ofPairs_relabel]

@[simp] theorem plainValues_renumber (fs : Fields) :
    plainValues (fs.relabel (renumber f)) = (plainValues fs).relabel (renumber f) := by
  simp [plainValues, relabel, List.map_map, Function.comp_def]

end Fields

/-! ## Entries of models -/

namespace Model

@[simp] theorem field_renumber (fs : Fields) (name : String) :
    field (fs.relabel (renumber f)) name = (field fs name).relabel (renumber f) := by
  rw [field, field, Fields.get_relabel, Value.plain_renumber]

@[simp] theorem extraOf_renumber (known : List String) (fs : Fields) :
    extraOf known (fs.relabel (renumber f)) = (extraOf known fs).relabel (renumber f) := by
  rw [extraOf, extraOf, Fields.except_relabel, Fields.plainValues_renumber]

theorem entriesOf?_renumber (model : String) (v : Value) :
    entriesOf? model (v.relabel (renumber f)) =
      (entriesOf? model v).map (Option.map (Fields.relabel (renumber f))) := by
  cases v with
  | scalar s mark => cases s <;> simp [entriesOf?, Except.map, Value.kindName]
  | list items mark => simp [entriesOf?, Except.map, Value.kindName]
  | map fs mark => simp [entriesOf?, Except.map]

theorem itemsOf_renumber (v : Value) :
    itemsOf (v.relabel (renumber f)) = (itemsOf v).map (List.map (Value.relabel (renumber f))) := by
  cases v with
  | scalar s mark => cases s <;> simp [itemsOf, Except.map]
  | list items mark => simp [itemsOf, Except.map]
  | map fs mark => simp [itemsOf, Except.map, Fields.relabel]

theorem compact_renumber (fields : List (String × Value)) :
    compact (fields.map fun p => (p.1, p.2.relabel (renumber f))) = (compact fields).relabel (renumber f) := by
  simp [compact, Fields.relabel, List.filter_map, Function.comp_def]

end Model

/-! ## Values that name no document -/

/-- A value that names no document. -/
def Value.Unnumbered (v : Value) : Prop :=
  ∀ f, v.relabel (renumber f) = v

/-- Entries that name no document. -/
def Fields.Unnumbered (fs : Fields) : Prop :=
  ∀ f, fs.relabel (renumber f) = fs

namespace Value

theorem unnumbered_null : null.Unnumbered :=
  fun f => relabel_null (renumber f)

theorem unnumbered_ofString (s : String) : (ofString s).Unnumbered :=
  fun f => relabel_ofString (renumber f) s

theorem unnumbered_ofFields_nil : (ofFields []).Unnumbered :=
  fun f => relabel_ofFields (renumber f) []

theorem Unnumbered.entries {fs : Fields} {mark : Option Mark} (h : (Value.map fs mark).Unnumbered) : fs.Unnumbered :=
  fun f => (Value.map.inj ((relabel_map (renumber f) fs mark).symm.trans (h f))).1

theorem Unnumbered.orElse {v w : Value} (hv : v.Unnumbered) (hw : w.Unnumbered) : (v.orElse w).Unnumbered := by
  unfold Value.orElse
  split
  · exact hv
  · exact hw

end Value

namespace Fields

variable {fs : Fields}

theorem Unnumbered.find? (h : fs.Unnumbered) {name : String} {v : Value} (hv : fs.find? name = some v) :
    v.Unnumbered := by
  intro f
  have hfind := find?_relabel (renumber f) fs name
  rw [h f, hv] at hfind
  exact (Option.some.inj hfind).symm

theorem Unnumbered.getD_find? (h : fs.Unnumbered) (name : String) {v : Value} (hv : v.Unnumbered) :
    ((fs.find? name).getD v).Unnumbered := by
  cases hfind : fs.find? name with
  | none => exact hv
  | some w => exact h.find? hfind

theorem Unnumbered.set (h : fs.Unnumbered) (name : String) {v : Value} (hv : v.Unnumbered) :
    (fs.set name v).Unnumbered := by
  intro f
  rw [← set_relabel, h f, hv f]

theorem Unnumbered.setDefault (h : fs.Unnumbered) (name : String) {v : Value} (hv : v.Unnumbered) :
    (fs.setDefault name v).Unnumbered := by
  intro f
  unfold Fields.setDefault
  split
  · exact h f
  · rw [relabel_append, h f, relabel_cons, hv f, Value.relabel_ofString, relabel_nil]

end Fields
end KubeManifest
