import KubeManifest.Proofs.Model.Shape

/-!
# What reading and writing conserves

A relation between values that holds of copies, and of mappings and lists if it holds of their parts, holds of
every value that is read into a model and written again.

* `Shape.Fits`, `Layout.Fits` : values whose lists of models are lists or null, and whose labels are mappings or
  null;
* `Model.Conserves` : relations that hold of a whole if they hold of its parts;
* `Model.Conserves.withFields` : they hold of what is read and written again.
-/

namespace KubeManifest

open Model Value

mutual

/-- A value that a shape loses nothing of. -/
def Shape.Fits : Shape → Value → Prop
  | .copy, _ => True
  | .given, v => v.isNull = true ∨ ∃ fs mark, v = .map fs mark
  | .model layout, v => ∀ fs, v.fields? = some fs → layout.Fits fs
  | .models layout, v => v.isNull = true ∨
      ∃ items mark, v = .list items mark ∧ ∀ x ∈ items, ∀ fs, x.fields? = some fs → layout.Fits fs

/-- Entries that a layout loses nothing of. -/
def Layout.Fits : Layout → Fields → Prop
  | .nil, _ => True
  | .entry name shape rest, fs => shape.Fits (Fields.get fs name) ∧ rest.Fits fs

end

/-- The empty mapping that stands for nothing is no other than a copy without entries. -/
theorem Value.orElse_plain_map (fs : Fields) (mark : Option Mark) :
    (plain (.map fs mark)).orElse (.ofFields []) = plain (.map fs mark) := by
  rw [plain]
  cases Fields.ofPairs (plainEntries fs) <;> rfl

namespace Model

/-- A relation between what is read and what is written, for values with a property that their parts have as well. It
holds of copies, of null and what may stand for it, and of lists and mappings if it holds of their parts. -/
structure Conserves (P : Value → Prop) (R : Value → Value → Prop) : Prop where
  get {fs : Fields} {mark : Option Mark} (name : String) : P (.map fs mark) → P (Fields.get fs name)
  item {items : List Value} {mark : Option Mark} {x : Value} : P (.list items mark) → x ∈ items → P x
  plain {v : Value} : P v → R v v.plain
  null {v : Value} : v.isNull = true → R v .null
  empty {v : Value} : v.isNull = true → R v (.ofFields [])
  list {items ws : List Value} {mark : Option Mark} : ws.length = items.length →
    (∀ (i : Nat) (x y : Value), items[i]? = some x → ws[i]? = some y → R x y ∧ ∃ gs, y = .ofFields gs) →
    R (.list items mark) (.ofList ws)
  assemble {layout : Layout} {fs : Fields} {mark : Option Mark} {ps : List (String × Value)} :
    layout.proper = true → P (.map fs mark) → layout.fields fs = some ps →
    (∀ p ∈ ps, R (Fields.get fs p.1) p.2) → R (.map fs mark) (Model.assemble layout.names fs ps)

namespace Conserves

variable {P : Value → Prop} {R : Value → Value → Prop} {v w : Value}

theorem withFields_of_fields {layout : Layout} (hc : Conserves P R) (hp : layout.proper = true)
    (h : ∀ fs mark ps, P (.map fs mark) → layout.Fits fs → layout.fields fs = some ps →
      ∀ p ∈ ps, R (Fields.get fs p.1) p.2)
    (hv : P v) (hf : ∀ fs, v.fields? = some fs → layout.Fits fs) (hw : v.withFields layout.write = some w) :
    R v w ∧ ∃ gs, w = .ofFields gs := by
  rw [Value.withFields, Option.bind_eq_some_iff] at hw
  obtain ⟨fs, hfs, hw⟩ := hw
  cases v with
  | map fs' mark =>
    obtain rfl : fs' = fs := Option.some.inj hfs
    obtain ⟨ps, hps, rfl⟩ := Layout.write_eq_some hw
    exact ⟨hc.assemble hp hv hps (h fs' mark ps hv (hf fs' rfl) hps), _, rfl⟩
  | _ => cases hfs

mutual

theorem rewrite (hc : Conserves P R) : ∀ (shape : Shape), shape.proper = true → ∀ v w : Value, P v → shape.Fits v →
    shape.rewrite v = some w → R v w
  | .copy, _, v, w, hv, _, h => by
    obtain rfl : v.plain = w := Option.some.inj h
    exact hc.plain hv
  | .given, _, v, w, hv, hf, h => by
    obtain rfl : v.plain.orElse (.ofFields []) = w := Option.some.inj h
    rcases hf with hn | ⟨fs, mark, rfl⟩
    · obtain ⟨mark, rfl⟩ := isNull_iff.mp hn
      exact hc.empty rfl
    · rw [orElse_plain_map]
      exact hc.plain hv
  | .model layout, hp, v, w, hv, hf, h => by
    rw [Shape.rewrite] at h
    split at h
    · rename_i hn
      obtain rfl : .null = w := Option.some.inj h
      exact hc.null hn
    · exact (hc.withFields_of_fields hp (hc.fields layout hp) hv hf h).1
  | .models layout, hp, v, w, hv, hf, h => by
    rw [Shape.rewrite] at h
    rcases hf with hn | ⟨items, mark, rfl, hf⟩
    · rw [if_pos hn] at h
      obtain rfl : .null = w := Option.some.inj h
      exact hc.null hn
    · rw [if_neg (by simp)] at h
      change Option.bind (items.mapM fun x => x.withFields layout.write) (fun ws => some (Value.ofList ws)) = _ at h
      obtain ⟨ws, hws, h⟩ := Option.bind_eq_some_iff.mp h
      obtain rfl : .ofList ws = w := Option.some.inj h
      refine hc.list (mapM_eq_some_length hws) fun i x y hx hy => ?_
      obtain ⟨y', hy', hxy⟩ := getElem?_mapM hws hx
      obtain rfl : y = y' := Option.some.inj (hy.symm.trans hy')
      have hmem := List.mem_of_getElem? hx
      exact hc.withFields_of_fields hp (hc.fields layout hp) (hc.item hv hmem) (hf x hmem) hxy

theorem fields (hc : Conserves P R) : ∀ (layout : Layout), layout.proper = true → ∀ (fs : Fields)
    (mark : Option Mark) (ps : List (String × Value)), P (.map fs mark) → layout.Fits fs →
    layout.fields fs = some ps → ∀ p ∈ ps, R (Fields.get fs p.1) p.2
  | .nil, _, fs, mark, ps, _, _, h => by
    obtain rfl : [] = ps := Option.some.inj h
    simp
  | .entry name shape rest, hp, fs, mark, ps, hv, hf, h => by
    simp only [Layout.proper, Bool.and_eq_true] at hp
    rw [Layout.Fits] at hf
    rw [Layout.fields, Option.bind_eq_bind, Option.bind_eq_some_iff] at h
    obtain ⟨w, hw, h⟩ := h
    rw [Option.bind_eq_bind, Option.bind_eq_some_iff] at h
    obtain ⟨ps', hps', h⟩ := h
    obtain rfl : (name, w) :: ps' = ps := Option.some.inj h
    refine List.forall_mem_cons.mpr ⟨?_, hc.fields rest hp.2 fs mark ps' hv hf.2 hps'⟩
    exact hc.rewrite shape hp.1.2 _ w (hc.get name hv) hf.1 hw

end

/-- Such a relation holds of a mapping that is read and written again. -/
theorem withFields {layout : Layout} (hc : Conserves P R) (hp : layout.proper = true) (hv : P v)
    (hf : ∀ fs, v.fields? = some fs → layout.Fits fs) (hw : v.withFields layout.write = some w) :
    R v w ∧ ∃ gs, w = .ofFields gs :=
  hc.withFields_of_fields hp (hc.fields layout hp) hv hf hw

end Conserves

end Model

end KubeManifest
