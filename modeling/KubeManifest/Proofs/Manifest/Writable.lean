import KubeManifest.Manifest.Format
import KubeManifest.Proofs.Results
import KubeManifest.Proofs.Value.Order

/-!
# Manifests that have a text

Every tree has a text in YAML. In JSON it needs keys that are texts or become texts, which moments do not. Pruning may
take a key away that has none, and ordering does nothing to keys.

* `Json.Keyed` : a value whose keys can all be written, at every depth;
* `Json.render?_isSome_iff` : the values that have a text;
* `Exportable.exists_text_iff` : what is exported has a text exactly if it has a tree, and in JSON one with such keys;
* `Exportable.exists_text_collection` : a collection has a text if each of its resources has one.
-/

namespace KubeManifest

open Value

/-! ## Keys -/

namespace Json

/-- A value whose keys can all be written in JSON, at every depth. -/
inductive Keyed : Value → Prop
  | scalar (s : Scalar) (mark : Option Mark) : Keyed (.scalar s mark)
  | list {items : List Value} {mark : Option Mark} (h : ∀ x ∈ items, Keyed x) : Keyed (.list items mark)
  | map {fs : Fields} {mark : Option Mark} (keys : ∀ e ∈ fs, (key? e.1).isSome) (values : ∀ e ∈ fs, Keyed e.2) :
      Keyed (.map fs mark)

theorem keyed_list_iff {items : List Value} {mark : Option Mark} :
    Keyed (.list items mark) ↔ ∀ x ∈ items, Keyed x :=
  ⟨fun h => by cases h; assumption, .list⟩

theorem keyed_map_iff {fs : Fields} {mark : Option Mark} :
    Keyed (.map fs mark) ↔ ∀ e ∈ fs, (key? e.1).isSome ∧ Keyed e.2 := by
  constructor
  · rintro (_ | _ | ⟨hkeys, hvalues⟩) e he
    exact ⟨hkeys e he, hvalues e he⟩
  · exact fun h => .map (fun e he => (h e he).1) fun e he => (h e he).2

theorem renderItems?_isSome_iff {depth : Nat} {xs : List Value} :
    (renderItems? depth xs).isSome ↔ ∀ x ∈ xs, (render? depth x).isSome := by
  induction xs with
  | nil => simp [renderItems?]
  | cons x xs ih =>
    rw [renderItems?, List.forall_mem_cons, ← ih]
    cases render? depth x <;> cases renderItems? depth xs <;> simp

theorem renderEntries?_isSome_iff {depth : Nat} {fs : Fields} :
    (renderEntries? depth fs).isSome ↔ ∀ e ∈ fs, (key? e.1).isSome ∧ (render? depth e.2).isSome := by
  induction fs with
  | nil => simp [renderEntries?]
  | cons e fs ih =>
    obtain ⟨k, v⟩ := e
    rw [renderEntries?, List.forall_mem_cons, ← ih]
    cases key? k <;> cases render? depth v <;> cases renderEntries? depth fs <;> simp

/-- A value has a text exactly if all its keys have one. -/
theorem render?_isSome_iff {v : Value} : ∀ depth, (render? depth v).isSome ↔ Keyed v := by
  induction v using Value.induct with
  | scalar s mark => exact fun _ => iff_of_true (by rw [render?]; rfl) (.scalar s mark)
  | list items mark ih =>
    intro depth
    rw [render?, Option.isSome_map, renderItems?_isSome_iff, keyed_list_iff]
    exact forall₂_congr fun x hx => ih x hx _
  | map fs mark ih =>
    intro depth
    rw [render?, Option.isSome_map, renderEntries?_isSome_iff, keyed_map_iff]
    exact forall₂_congr fun e he => and_congr_right fun _ => ih e he _

/-- The order of entries is the same to their keys. -/
theorem keyed_perm_iff {fs gs : Fields} (h : fs.Perm gs) : Keyed (.ofFields fs) ↔ Keyed (.ofFields gs) := by
  rw [Value.ofFields, Value.ofFields, keyed_map_iff, keyed_map_iff]
  exact forall_congr' fun e => imp_congr_left h.mem_iff

theorem keyed_arrange_iff {fs : Fields} :
    Keyed (.ofFields (Manifest.arrange fs)) ↔ Keyed (prune (.ofFields fs)) := by
  rw [Manifest.arrange, keyed_perm_iff (Manifest.order_perm _), Value.ofFields, prune]

end Json

/-! ## Texts -/

theorem Collection.mem_sorted {c : Collection} {r : Resource} : r ∈ c.sorted ↔ r ∈ c.items :=
  (List.mergeSort_perm _ _).mem_iff

theorem Format.ofText_name (format : Format) : Format.ofText format.name = .ok format := by
  cases format <;> rfl

theorem Format.exists_write_iff {format : Format} {fs : Fields} :
    (∃ text, format.write fs = .ok text) ↔ (format = .json → Json.Keyed (.ofFields fs)) := by
  cases format with
  | yaml => simp [write]
  | json =>
    rw [write, ← Json.render?_isSome_iff 0, ← Json.render]
    cases Json.render (.ofFields fs) <;> simp

namespace Exportable

variable {format : Format}

theorem exists_text_iff {e : Exportable} :
    (∃ text, e.text format.name = .ok text) ↔
      ∃ fs, e.tree = .ok fs ∧ (format = .json → Json.Keyed (.ofFields fs)) := by
  simp only [← Format.exists_write_iff, text, Format.ofText_name, ok_bind, bind_eq_ok]
  constructor
  · rintro ⟨text, fs, hfs, hwrite⟩
    exact ⟨fs, hfs, text, hwrite⟩
  · rintro ⟨fs, hfs, text, hwrite⟩
    exact ⟨text, fs, hfs, hwrite⟩

theorem exists_text_resource_iff {r : Resource} :
    (∃ text, (resource r).text format.name = .ok text) ↔
      ∃ v, r.toValue? = .ok v ∧ (format = .json → Json.Keyed v.prune) := by
  rw [exists_text_iff]
  simp only [tree, source, Resource.toValue?, bind_eq_ok]
  constructor
  · rintro ⟨_, ⟨written, hwritten, h⟩, hkeyed⟩
    obtain rfl := Except.ok.inj h
    exact ⟨_, ⟨written, hwritten, rfl⟩, fun hjson => Json.keyed_arrange_iff.mp (hkeyed hjson)⟩
  · rintro ⟨_, ⟨written, hwritten, h⟩, hkeyed⟩
    obtain rfl := Except.ok.inj h
    exact ⟨_, ⟨written, hwritten, rfl⟩, fun hjson => Json.keyed_arrange_iff.mpr (hkeyed hjson)⟩

/-- A list of items with keys in JSON keeps them when it is pruned. -/
theorem keyed_prune_list {items : List Value} (h : ∀ x ∈ items, Json.Keyed x.prune) :
    Json.Keyed (prune (.ofList items)) := by
  rw [Value.ofList, prune]
  split
  · exact .scalar _ _
  · refine .list fun x hx => ?_
    obtain ⟨y, hy, rfl, -⟩ := mem_pruneItems.mp hx
    exact h y hy

/-- A collection has a text in a format if each of its resources has one. -/
theorem exists_text_collection {c : Collection}
    (h : ∀ r ∈ c.items, ∃ text, (resource r).text format.name = .ok text) :
    ∃ text, (collection c).text format.name = .ok text := by
  simp only [exists_text_resource_iff] at h
  obtain ⟨items, hitems⟩ :=
    exists_mapM_ok_iff.mpr fun r hr => (h r (Collection.mem_sorted.mp hr)).imp fun _ h => h.1
  rw [exists_text_iff]
  refine ⟨_, bind_eq_ok.mpr ⟨_, bind_eq_ok.mpr ⟨items, hitems, rfl⟩, rfl⟩, fun hjson => ?_⟩
  have hkeyed : ∀ x ∈ items, Json.Keyed x.prune := by
    intro x hx
    obtain ⟨r, hr, hrx⟩ := mapM_eq_ok_mem hitems x hx
    obtain ⟨v, hv, hv'⟩ := h r (Collection.mem_sorted.mp hr)
    obtain rfl : x = v := Except.ok.inj (hrx.symm.trans hv)
    exact hv' hjson
  -- the list object has three entries, of which only the items have keys of their own
  rw [Json.keyed_arrange_iff, Value.ofFields, prune, Value.ofFields, Json.keyed_map_iff]
  rintro ⟨k, w⟩ he
  obtain ⟨v, hv, rfl, -⟩ := mem_pruneEntries.mp he
  simp only [List.mem_cons, List.not_mem_nil, or_false, Prod.mk.injEq] at hv
  rcases hv with ⟨rfl, rfl⟩ | ⟨rfl, rfl⟩ | ⟨rfl, rfl⟩
  · exact ⟨rfl, .scalar _ _⟩
  · exact ⟨rfl, .scalar _ _⟩
  · exact ⟨rfl, keyed_prune_list hkeyed⟩

end Exportable

end KubeManifest
