import KubeManifest.Proofs.Collection.Sorted
import KubeManifest.Proofs.Results
import KubeManifest.Proofs.Value.Entries
import KubeManifest.Proofs.Value.Order
import Mathlib.Data.List.Forall2

/-!
# The aggregate and the single manifests

* `Collection.toFields?_eq_ok_iff` : the items of a list object are written one by one;
* `Exportable.tree_collection_iff` : the tree of a collection has an item for each resource, and none where there is
  no resource;
* `Exportable.items_tree_collection` : these items are the trees of the resources, but for the order of their entries.
-/

namespace KubeManifest

open Value

namespace Resource

theorem toValue?_eq_ok_iff {r : Resource} {v : Value} :
    r.toValue? = .ok v ↔ ∃ fs, r.toFields? = .ok fs ∧ v = .ofFields fs := by
  rw [toValue?, bind_eq_ok]
  exact ⟨fun ⟨fs, h, hv⟩ => ⟨fs, h, (Except.ok.inj hv).symm⟩, fun ⟨fs, h, hv⟩ => ⟨fs, h, hv ▸ rfl⟩⟩

end Resource

namespace Collection

variable {c : Collection}

theorem mapM_toValue?_eq_ok_iff {rs : List Resource} {items : List Value} :
    rs.mapM Resource.toValue? = .ok items ↔
      ∃ fss : List Fields, List.Forall₂ (fun r fs => r.toFields? = .ok fs) rs fss ∧ items = fss.map .ofFields := by
  induction rs generalizing items with
  | nil =>
    simp only [List.forall₂_nil_left_iff, exists_eq_left, List.map_nil]
    exact ⟨fun h => (Except.ok.inj h).symm, fun h => h ▸ rfl⟩
  | cons r rs ih =>
    simp only [mapM_cons_eq_ok, List.forall₂_cons_left_iff, ih, Resource.toValue?_eq_ok_iff]
    constructor
    · rintro ⟨_, _, ⟨fs, hfs, rfl⟩, ⟨fss, hfss, rfl⟩, rfl⟩
      exact ⟨fs :: fss, ⟨fs, fss, hfs, hfss, rfl⟩, rfl⟩
    · rintro ⟨_, ⟨fs, fss, hfs, hfss, rfl⟩, rfl⟩
      exact ⟨_, _, ⟨fs, hfs, rfl⟩, ⟨fss, hfss, rfl⟩, rfl⟩

def listOf (items : List Fields) : Fields :=
  [(.ofString "apiVersion", .ofString "v1"), (.ofString "kind", .ofString "List"),
    (.ofString "items", .ofList (items.map .ofFields))]

theorem toFields?_eq_ok_iff {fs : Fields} :
    c.toFields? = .ok fs ↔ ∃ fss, List.Forall₂ (fun r fs => r.toFields? = .ok fs) c.sorted fss ∧ fs = listOf fss := by
  rw [toFields?, bind_eq_ok]
  simp only [mapM_toValue?_eq_ok_iff]
  constructor
  · rintro ⟨_, ⟨fss, hfss, rfl⟩, h⟩
    exact ⟨fss, hfss, (Except.ok.inj h).symm⟩
  · rintro ⟨fss, hfss, rfl⟩
    exact ⟨_, ⟨fss, hfss, rfl⟩, rfl⟩

end Collection

namespace Value

/-- No mapping in a list gets lost, since what remains of a mapping is a mapping. -/
theorem pruneItems_map_ofFields (fss : List Fields) :
    pruneItems (fss.map .ofFields) = (fss.map pruneEntries).map .ofFields := by
  induction fss with
  | nil => rfl
  | cons fs fss ih => simp [pruneItems, prune, ofFields, ih]

end Value

namespace Exportable

variable {c : Collection} {out : Fields}

theorem tree_resource_eq_ok {r : Resource} {fs : Fields} (h : r.toFields? = .ok fs) :
    (resource r).tree = .ok (Manifest.arrange fs) := by
  rw [tree, show (resource r).source = r.toFields? from rfl, h]
  rfl

/-- The tree of a collection has an item for each resource. Where there is none, it has no list. -/
theorem tree_collection_iff :
    (collection c).tree = .ok out ↔
      ∃ fss : List Fields, List.Forall₂ (fun r fs => r.toFields? = .ok fs) c.sorted fss ∧
        out = (.ofString "apiVersion", .ofString "v1") :: (.ofString "kind", .ofString "List") ::
          if fss = [] then [] else [(.ofString "items", .ofList ((fss.map pruneEntries).map .ofFields))] := by
  have harrange : ∀ fss : List Fields, Manifest.arrange (Collection.listOf fss) =
      (.ofString "apiVersion", .ofString "v1") :: (.ofString "kind", .ofString "List") ::
        if fss = [] then [] else [(.ofString "items", .ofList ((fss.map pruneEntries).map .ofFields))] := by
    intro fss
    have hprune : prune (.ofList (fss.map .ofFields)) =
        if fss = [] then .null else .ofList ((fss.map pruneEntries).map .ofFields) := by
      cases fss with
      | nil => rfl
      | cons fs fss => rw [ofList, prune, pruneItems_map_ofFields]; rfl
    cases fss with
    | nil => rfl
    | cons fs fss =>
      rw [if_neg (List.cons_ne_nil _ _)] at hprune ⊢
      rw [Manifest.arrange, Collection.listOf, pruneEntries, pruneEntries, pruneEntries, hprune]
      rfl
  rw [tree, show (collection c).source = c.toFields? from rfl, bind_eq_ok]
  simp only [Collection.toFields?_eq_ok_iff]
  constructor
  · rintro ⟨_, ⟨fss, hfss, rfl⟩, h⟩
    exact ⟨fss, hfss, harrange fss ▸ (Except.ok.inj h).symm⟩
  · rintro ⟨fss, hfss, rfl⟩
    exact ⟨_, ⟨fss, hfss, rfl⟩, harrange fss ▸ rfl⟩

/-- **The aggregate has the single manifests as its items**, sorted by kind and name, each resource once. Only the
order of the entries of an item may differ from that of the single manifest. -/
theorem items_tree_collection (h : (collection c).tree = .ok out) :
    ∃ items : List Fields,
      Fields.find? out "items" = (if c.items = [] then none else some (.ofList (items.map .ofFields))) ∧
      List.Forall₂ (fun r item => ∃ manifest, (resource r).tree = .ok manifest ∧ manifest.Perm item) c.sorted items ∧
      c.sorted.Perm c.items ∧ c.sorted.Pairwise fun a b => toLex a.sortKey ≤ toLex b.sortKey := by
  obtain ⟨fss, hfss, rfl⟩ := tree_collection_iff.mp h
  refine ⟨fss.map pruneEntries, ?_, ?_, c.sorted_perm, c.sorted_pairwise.imp Collection.pairLE_iff.mp⟩
  · have hempty : fss = [] ↔ c.items = [] := by
      rw [← List.length_eq_zero_iff, ← hfss.length_eq, c.sorted_perm.length_eq, List.length_eq_zero_iff]
    simp only [hempty]
    split <;> rfl
  · rw [List.forall₂_map_right_iff]
    exact hfss.imp fun r fs hfs => ⟨_, tree_resource_eq_ok hfs, Manifest.order_perm _⟩

/-- A service that was added before a configuration: the items change places, what is null or empty goes, and the
specification stays behind the status. -/
theorem items_tree_collection_of_two :
    let config : Resource := ⟨.ofString "ConfigMap", .ofString "v1", { name := .ofString "a" },
      [(.ofString "data", .ofFields [(.ofString "x", .null)])], none⟩
    let service : Resource := ⟨.ofString "Service", .ofString "v1", { name := .ofString "a" },
      [(.ofString "status", .ofFields []), (.ofString "spec", .ofFields [(.ofString "ports", .ofList [.null])])], none⟩
    let metadata : Value := .ofFields [(.ofString "name", .ofString "a")]
    let c : Collection := ⟨[service, config]⟩
    let out : Fields := [(.ofString "apiVersion", .ofString "v1"), (.ofString "kind", .ofString "List"),
      (.ofString "items", .ofList [
        .ofFields [(.ofString "apiVersion", .ofString "v1"), (.ofString "kind", .ofString "ConfigMap"),
          (.ofString "metadata", metadata), (.ofString "data", .ofFields [])],
        .ofFields [(.ofString "apiVersion", .ofString "v1"), (.ofString "kind", .ofString "Service"),
          (.ofString "metadata", metadata), (.ofString "status", .ofFields []), (.ofString "spec", .ofFields [])]])]
    (collection c).tree = .ok out ∧
      ∃ items : List Fields,
        Fields.find? out "items" = (if c.items = [] then none else some (.ofList (items.map .ofFields))) ∧
        List.Forall₂ (fun r item => ∃ manifest, (resource r).tree = .ok manifest ∧ manifest.Perm item) c.sorted items ∧
        c.sorted.Perm c.items ∧ c.sorted.Pairwise fun a b => toLex a.sortKey ≤ toLex b.sortKey := by
  intro config service metadata c out
  have hsorted : c.sorted = [config, service] :=
    Collection.sorted_eq_of_pairwise (.swap _ _ _) (by decide) (by decide)
  have htree : (collection c).tree = .ok out := by
    rw [tree_collection_iff, hsorted]
    exact ⟨_, .cons rfl (.cons rfl .nil), rfl⟩
  exact ⟨htree, items_tree_collection htree⟩

end Exportable
end KubeManifest
