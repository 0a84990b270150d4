import KubeManifest.Manifest.Load
import Mathlib.Data.List.Sort
import Mathlib.Data.Prod.Lex
import Mathlib.Data.String.Basic

/-!
# Resources by kind and name

* `Collection.pairLE_iff` : the order of kinds and names is the lexicographic one;
* `Collection.sorted_perm`, `Collection.sorted_pairwise` : sorting moves resources, and puts them in this order;
* `Collection.sorted_eq_of_perm` : where kinds and names differ, the order does not depend on what it was before;
* `Manifest.mem_firsts_keys`, `Manifest.nodup_firsts_keys` : of the resources with one kind and name one remains;
* `Manifest.sorted_firsts` : sorted, their kinds and names increase strictly.
-/

namespace KubeManifest

namespace Collection

/-! ## The order -/

theorem pairLE_iff {a b : String × String} : pairLE a b = true ↔ toLex a ≤ toLex b := by
  rw [Prod.Lex.toLex_le_toLex, pairLE]
  by_cases h : a.1 = b.1
  · simp [h]
  · have hlt : a.1 ≤ b.1 ↔ a.1 < b.1 := ⟨fun hle => lt_of_le_of_ne hle h, le_of_lt⟩
    simp [h, hlt]

theorem pairLE_trans (a b c : Resource) (hab : pairLE a.sortKey b.sortKey = true)
    (hbc : pairLE b.sortKey c.sortKey = true) : pairLE a.sortKey c.sortKey = true := by
  rw [pairLE_iff] at hab hbc ⊢
  exact hab.trans hbc

theorem pairLE_total (a b : Resource) : (pairLE a.sortKey b.sortKey || pairLE b.sortKey a.sortKey) = true := by
  rw [Bool.or_eq_true, pairLE_iff, pairLE_iff]
  exact le_total _ _

theorem pairLE_antisymm {a b : String × String} (hab : pairLE a b = true) (hba : pairLE b a = true) : a = b := by
  rw [pairLE_iff] at hab hba
  exact toLex.injective (le_antisymm hab hba)

/-! ## Sorting -/

theorem sorted_perm (c : Collection) : c.sorted.Perm c.items :=
  List.mergeSort_perm _ _

theorem sorted_pairwise (c : Collection) : c.sorted.Pairwise fun a b => pairLE a.sortKey b.sortKey = true :=
  List.pairwise_mergeSort pairLE_trans pairLE_total _

/-- Where kinds and names differ, there is one way to put resources in order. -/
theorem eq_of_perm_of_pairwise {rs rs' : List Resource} (h : rs.Perm rs') (hkeys : (rs.map Resource.sortKey).Nodup)
    (hrs : rs.Pairwise fun a b => pairLE a.sortKey b.sortKey = true)
    (hrs' : rs'.Pairwise fun a b => pairLE a.sortKey b.sortKey = true) : rs = rs' :=
  h.eq_of_pairwise (fun _ _ ha hb hab hba =>
    List.inj_on_of_nodup_map hkeys ha (h.mem_iff.mpr hb) (pairLE_antisymm hab hba)) hrs hrs'

theorem sorted_eq_of_pairwise {c : Collection} {rs : List Resource} (h : rs.Perm c.items)
    (hkeys : (rs.map Resource.sortKey).Nodup) (hrs : rs.Pairwise fun a b => pairLE a.sortKey b.sortKey = true) :
    c.sorted = rs :=
  (eq_of_perm_of_pairwise (h.trans c.sorted_perm.symm) hkeys hrs c.sorted_pairwise).symm

theorem sorted_eq_of_perm {c c' : Collection} (h : c.items.Perm c'.items)
    (hkeys : (c.items.map Resource.sortKey).Nodup) : c.sorted = c'.sorted :=
  sorted_eq_of_pairwise (c'.sorted_perm.trans h.symm)
    (((c'.sorted_perm.trans h.symm).map _).nodup_iff.mpr hkeys) c'.sorted_pairwise

end Collection

namespace Manifest

/-! ## One of each kind and name -/

theorem mem_firsts_keys {rs : List Resource} {key : String × String} :
    key ∈ (firsts rs).map Resource.sortKey ↔ key ∈ rs.map Resource.sortKey := by
  induction rs with
  | nil => rfl
  | cons r rs ih =>
    rw [firsts, List.map_cons, List.map_cons, List.mem_cons, List.mem_cons, ← ih]
    by_cases h : key = r.sortKey
    · simp [h]
    · simp only [h, false_or, List.mem_map, List.mem_filter]
      constructor
      · rintro ⟨other, ⟨hmem, -⟩, rfl⟩
        exact ⟨other, hmem, rfl⟩
      · rintro ⟨other, hmem, rfl⟩
        exact ⟨other, ⟨hmem, by simpa using h⟩, rfl⟩

theorem nodup_firsts_keys (rs : List Resource) : ((firsts rs).map Resource.sortKey).Nodup := by
  induction rs with
  | nil => exact List.nodup_nil
  | cons r rs ih =>
    rw [firsts, List.map_cons, List.nodup_cons]
    refine ⟨?_, ih.sublist (List.filter_sublist.map _)⟩
    simp only [List.mem_map, List.mem_filter, not_exists, not_and]
    intro other hother
    simpa using hother.2

theorem sorted_firsts (rs : List Resource) :
    (((firsts rs).mergeSort fun a b => Collection.pairLE a.sortKey b.sortKey).map Resource.sortKey).Pairwise
      fun a b => toLex a < toLex b := by
  have hle := Collection.sorted_pairwise ⟨firsts rs⟩
  have hne : (((Collection.mk (firsts rs)).sorted).map Resource.sortKey).Nodup :=
    ((Collection.sorted_perm ⟨firsts rs⟩).map _).nodup_iff.mpr (nodup_firsts_keys rs)
  rw [List.pairwise_map]
  refine hle.imp₂ (fun a b hab hne => lt_of_le_of_ne (Collection.pairLE_iff.mp hab) fun h => ?_)
    (List.pairwise_map.mp hne)
  exact hne (toLex.injective h)

end Manifest
end KubeManifest
