import KubeManifest.Manifest.Tree
import KubeManifest.Proofs.Value.Entries

/-!
# Pruned values

* `Value.mem_pruneItems`, `Value.mem_pruneEntries` : what remains of a list and of a mapping;
* `Value.prune_prune` : what is pruned has nothing more to prune;
* `Value.pruneEntries_filter` : pruning gets along with a choice of entries by their keys;
* `Fields.find?_pruneEntries` : look-up in pruned entries.
-/

namespace KubeManifest

/-! ## Pruning -/

namespace Value

theorem pruneItems_eq (xs : List Value) : pruneItems xs = (xs.map prune).filter fun x => !x.isNull := by
  induction xs with
  | nil => rfl
  | cons x xs ih =>
    rw [pruneItems, List.map_cons, List.filter_cons, ih]
    cases (prune x).isNull <;> rfl

theorem pruneEntries_eq (fs : Fields) :
    pruneEntries fs = (fs.map fun e => (e.1, prune e.2)).filter fun e => !e.2.isNull := by
  induction fs with
  | nil => rfl
  | cons e fs ih =>
    obtain ⟨k, v⟩ := e
    rw [pruneEntries, List.map_cons, List.filter_cons, ih]
    cases (prune v).isNull <;> rfl

theorem text?_prune (v : Value) : (prune v).text? = v.text? := by
  cases v with
  | scalar s mark => rfl
  | list items mark =>
    rw [prune]
    split <;> rfl
  | map fs mark => rfl

theorem mem_pruneItems {xs : List Value} {y : Value} :
    y ∈ pruneItems xs ↔ ∃ x ∈ xs, prune x = y ∧ y.isNull = false := by
  rw [pruneItems_eq, List.mem_filter, List.mem_map]
  simp only [Bool.not_eq_true']
  constructor
  · rintro ⟨⟨x, hx, rfl⟩, hn⟩
    exact ⟨x, hx, rfl, hn⟩
  · rintro ⟨x, hx, rfl, hn⟩
    exact ⟨⟨x, hx, rfl⟩, hn⟩

theorem mem_pruneEntries {fs : Fields} {k w : Value} :
    (k, w) ∈ pruneEntries fs ↔ ∃ v, (k, v) ∈ fs ∧ prune v = w ∧ w.isNull = false := by
  rw [pruneEntries_eq, List.mem_filter, List.mem_map]
  simp only [Bool.not_eq_true', Prod.mk.injEq]
  constructor
  · rintro ⟨⟨⟨k, v⟩, hmem, rfl, rfl⟩, hn⟩
    exact ⟨v, hmem, rfl, hn⟩
  · rintro ⟨v, hmem, rfl, hn⟩
    exact ⟨⟨(k, v), hmem, rfl, rfl⟩, hn⟩

theorem pruneItems_eq_self {xs : List Value} (h : ∀ x ∈ xs, prune x = x ∧ x.isNull = false) :
    pruneItems xs = xs := by
  induction xs with
  | nil => rfl
  | cons x xs ih =>
    obtain ⟨hx, hn⟩ := h x List.mem_cons_self
    rw [pruneItems, hx, hn, ih fun y hy => h y (List.mem_cons_of_mem _ hy)]
    rfl

theorem pruneEntries_eq_self {fs : Fields} (h : ∀ e ∈ fs, prune e.2 = e.2 ∧ e.2.isNull = false) :
    pruneEntries fs = fs := by
  induction fs with
  | nil => rfl
  | cons e fs ih =>
    obtain ⟨k, v⟩ := e
    obtain ⟨hv, hn⟩ := h (k, v) List.mem_cons_self
    rw [pruneEntries, hv, hn, ih fun e he => h e (List.mem_cons_of_mem _ he)]
    rfl

theorem prune_prune (v : Value) : prune (prune v) = prune v := by
  induction v using induct with
  | scalar s mark => rfl
  | list items mark ih =>
    have hitems : pruneItems (pruneItems items) = pruneItems items := by
      refine pruneItems_eq_self fun y hy => ?_
      obtain ⟨x, hx, rfl, hn⟩ := mem_pruneItems.mp hy
      exact ⟨ih x hx, hn⟩
    rw [prune]
    split
    · rfl
    · rename_i hne
      rw [prune, hitems, if_neg hne]
  | map fs mark ih =>
    have hentries : pruneEntries (pruneEntries fs) = pruneEntries fs := by
      refine pruneEntries_eq_self fun e he => ?_
      obtain ⟨v, hmem, hv, hn⟩ := mem_pruneEntries.mp he
      rw [← hv]
      exact ⟨ih _ hmem, hv ▸ hn⟩
    rw [prune, ofFields, prune, hentries]

theorem pruneEntries_pruneEntries (fs : Fields) : pruneEntries (pruneEntries fs) = pruneEntries fs := by
  refine pruneEntries_eq_self fun e he => ?_
  obtain ⟨v, -, hv, hn⟩ := mem_pruneEntries.mp he
  rw [← hv]
  exact ⟨prune_prune v, hv ▸ hn⟩

theorem pruneEntries_append (fs gs : Fields) : pruneEntries (fs ++ gs) = pruneEntries fs ++ pruneEntries gs := by
  rw [pruneEntries_eq, pruneEntries_eq, pruneEntries_eq, List.map_append, List.filter_append]

/-- Pruning and a choice of entries by their keys do not interfere. -/
theorem pruneEntries_filter (fs : Fields) (p : Value → Bool) :
    pruneEntries (fs.filter fun e => p e.1) = (pruneEntries fs).filter fun e => p e.1 := by
  induction fs with
  | nil => rfl
  | cons e fs ih =>
    obtain ⟨k, v⟩ := e
    rw [List.filter_cons, pruneEntries]
    cases hp : p k <;> cases hn : (prune v).isNull <;> simp [pruneEntries, hp, hn, ih]

end Value

namespace Fields

theorem find?_pruneEntries {fs : Fields} (h : Distinct fs) (name : String) :
    find? (Value.pruneEntries fs) name = ((find? fs name).map Value.prune).filter fun v => !v.isNull := by
  rw [Value.pruneEntries_eq, find?_filter_value (h.map_value _) (fun v => !v.isNull), find?_map_value]

theorem distinct_pruneEntries {fs : Fields} (h : Distinct fs) : Distinct (Value.pruneEntries fs) := by
  rw [Value.pruneEntries_eq]
  exact (h.map_value _).filter _

end Fields

end KubeManifest
