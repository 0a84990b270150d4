import KubeManifest.Manifest.Tree
import KubeManifest.Proofs.Value.Plain

/-!
# The order of entries

* `Manifest.order_perm` : ordering moves entries and does nothing else;
* `Manifest.filter_order`, `Manifest.find?_order`, `Manifest.pruneEntries_order` : it gets along with choice, look-up
  and pruning;
* `Manifest.order_eq_order_iff` : the order depends only on what is found under the leading names and on the other
  entries;
* `Manifest.arrange_arrange` : arranged entries stay as they are.
-/

namespace KubeManifest

namespace Fields

theorem find?_eq_some_iff {fs : Fields} (h : Distinct fs) {name : String} {v : Value} :
    find? fs name = some v ↔ ∃ k, (k, v) ∈ fs ∧ k.isText name = true := by
  refine ⟨mem_of_find?, ?_⟩
  rintro ⟨k, hmem, hk⟩
  induction fs with
  | nil => simp at hmem
  | cons e fs ih =>
    obtain ⟨k', w⟩ := e
    rw [find?_cons]
    rcases List.mem_cons.mp hmem with heq | hmem
    · obtain ⟨rfl, rfl⟩ := Prod.mk.inj heq
      rw [if_pos hk]
    · have hw := ih h.tail hmem
      by_cases hk' : k'.isText name = true
      · rw [h.find?_tail hk'] at hw
        cases hw
      · rw [if_neg hk', hw]

theorem find?_perm {fs gs : Fields} (h : Distinct fs) (hp : gs.Perm fs) (name : String) :
    find? gs name = find? fs name := by
  have hgs : Distinct gs := ((hp.filterMap _).nodup_iff).mpr h
  refine Option.ext fun v => ?_
  rw [find?_eq_some_iff hgs, find?_eq_some_iff h]
  simp only [hp.mem_iff]

end Fields

namespace Manifest

def entriesOf (fs : Fields) (name : String) : Fields :=
  fs.filter fun e => e.1.isText name

def others (names : List String) (fs : Fields) : Fields :=
  fs.filter fun e => !names.any e.1.isText

theorem order_eq (fs : Fields) : order fs = leadingNames.flatMap (entriesOf fs) ++ others leadingNames fs := rfl

theorem flatMap_entriesOf_congr {fs gs : Fields} {names : List String}
    (h : ∀ name ∈ names, entriesOf fs name = entriesOf gs name) :
    names.flatMap (entriesOf fs) = names.flatMap (entriesOf gs) := by
  rw [List.flatMap_def, List.flatMap_def, List.map_congr_left h]

/-! ## Choice -/

theorem filter_order (fs : Fields) (p : Value × Value → Bool) : (order fs).filter p = order (fs.filter p) := by
  have hcomm : ∀ q : Value × Value → Bool, (fs.filter q).filter p = (fs.filter p).filter q := by
    intro q
    rw [List.filter_filter, List.filter_filter]
    congr 1
    funext e
    exact Bool.and_comm _ _
  rw [order_eq, order_eq, List.filter_append, List.filter_flatMap]
  congr 1
  · congr 1
    funext name
    exact hcomm _
  · exact hcomm _

theorem others_cons (name : String) (names : List String) (fs : Fields) :
    others (name :: names) fs = others names (fs.filter fun e => !e.1.isText name) := by
  unfold others
  rw [List.filter_filter]
  congr 1
  funext e
  rw [List.any_cons, Bool.not_or, Bool.and_comm]

theorem entriesOf_filter_ne {fs : Fields} {name other : String} (h : name ≠ other) :
    entriesOf (fs.filter fun e => !e.1.isText other) name = entriesOf fs name := by
  unfold entriesOf
  rw [List.filter_filter]
  refine List.filter_congr fun e _ => ?_
  cases hk : e.1.isText name with
  | false => rfl
  | true =>
    rw [Value.isText_iff] at hk
    simp [Value.isText, hk, h]

theorem flatMap_entriesOf_perm {names : List String} (h : names.Nodup) (fs : Fields) :
    (names.flatMap (entriesOf fs) ++ others names fs).Perm fs := by
  induction names generalizing fs with
  | nil => exact List.Perm.of_eq (List.filter_eq_self.mpr fun e _ => rfl)
  | cons name names ih =>
    obtain ⟨hname, hnames⟩ := List.nodup_cons.mp h
    have hrest := ih hnames (fs.filter fun e => !e.1.isText name)
    have hcongr : names.flatMap (entriesOf (fs.filter fun e => !e.1.isText name)) = names.flatMap (entriesOf fs) :=
      flatMap_entriesOf_congr fun other hother =>
        entriesOf_filter_ne fun heq => hname (heq ▸ hother)
    rw [hcongr, ← others_cons] at hrest
    rw [List.flatMap_cons, List.append_assoc]
    exact (hrest.append_left _).trans (List.filter_append_perm _ fs)

/-- Ordering moves entries, and does nothing else. -/
theorem order_perm (fs : Fields) : (order fs).Perm fs :=
  flatMap_entriesOf_perm (by decide) fs

theorem find?_order {fs : Fields} (h : Fields.Distinct fs) (name : String) :
    Fields.find? (order fs) name = Fields.find? fs name :=
  Fields.find?_perm h (order_perm fs) name

/-! ## Pruning -/

theorem pruneEntries_order (fs : Fields) : Value.pruneEntries (order fs) = order (Value.pruneEntries fs) := by
  have hlead : ∀ names : List String, Value.pruneEntries (names.flatMap (entriesOf fs)) =
      names.flatMap (entriesOf (Value.pruneEntries fs)) := by
    intro names
    induction names with
    | nil => rfl
    | cons name names ih =>
      rw [List.flatMap_cons, List.flatMap_cons, Value.pruneEntries_append, ih]
      congr 1
      exact Value.pruneEntries_filter fs fun k => k.isText name
  rw [order_eq, order_eq, Value.pruneEntries_append, hlead]
  congr 1
  exact Value.pruneEntries_filter fs fun k => !leadingNames.any k.isText

/-! ## What the order depends on -/

theorem entriesOf_eq {fs : Fields} (h : Fields.Named fs) (name : String) :
    entriesOf fs name = ((Fields.find? fs name).map fun v => (Value.ofString name, v)).toList := by
  obtain ⟨pairs, rfl, hnodup⟩ := h.exists_pairs
  clear h
  unfold entriesOf
  induction pairs with
  | nil => rfl
  | cons p pairs ih =>
    obtain ⟨n, v⟩ := p
    obtain ⟨hn, hnodup⟩ := List.nodup_cons.mp hnodup
    rw [Fields.named_cons, List.filter_cons, Fields.find?_cons]
    by_cases heq : n = name
    · subst heq
      have hnone : Fields.find? (Fields.named pairs) n = none := by
        rw [Fields.find?_eq_none_iff]
        intro e he
        obtain ⟨q, hq, rfl⟩ := List.mem_map.mp he
        rw [Value.isText_ofString, beq_eq_false_iff_ne]
        rintro rfl
        exact hn (List.mem_map.mpr ⟨q, hq, rfl⟩)
      rw [ih hnodup, hnone]
      simp
    · simp [heq, ih hnodup]

theorem others_order (fs : Fields) : others leadingNames (order fs) = others leadingNames fs := by
  have hlead : ∀ name ∈ leadingNames, entriesOf (others leadingNames fs) name = [] := by
    intro name hname
    unfold entriesOf others
    rw [List.filter_filter, List.filter_eq_nil_iff]
    intro e _ hboth
    simp only [Bool.and_eq_true, Bool.not_eq_true', List.any_eq_false] at hboth
    exact hboth.2 name hname hboth.1
  have hself : others leadingNames (others leadingNames fs) = others leadingNames fs := by
    unfold others
    rw [List.filter_filter]
    simp only [Bool.and_self]
  unfold others at hlead hself ⊢
  rw [filter_order, order_eq, List.flatMap_eq_nil_iff.mpr hlead, List.nil_append]
  exact hself

theorem order_order {fs : Fields} (h : Fields.Named fs) : order (order fs) = order fs := by
  rw [order_eq (order fs), others_order, order_eq fs, ← order_eq fs]
  congr 1
  refine flatMap_entriesOf_congr fun name _ => ?_
  rw [entriesOf_eq (h.perm (order_perm fs)), entriesOf_eq h, find?_order h.distinct]

/-- The order depends only on what is found under the leading names and on the other entries. -/
theorem order_eq_order_iff {fs gs : Fields} (hfs : Fields.Named fs) (hgs : Fields.Named gs)
    (hrest : others leadingNames fs = others leadingNames gs) :
    order fs = order gs ↔ ∀ name ∈ leadingNames, Fields.find? fs name = Fields.find? gs name := by
  constructor
  · intro h name _
    rw [← find?_order hfs.distinct, h, find?_order hgs.distinct]
  · intro h
    rw [order_eq, order_eq, hrest]
    congr 1
    refine flatMap_entriesOf_congr fun name hname => ?_
    rw [entriesOf_eq hfs, entriesOf_eq hgs, h name hname]

/-- Arranged entries stay as they are. -/
theorem arrange_arrange {fs : Fields} (h : Fields.Named fs) : arrange (arrange fs) = arrange fs := by
  unfold arrange
  rw [pruneEntries_order, Value.pruneEntries_pruneEntries, order_order h.prune]

end Manifest

end KubeManifest
