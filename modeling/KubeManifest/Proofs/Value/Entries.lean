import KubeManifest.Model.Entries

/-!
# Entries by name

* `Fields.named` : entries whose keys are texts, from names and values;
* `Fields.find?_append`, `Fields.find?_filter_value`, `Fields.find?_except` : look-up in entries that are put
  together, thinned out or cut down;
* `Fields.Distinct.set` : setting an entry leaves entries distinct;
* `Model.find?_compact`, `Model.find?_extraOf` : what is found among the entries that a model writes;
* `Fields.Grows` : entries that keep their order and, but for some, their values, with new ones after them;
* `Value.induct` : induction over a value with hypotheses for all items and all entries.
-/

namespace KubeManifest

/-! ## Induction -/

namespace Value

/-- Induction over values, with a hypothesis for every item of a list and every value of a mapping. -/
@[elab_as_elim]
theorem induct {P : Value → Prop} (scalar : ∀ s mark, P (.scalar s mark))
    (list : ∀ items mark, (∀ x ∈ items, P x) → P (.list items mark))
    (map : ∀ fs mark, (∀ e ∈ fs, P e.2) → P (.map fs mark)) : ∀ v, P v
  | .scalar s mark => scalar s mark
  | .list items mark => list items mark fun x hx =>
    have := List.sizeOf_lt_of_mem hx
    induct scalar list map x
  | .map fs mark => map fs mark fun e he =>
    have := List.sizeOf_lt_of_mem he
    have : sizeOf e.2 < sizeOf e := by
      cases e
      simp only [Prod.mk.sizeOf_spec]
      omega
    induct scalar list map e.2
termination_by v => sizeOf v
decreasing_by
  · simp only [Value.list.sizeOf_spec]
    omega
  · simp only [Value.map.sizeOf_spec]
    omega

theorem text?_eq_some_iff {v : Value} {s : String} :
    v.text? = some s ↔ ∃ style mark, v = .scalar (.text s style) mark := by
  constructor
  · intro h
    cases v with
    | scalar t mark =>
      cases t with
      | text t style => exact ⟨style, mark, by rw [Option.some.inj h]⟩
      | _ => cases h
    | _ => cases h
  · rintro ⟨style, mark, rfl⟩
    rfl

theorem isText_iff {v : Value} {s : String} : v.isText s = true ↔ v.text? = some s := by
  rw [isText, beq_iff_eq]

@[simp] theorem isText_ofString (s name : String) : (ofString s).isText name = (s == name) := by
  rw [isText, text?_ofString]
  simp

theorem isNull_iff {v : Value} : v.isNull = true ↔ ∃ mark, v = .scalar .null mark := by
  constructor
  · intro h
    cases v with
    | scalar s mark => cases s <;> first | exact ⟨mark, rfl⟩ | simp [isNull] at h
    | list items mark => simp at h
    | map fs mark => simp at h
  · rintro ⟨mark, rfl⟩
    rfl

theorem isNull_of_isTruthy {v : Value} (h : v.isTruthy = true) : v.isNull = false := by
  cases v with
  | scalar s mark => cases s <;> first | rfl | cases h
  | _ => rfl

end Value

/-! ## Look-up -/

namespace Fields

def named (pairs : List (String × Value)) : Fields :=
  pairs.map fun p => (.ofString p.1, p.2)

@[simp] theorem named_cons (name : String) (v : Value) (pairs : List (String × Value)) :
    named ((name, v) :: pairs) = (.ofString name, v) :: named pairs := rfl

theorem find?_append (fs gs : Fields) (name : String) :
    find? (fs ++ gs) name = (find? fs name).or (find? gs name) := by
  induction fs with
  | nil => rfl
  | cons e fs ih =>
    obtain ⟨k, v⟩ := e
    rw [List.cons_append, find?_cons, find?_cons, ih]
    cases k.isText name <;> rfl

theorem find?_eq_none_iff {fs : Fields} {name : String} :
    find? fs name = none ↔ ∀ e ∈ fs, e.1.isText name = false := by
  induction fs with
  | nil => simp
  | cons e fs ih =>
    obtain ⟨k, v⟩ := e
    rw [find?_cons, List.forall_mem_cons, ← ih]
    cases k.isText name <;> simp

theorem mem_of_find? {fs : Fields} {name : String} {v : Value} (h : find? fs name = some v) :
    ∃ k, (k, v) ∈ fs ∧ k.isText name = true := by
  induction fs with
  | nil => simp at h
  | cons e fs ih =>
    obtain ⟨k, w⟩ := e
    rw [find?_cons] at h
    split at h
    · rename_i hk
      obtain rfl : w = v := Option.some.inj h
      exact ⟨k, List.mem_cons_self, hk⟩
    · obtain ⟨k', hmem, hk'⟩ := ih h
      exact ⟨k', List.mem_cons_of_mem _ hmem, hk'⟩

theorem find?_of_get {fs : Fields} {name : String} {v : Value} (h : get fs name = v) (hv : v.isNull = false) :
    find? fs name = some v := by
  rw [get] at h
  cases hf : find? fs name with
  | some w =>
    rw [hf] at h
    exact congrArg some h
  | none =>
    rw [hf] at h
    rw [← h] at hv
    cases hv

theorem get_of_find? {fs : Fields} {name : String} {v : Value} (h : find? fs name = some v) : get fs name = v := by
  rw [get, h]
  rfl

theorem get_of_find?_eq_none {fs : Fields} {name : String} (h : find? fs name = none) : get fs name = .null := by
  rw [get, h]
  rfl

theorem get_of_find?_map {fs gs : Fields} {name : String} (h : find? gs name = (find? fs name).map Value.plain) :
    get gs name = (get fs name).plain := by
  rw [get, get, h]
  cases find? fs name <;> rfl

theorem get_set_self (fs : Fields) (name : String) (v : Value) : get (set fs name v) name = v :=
  get_of_find? (find?_set_self fs name v)

theorem get_set_ne (fs : Fields) {name other : String} (v : Value) (h : name ≠ other) :
    get (set fs name v) other = get fs other := by
  rw [get, get, find?_set_ne fs v h]

/-- Only entries of the name count in a look-up. -/
theorem find?_filter {fs : Fields} {name : String} {p : Value × Value → Bool}
    (h : ∀ e ∈ fs, e.1.isText name = true → p e = true) : find? (fs.filter p) name = find? fs name := by
  induction fs with
  | nil => rfl
  | cons e fs ih =>
    have ihs := ih fun e he => h e (List.mem_cons_of_mem _ he)
    obtain ⟨k, v⟩ := e
    rw [find?_cons, List.filter_cons]
    cases hk : k.isText name with
    | true =>
      rw [if_pos (h _ List.mem_cons_self hk), find?_cons, if_pos hk]
      rfl
    | false =>
      split
      · rw [find?_cons, if_neg (by simp [hk]), ihs]
        rfl
      · rw [ihs]
        rfl

theorem any_isText_eq_false {names : List String} {k : Value} {name : String} (hk : k.isText name = true)
    (h : name ∉ names) : names.any k.isText = false := by
  rw [List.any_eq_false]
  intro other hother hk'
  rw [Value.isText_iff] at hk hk'
  rw [hk] at hk'
  exact h (Option.some.inj hk' ▸ hother)

theorem find?_except {fs : Fields} {names : List String} {name : String} (h : name ∉ names) :
    find? (except fs names) name = find? fs name := by
  refine find?_filter fun e _ hk => ?_
  change (!names.any e.1.isText) = true
  rw [any_isText_eq_false hk h]
  rfl

theorem find?_except_of_mem {fs : Fields} {names : List String} {name : String} (h : name ∈ names) :
    find? (except fs names) name = none := by
  rw [find?_eq_none_iff]
  intro e he
  have hno := (List.mem_filter.mp he).2
  simp only [Bool.not_eq_true', List.any_eq_false] at hno
  simpa using hno name h

theorem find?_erase {fs : Fields} {erased name : String} (h : name ≠ erased) :
    find? (erase fs erased) name = find? fs name := by
  refine find?_filter fun e _ hk => ?_
  rw [Value.isText_iff] at hk
  simp [Value.isText, hk, h]

theorem find?_erase_self (fs : Fields) (name : String) : find? (erase fs name) name = none := by
  rw [find?_eq_none_iff]
  intro e he
  simpa using (List.mem_filter.mp he).2

theorem find?_map_value (f : Value → Value) (fs : Fields) (name : String) :
    find? (fs.map fun e => (e.1, f e.2)) name = (find? fs name).map f := by
  induction fs with
  | nil => rfl
  | cons e fs ih =>
    obtain ⟨k, v⟩ := e
    rw [List.map_cons, find?_cons, find?_cons, ih]
    cases k.isText name <;> rfl

theorem find?_plainValues (fs : Fields) (name : String) :
    find? (plainValues fs) name = (find? fs name).map Value.plain :=
  find?_map_value Value.plain fs name

theorem find?_named (pairs : List (String × Value)) (name : String) :
    find? (named pairs) name = pairs.lookup name := by
  induction pairs with
  | nil => rfl
  | cons p pairs ih =>
    obtain ⟨n, v⟩ := p
    rw [named_cons, find?_cons, Value.isText_ofString, List.lookup_cons, ih, BEq.comm]
    cases name == n <;> rfl

theorem lookup_of_mem {pairs : List (String × Value)} (h : (pairs.map Prod.fst).Nodup) {p : String × Value}
    (hp : p ∈ pairs) : pairs.lookup p.1 = some p.2 := by
  induction pairs with
  | nil => simp at hp
  | cons q pairs ih =>
    obtain ⟨hq, hnodup⟩ := List.nodup_cons.mp h
    rw [List.lookup_cons]
    rcases List.mem_cons.mp hp with rfl | hp
    · rw [beq_self_eq_true]
    · have hne : p.1 ≠ q.1 := fun heq => hq (heq ▸ List.mem_map_of_mem hp)
      rw [beq_eq_false_iff_ne.mpr hne]
      exact ih hnodup hp

/-- Entries with different texts as keys; keys that are no texts count for nothing. -/
def Distinct (fs : Fields) : Prop :=
  (fs.filterMap fun e => e.1.text?).Nodup

instance (fs : Fields) : Decidable (Distinct fs) :=
  inferInstanceAs (Decidable (List.Nodup _))

theorem Distinct.tail {e : Value × Value} {fs : Fields} (h : Distinct (e :: fs)) : Distinct fs := by
  unfold Distinct at h ⊢
  rw [List.filterMap_cons] at h
  split at h
  · exact h
  · exact (List.nodup_cons.mp h).2

theorem Distinct.find?_tail {k v : Value} {fs : Fields} {name : String} (h : Distinct ((k, v) :: fs))
    (hk : k.isText name = true) : find? fs name = none := by
  rw [find?_eq_none_iff]
  intro e he
  rw [Value.isText_iff] at hk
  rw [Distinct, List.filterMap_cons_some (f := fun e : Value × Value => e.1.text?) hk, List.nodup_cons] at h
  cases hne : e.1.isText name with
  | false => rfl
  | true => exact absurd (List.mem_filterMap.mpr ⟨e, he, Value.isText_iff.mp hne⟩) h.1

theorem Distinct.filter {fs : Fields} (h : Distinct fs) (p : Value × Value → Bool) : Distinct (fs.filter p) :=
  h.sublist (List.filter_sublist.filterMap _)

theorem Distinct.map_value {fs : Fields} (h : Distinct fs) (f : Value → Value) :
    Distinct (fs.map fun e => (e.1, f e.2)) := by
  unfold Distinct
  rw [List.filterMap_map]
  exact h

theorem distinct_named {pairs : List (String × Value)} (h : (pairs.map Prod.fst).Nodup) :
    Distinct (named pairs) := by
  have hkeys : (named pairs).filterMap (fun e => e.1.text?) = pairs.map Prod.fst := by
    rw [named, List.filterMap_map, ← List.filterMap_eq_map]
    rfl
  rw [Distinct, hkeys]
  exact h

/-- Entries that are thinned out by their values. -/
theorem find?_filter_value {fs : Fields} (h : Distinct fs) (keep : Value → Bool) (name : String) :
    find? (fs.filter fun e => keep e.2) name = (find? fs name).filter keep := by
  induction fs with
  | nil => rfl
  | cons e fs ih =>
    obtain ⟨k, v⟩ := e
    have ih := ih h.tail
    rw [List.filter_cons, find?_cons]
    cases hk : k.isText name with
    | true =>
      have hnone := h.find?_tail hk
      cases hv : keep v <;> simp [find?_cons, hk, hv, ih, hnone, Option.filter]
    | false => cases keep v <;> simp [find?_cons, hk, ih]

/-! ## Setting entries -/

theorem map_fst_set {fs : Fields} {name : String} (h : (find? fs name).isSome) (v : Value) :
    (set fs name v).map Prod.fst = fs.map Prod.fst := by
  induction fs with
  | nil => cases h
  | cons e fs ih =>
    obtain ⟨k, old⟩ := e
    rw [set]
    split
    · rfl
    · rename_i hk
      rw [find?_cons, if_neg hk] at h
      rw [List.map_cons, List.map_cons, ih h]

theorem set_of_find?_eq_none {fs : Fields} {name : String} (h : find? fs name = none) (v : Value) :
    set fs name v = fs ++ [(.ofString name, v)] := by
  induction fs with
  | nil => rfl
  | cons e fs ih =>
    obtain ⟨k, old⟩ := e
    rw [find?_cons] at h
    split at h
    · cases h
    · rename_i hk
      rw [set, if_neg hk, ih h]
      rfl

theorem set_set (fs : Fields) (name : String) (v w : Value) : set (set fs name v) name w = set fs name w := by
  induction fs with
  | nil => simp [set]
  | cons e fs ih =>
    obtain ⟨k, old⟩ := e
    rw [set, set]
    split <;> rename_i hk <;> rw [set]
    · rw [if_pos hk]
    · rw [if_neg hk, ih]

theorem fst_of_mem_set {fs : Fields} {name : String} {v : Value} {e : Value × Value} (h : e ∈ set fs name v) :
    (∃ e' ∈ fs, e'.1 = e.1) ∨ e.1 = .ofString name := by
  cases hv : find? fs name with
  | some old =>
    have hmem : e.1 ∈ (set fs name v).map Prod.fst := List.mem_map_of_mem h
    rw [map_fst_set (by rw [hv]; rfl)] at hmem
    exact Or.inl (List.mem_map.mp hmem)
  | none =>
    rw [set_of_find?_eq_none hv] at h
    rcases List.mem_append.mp h with h | h
    · exact Or.inl ⟨e, h, rfl⟩
    · exact Or.inr (congrArg Prod.fst (List.mem_singleton.mp h))

/-- Keys alone decide whether entries are distinct. -/
theorem distinct_iff_map_fst (fs : Fields) : Distinct fs ↔ ((fs.map Prod.fst).filterMap Value.text?).Nodup := by
  rw [Distinct, List.filterMap_map]
  rfl

theorem Distinct.append {fs gs : Fields} (hf : Distinct fs) (hg : Distinct gs)
    (hno : ∀ e ∈ fs, ∀ name, e.1.isText name = true → find? gs name = none) : Distinct (fs ++ gs) := by
  rw [Distinct, List.filterMap_append, List.nodup_append]
  refine ⟨hf, hg, fun a ha b hb => ?_⟩
  rintro rfl
  obtain ⟨e, he, hk⟩ := List.mem_filterMap.mp ha
  obtain ⟨e', he', hk'⟩ := List.mem_filterMap.mp hb
  have hnone := find?_eq_none_iff.mp (hno e he a (Value.isText_iff.mpr hk)) e' he'
  rw [Value.isText_iff.mpr hk'] at hnone
  cases hnone

theorem Distinct.set {fs : Fields} (hd : Distinct fs) (name : String) (v : Value) : Distinct (set fs name v) := by
  cases hv : find? fs name with
  | some old =>
    rw [distinct_iff_map_fst, map_fst_set (by rw [hv]; rfl), ← distinct_iff_map_fst]
    exact hd
  | none =>
    rw [set_of_find?_eq_none hv, Distinct, List.filterMap_append, List.nodup_append]
    refine ⟨hd, by simp, fun a ha b hb => ?_⟩
    obtain rfl : b = name := by simpa using hb
    obtain ⟨e, he, hea⟩ := List.mem_filterMap.mp ha
    rintro rfl
    have hne := find?_eq_none_iff.mp hv e he
    rw [Value.isText_iff.mpr hea] at hne
    cases hne

end Fields

/-! ## What a model writes -/

namespace Model

/-- Whether a value is written: it is neither null nor an empty collection. -/
def isWritten (v : Value) : Bool :=
  !(v.isNull || v.isEmptyCollection)

theorem compact_eq_named (fields : List (String × Value)) :
    compact fields = (Fields.named fields).filter fun e => isWritten e.2 := by
  unfold Fields.named
  rw [List.filter_map]
  rfl

theorem find?_compact {fields : List (String × Value)} (h : (fields.map Prod.fst).Nodup) (name : String) :
    Fields.find? (compact fields) name = (fields.lookup name).filter isWritten := by
  rw [compact_eq_named, Fields.find?_filter_value (Fields.distinct_named h), Fields.find?_named]

theorem find?_extraOf_of_mem {names : List String} {name : String} (fs : Fields) (h : name ∈ names) :
    Fields.find? (extraOf names fs) name = none := by
  rw [extraOf, Fields.find?_plainValues, Fields.find?_except_of_mem h]
  rfl

theorem find?_extraOf {names : List String} {name : String} (fs : Fields) (h : name ∉ names) :
    Fields.find? (extraOf names fs) name = (Fields.find? fs name).map Value.plain := by
  rw [extraOf, Fields.find?_plainValues, Fields.find?_except h]

end Model

/-! ## Entries that keep their order -/

namespace Fields

variable {fs gs hs : Fields} {R S : Value → Value → Prop} {names names' : List String}

theorem getElem?_set {name : String} {i : Nat} {k v : Value} (h : fs[i]? = some (k, v)) (hk : k.isText name = false)
    (w : Value) : (set fs name w)[i]? = some (k, v) := by
  induction fs generalizing i with
  | nil => cases h
  | cons e fs ih =>
    obtain ⟨k', old⟩ := e
    rw [set]
    cases i with
    | zero =>
      obtain ⟨rfl, rfl⟩ := Prod.mk.inj (Option.some.inj h)
      rw [hk]
      rfl
    | succ i =>
      split
      · exact h
      · exact ih h

/-- Entries in the order that they had, with values that are related but under some names, and then entries of those of
these names that were missing. -/
structure Grows (R : Value → Value → Prop) (names : List String) (fs gs : Fields) : Prop where
  keys : ∃ added : List String, added.Sublist names ∧ (∀ name ∈ added, find? fs name = none) ∧
    gs.map Prod.fst = fs.map Prod.fst ++ added.map Value.ofString
  values : ∀ (i : Nat) (k v : Value), fs[i]? = some (k, v) → (∀ name ∈ names, k.isText name = false) →
    ∃ w, gs[i]? = some (k, w) ∧ R v w

theorem Grows.mono (h : Grows R names fs gs) (hRS : ∀ v w, R v w → S v w) : Grows S names fs gs where
  keys := h.keys
  values i k v hi hk := by
    obtain ⟨w, hw, hvw⟩ := h.values i k v hi hk
    exact ⟨w, hw, hRS v w hvw⟩

theorem find?_eq_none_of_map_fst {keys : List Value} (hkeys : gs.map Prod.fst = fs.map Prod.fst ++ keys) {name : String}
    (h : find? gs name = none) : find? fs name = none := by
  rw [find?_eq_none_iff] at h ⊢
  intro e he
  have hmem : e.1 ∈ gs.map Prod.fst := hkeys ▸ List.mem_append_left keys (List.mem_map_of_mem he)
  obtain ⟨e', he', heq⟩ := List.mem_map.mp hmem
  exact heq ▸ h e' he'

theorem Grows.trans (h : Grows Eq names fs gs) (h' : Grows R names' gs hs) : Grows R (names ++ names') fs hs where
  keys := by
    obtain ⟨added, hadded, hnew, hkeys⟩ := h.keys
    obtain ⟨added', hadded', hnew', hkeys'⟩ := h'.keys
    refine ⟨added ++ added', hadded.append hadded', List.forall_mem_append.mpr ⟨hnew, fun name hname => ?_⟩, ?_⟩
    · exact find?_eq_none_of_map_fst hkeys (hnew' name hname)
    · rw [hkeys', hkeys, List.append_assoc, List.map_append]
  values i k v hi hk := by
    obtain ⟨w, hw, rfl⟩ := h.values i k v hi fun name hname => hk name (List.mem_append_left _ hname)
    exact h'.values i k v hw fun name hname => hk name (List.mem_append_right _ hname)

theorem grows_refl (names : List String) (fs : Fields) : Grows Eq names fs fs where
  keys := ⟨[], List.nil_sublist names, by simp, by simp⟩
  values _ _ v hi _ := ⟨v, hi, rfl⟩

theorem grows_set (fs : Fields) (name : String) (v : Value) : Grows Eq [name] fs (set fs name v) where
  keys := by
    cases hfind : find? fs name with
    | some old => exact ⟨[], List.nil_sublist _, by simp, by simp [map_fst_set (by rw [hfind]; rfl)]⟩
    | none => exact ⟨[name], .refl _, by simpa using hfind, by simp [set_of_find?_eq_none hfind]⟩
  values i k w hi hk := ⟨w, getElem?_set hi (hk name (by simp)) v, rfl⟩

end Fields

end KubeManifest
