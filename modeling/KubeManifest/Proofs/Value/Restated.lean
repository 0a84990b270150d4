import KubeManifest.Proofs.Value.Paths

/-!
# The same scalars

A value is restated by another one in which the same scalars stand at the same places. Nulls and what is empty do
not count: they may come, go, and take each other's place.

* `Value.Restates` : the same scalars other than null at the same places, in a value in order;
* `Value.restates_map`, `Value.restates_list`, `Value.restates_plain` : mappings, lists and copies restate what their
  parts restate;
* `Value.Regular.at?_prune` : pruning moves no scalar of a value in order;
* `Manifest.at?_arrange_iff` : nor does the arranging of entries.
-/

namespace KubeManifest

/-! ## Entries -/

namespace Fields

/-- An entry is what is found under its key, if the keys differ. -/
theorem Distinct.find?_of_mem {fs : Fields} (h : Distinct fs) {e : Value × Value} (he : e ∈ fs) {name : String}
    (hk : e.1.isText name = true) : find? fs name = some e.2 := by
  induction fs with
  | nil => cases he
  | cons first fs ih =>
    obtain ⟨k, v⟩ := first
    rw [find?_cons]
    rcases List.mem_cons.mp he with rfl | he
    · rw [if_pos hk]
    · split
      · rename_i hfirst
        have hnone := find?_eq_none_iff.mp (h.find?_tail hfirst) e he
        rw [hk] at hnone
        cases hnone
      · exact ih h.tail he

theorem Keyed.exists_get {fs : Fields} (h : Keyed fs) {e : Value × Value} (he : e ∈ fs) :
    ∃ name, get fs name = e.2 := by
  obtain ⟨name, hname⟩ := Option.isSome_iff_exists.mp (h.texts e he)
  refine ⟨name, ?_⟩
  rw [get, h.distinct.find?_of_mem he (Value.isText_iff.mpr hname)]
  rfl

theorem Named.keyed {fs : Fields} (h : fs.Named) : Keyed fs := by
  refine ⟨fun e he => ?_, h.distinct⟩
  obtain ⟨s, hs⟩ := h.keys e he
  rw [hs]
  rfl

end Fields

namespace Value

/-! ## Restating -/

/-- A value in order that holds the same scalars other than null as another one, at the same places. -/
structure Restates (v w : Value) : Prop where
  regular : w.Regular
  scalars : ∀ path s mark, s ≠ .null → (w.at? path = some (.scalar s mark) ↔ v.at? path = some (.scalar s mark))

variable {u v w : Value}

theorem Restates.refl (h : v.Regular) : Restates v v :=
  ⟨h, fun _ _ _ _ => Iff.rfl⟩

theorem Restates.trans (h : Restates u v) (h' : Restates v w) : Restates u w :=
  ⟨h'.regular, fun path s mark hs => (h'.scalars path s mark hs).trans (h.scalars path s mark hs)⟩

/-- What is not written holds no scalar. -/
theorem at?_ne_of_not_isWritten (h : Model.isWritten v = false) {s : Scalar} (hs : s ≠ .null) (path : List Step)
    (mark : Option Mark) : v.at? path ≠ some (.scalar s mark) := by
  intro hat
  cases v with
  | scalar s' mark' =>
    cases s' with
    | null =>
      cases path with
      | nil =>
        obtain ⟨hnull, -⟩ := Value.scalar.inj (Option.some.inj hat)
        exact hs hnull.symm
      | cons step path => cases step <;> cases hat
    | _ => cases h
  | list items mark' =>
    cases items with
    | cons x xs => cases h
    | nil =>
      cases path with
      | nil => cases hat
      | cons step path => cases step <;> simp [at?] at hat
  | map fs mark' =>
    cases fs with
    | cons e fs => cases h
    | nil =>
      cases path with
      | nil => cases hat
      | cons step path => cases step <;> simp [at?] at hat

/-- What is not written can take the place of what is not written. -/
theorem restates_of_not_isWritten (hv : Model.isWritten v = false) (hw : Model.isWritten w = false)
    (hr : w.Regular) : Restates v w :=
  ⟨hr, fun path _ mark hs => iff_of_false (at?_ne_of_not_isWritten hw hs path mark)
    (at?_ne_of_not_isWritten hv hs path mark)⟩

theorem at?_key_get {fs : Fields} {mark : Option Mark} {name : String} {path : List Step} {s : Scalar}
    {m : Option Mark} (hs : s ≠ .null) :
    at? (.map fs mark) (.key name :: path) = some (.scalar s m) ↔
      (Fields.get fs name).at? path = some (.scalar s m) := by
  rw [at?_key, Fields.get]
  cases Fields.find? fs name with
  | some v => rfl
  | none => exact iff_of_false (by simp) (at?_ne_of_not_isWritten rfl hs path m)

/-- A mapping restates what its entries restate. -/
theorem restates_map {fs gs : Fields} (hkeyed : gs.Keyed) (mark mark' : Option Mark)
    (h : ∀ name, Restates (Fields.get fs name) (Fields.get gs name)) :
    Restates (.map fs mark) (.map gs mark') := by
  refine ⟨.map hkeyed (fun e he => ?_) mark', fun path s m hs => ?_⟩
  · obtain ⟨name, hname⟩ := hkeyed.exists_get he
    exact hname ▸ (h name).regular
  · cases path with
    | nil => exact iff_of_false (fun heq => by cases heq) fun heq => by cases heq
    | cons step path =>
      cases step with
      | item i => exact iff_of_false (fun heq => by cases heq) fun heq => by cases heq
      | key name =>
        rw [at?_key_get hs, at?_key_get hs]
        exact (h name).scalars path s m hs

/-- Setting an entry restates what the new value restates of the old one. -/
theorem restates_set {fs : Fields} (name : String) (mark mark' : Option Mark) (hr : Regular (.map fs mark))
    (h : Restates (Fields.get fs name) v) : Restates (.map fs mark) (.map (Fields.set fs name v) mark') := by
  refine restates_map (hr.keyed.set name v) mark mark' fun other => ?_
  by_cases hne : name = other
  · subst hne
    rw [Fields.get_set_self]
    exact h
  · rw [Fields.get_set_ne fs v hne]
    exact Restates.refl (hr.get other)

/-- A list restates what its items restate, if none of them gets lost. -/
theorem restates_list {xs ys : List Value} (mark mark' : Option Mark) (hlength : ys.length = xs.length)
    (h : ∀ (i : Nat) (x y : Value), xs[i]? = some x → ys[i]? = some y →
      Restates x y ∧ y.isNull = false ∧ ∀ m, y ≠ .list [] m) :
    Restates (.list xs mark) (.list ys mark') := by
  have hmem : ∀ y ∈ ys, y.Regular ∧ y.isNull = false ∧ ∀ m, y ≠ .list [] m := by
    intro y hy
    obtain ⟨i, hi⟩ := List.mem_iff_getElem?.mp hy
    have hlt : i < xs.length := hlength ▸ (List.getElem?_eq_some_iff.mp hi).1
    obtain ⟨hrestates, hwritten⟩ := h i xs[i] y (List.getElem?_eq_getElem hlt) hi
    exact ⟨hrestates.regular, hwritten⟩
  refine ⟨⟨.list fun y hy => (hmem y hy).1.textual, .list (fun y hy => (hmem y hy).2) fun y hy => (hmem y hy).1.solid⟩,
    fun path s m hs => ?_⟩
  cases path with
  | nil => exact iff_of_false (fun heq => by cases heq) fun heq => by cases heq
  | cons step path =>
    cases step with
    | key name => exact iff_of_false (fun heq => by cases heq) fun heq => by cases heq
    | item i =>
      rw [at?_item, at?_item]
      cases hx : xs[i]? with
      | none =>
        have hy : ys[i]? = none := by
          rw [List.getElem?_eq_none_iff] at hx ⊢
          omega
        rw [hy]
      | some x =>
        have hlt : i < ys.length := hlength ▸ (List.getElem?_eq_some_iff.mp hx).1
        have hy : ys[i]? = some ys[i] := List.getElem?_eq_getElem hlt
        rw [hy]
        exact (h i x ys[i] hx hy).1.scalars path s m hs

/-! ## Copies -/

theorem isNull_plain (v : Value) : v.plain.isNull = v.isNull := by
  cases v with
  | scalar s mark => rfl
  | list items mark => rfl
  | map fs mark => rfl

theorem plain_ne_list_nil (h : ∀ m, v ≠ .list [] m) (m : Option Mark) : v.plain ≠ .list [] m := by
  cases v with
  | scalar s mark => exact Value.noConfusion
  | map fs mark => exact Value.noConfusion
  | list items mark =>
    cases items with
    | nil => exact absurd rfl (h mark)
    | cons x xs =>
      intro heq
      rw [plain, plainItems_eq] at heq
      cases heq

/-- A copy restates everything. -/
theorem restates_plain (h : v.Regular) : Restates v v.plain := by
  induction v using induct with
  | scalar s mark => exact Restates.refl h
  | list items mark ih =>
    rw [plain, plainItems_eq]
    refine restates_list mark none (List.length_map _) fun i x y hx hy => ?_
    obtain rfl : x.plain = y := by
      rw [List.getElem?_map, hx] at hy
      exact Option.some.inj hy
    have hmem := List.mem_of_getElem? hx
    refine ⟨ih x hmem (h.of_mem_list hmem), ?_, ?_⟩
    · rw [isNull_plain]
      cases h.solid with
      | list written _ => exact (written x hmem).1
    · cases h.solid with
      | list written _ => exact plain_ne_list_nil (written x hmem).2
  | map fs mark ih =>
    refine restates_map (Fields.plain_isPlain fs).toNamed.keyed mark none fun name => ?_
    rw [h.keyed.get_plain]
    unfold Fields.get
    cases hv : Fields.find? fs name with
    | none => exact Restates.refl (.scalar _ _)
    | some v =>
      obtain ⟨k, hmem, -⟩ := Fields.mem_of_find? hv
      exact ih _ hmem (h.of_mem_map hmem)

/-! ## Pruning -/

/-- Pruning moves no scalar of a value in order. -/
theorem Regular.at?_prune (h : v.Regular) {path : List Step} {s : Scalar} {mark : Option Mark} (hs : s ≠ .null) :
    v.prune.at? path = some (.scalar s mark) ↔ v.at? path = some (.scalar s mark) := by
  constructor
  · induction path generalizing v with
    | nil =>
      intro hat
      cases v with
      | scalar s' mark' => exact hat
      | map fs mark' => cases hat
      | list items mark' =>
        rw [prune] at hat
        split at hat
        · obtain ⟨hnull, -⟩ := Value.scalar.inj (Option.some.inj hat)
          exact absurd hnull.symm hs
        · cases hat
    | cons step path ih =>
      intro hat
      cases v with
      | scalar s' mark' => cases step <;> cases hat
      | map fs mark' =>
        cases step with
        | item i => cases hat
        | key name =>
          rw [prune, at?_key, Fields.find?_pruneEntries h.keyed.distinct] at hat
          obtain ⟨x, hx, hat⟩ := Option.bind_eq_some_iff.mp hat
          obtain ⟨hx, -⟩ := Option.filter_eq_some_iff.mp hx
          obtain ⟨y, hy, rfl⟩ := Option.map_eq_some_iff.mp hx
          obtain ⟨k, hmem, -⟩ := Fields.mem_of_find? hy
          rw [at?_of_find? hy]
          exact ih (h.of_mem_map hmem) hat
      | list items mark' =>
        rw [prune] at hat
        split at hat
        · cases step <;> cases hat
        · cases step with
          | key name => cases hat
          | item i =>
            -- no item is lost, so that the others stay at their places
            have hkept : pruneItems items = items.map prune := by
              rw [pruneItems_eq, List.filter_eq_self]
              intro y hy
              obtain ⟨x, hx, rfl⟩ := List.mem_map.mp hy
              cases h.solid with
              | list written hsolid =>
                rw [isNull_prune, (hsolid x hx).survives (written x hx).1 (written x hx).2]
                rfl
            rw [at?_item, hkept, List.getElem?_map] at hat
            obtain ⟨x, hx, hat⟩ := Option.bind_eq_some_iff.mp hat
            obtain ⟨y, hy, rfl⟩ := Option.map_eq_some_iff.mp hx
            rw [at?_of_getElem? hy]
            exact ih (h.of_mem_list (List.mem_of_getElem? hy)) hat
  · intro hat
    rw [← h.solid.firm?_eq] at hat
    exact Value.at?_prune hat (bne_iff_ne.mpr hs)

end Value

/-- Arranging entries moves no scalar of theirs. -/
theorem Manifest.at?_arrange_iff {fs : Fields} (h : (Value.ofFields fs).Regular) {path : List Value.Step} {s : Scalar}
    {mark : Option Mark} (hs : s ≠ .null) :
    (Value.ofFields (arrange fs)).at? path = some (.scalar s mark) ↔
      (Value.ofFields fs).at? path = some (.scalar s mark) := by
  rw [← h.at?_prune hs, Value.prune]
  cases path with
  | nil => exact iff_of_false (fun heq => by cases heq) fun heq => by cases heq
  | cons step path =>
    cases step with
    | item i => exact iff_of_false (fun heq => by cases heq) fun heq => by cases heq
    | key name =>
      have hdistinct : Fields.Distinct (Value.pruneEntries fs) := Fields.distinct_pruneEntries h.keyed.distinct
      rw [Value.at?_key, Value.at?_key, arrange, find?_order hdistinct]

end KubeManifest
