import KubeManifest.Proofs.Model.Models
import KubeManifest.Proofs.Value.Paths
import KubeManifest.Proofs.Value.Relabel

/-!
# Values that a model can be read from

* `Shape.Readable`, `Layout.Readable` : values and entries that can be read, whichever of several entries of one
  name is found;
* `Layout.exists_write` : what can be read can be written again;
* `Value.Thinning` : a value with nothing in it but what was there, such as a copy, a pruned value, and one without
  labels; `Layout.Readable.thin` : what could be read can be read then;
* `Model.Foreign`, `Model.readable_written` : what a model writes can be read, if its fields can and its other
  entries do not take their names.
-/

namespace KubeManifest

open Model

/-! ## Readable values -/

mutual

def Shape.Readable : Shape → Value → Prop
  | .copy, _ | .given, _ => True
  | .model layout, v => v.isNull = true ∨ ∃ fs, v.fields? = some fs ∧ layout.Readable fs
  | .models layout, v => v.isNull = true ∨
      ∃ items mark, v = .list items mark ∧ ∀ x ∈ items, ∃ fs, x.fields? = some fs ∧ layout.Readable fs

/-- Entries with texts as keys that a layout can be read from. -/
def Layout.Readable : Layout → Fields → Prop
  | .nil, fs => ∀ e ∈ fs, e.1.text?.isSome
  | .entry name shape rest, fs => (∀ e ∈ fs, e.1.isText name = true → shape.Readable e.2) ∧ rest.Readable fs

end

@[simp] theorem Shape.readable_copy (v : Value) : Shape.copy.Readable v :=
  trivial

@[simp] theorem Shape.readable_given (v : Value) : Shape.given.Readable v :=
  trivial

theorem Layout.Readable.texts : ∀ {layout : Layout}, layout.Readable fs → ∀ e ∈ fs, e.1.text?.isSome
  | .nil, h => h
  | .entry _ _ _, h => h.2.texts

mutual

theorem Shape.exists_rewrite : ∀ (shape : Shape) (v : Value), shape.Readable v → ∃ w, shape.rewrite v = some w
  | .copy, v, _ => ⟨_, rfl⟩
  | .given, v, _ => ⟨_, rfl⟩
  | .model layout, v, h => by
    rw [Shape.rewrite]
    split
    · exact ⟨_, rfl⟩
    · rename_i hn
      obtain ⟨fs, hfs, hr⟩ := h.resolve_left hn
      obtain ⟨ps, hps⟩ := layout.exists_fields fs hr
      exact ⟨_, by rw [Value.withFields, hfs, Option.bind_some, hps]; rfl⟩
  | .models layout, v, h => by
    rw [Shape.rewrite]
    split
    · exact ⟨_, rfl⟩
    · rename_i hn
      obtain ⟨items, mark, rfl, hitems⟩ := h.resolve_left hn
      have hitem : ∀ x ∈ items, ∃ w, (x.withFields fun fs => (layout.fields fs).map (assemble layout.names fs)) =
          some w := by
        intro x hx
        obtain ⟨fs, hfs, hr⟩ := hitems x hx
        obtain ⟨ps, hps⟩ := layout.exists_fields fs hr
        exact ⟨_, by rw [Value.withFields, hfs, Option.bind_some, hps]; rfl⟩
      obtain ⟨ws, hws⟩ := exists_mapM_eq_some hitem
      exact ⟨.ofList ws, by rw [itemsOf, toOption_ok, Option.bind_eq_bind, Option.bind_some, hws]; rfl⟩

theorem Layout.exists_fields : ∀ (layout : Layout) (fs : Fields), layout.Readable fs → ∃ ps, layout.fields fs = some ps
  | .nil, fs, _ => ⟨[], rfl⟩
  | .entry name shape rest, fs, h => by
    have hname : shape.Readable (Fields.get fs name) := by
      unfold Fields.get
      cases hf : Fields.find? fs name with
      | none => cases shape <;> first | trivial | exact .inl rfl
      | some v =>
        obtain ⟨k, hmem, hk⟩ := Fields.mem_of_find? hf
        exact h.1 _ hmem hk
    obtain ⟨w, hw⟩ := shape.exists_rewrite _ hname
    obtain ⟨ps, hps⟩ := rest.exists_fields fs h.2
    exact ⟨(name, w) :: ps, by rw [Layout.fields, hw, hps]; rfl⟩

end

/-- What can be read can be written again. -/
theorem Layout.exists_write {layout : Layout} {fs : Fields} (h : layout.Readable fs) :
    ∃ w, layout.write fs = some w := by
  obtain ⟨ps, hps⟩ := layout.exists_fields fs h
  exact ⟨_, by rw [write, hps]; rfl⟩

theorem Model.Writes.exists_read {α : Type} {read : Value → Except Misfit (Option α)} {write : α → Except Misfit Value}
    {layout : Layout} (h : Writes read write layout) {fs : Fields} (hr : layout.Readable fs) (mark : Option Mark) :
    ∃ m, read (.map fs mark) = .ok (some m) := by
  obtain ⟨w, hw⟩ := Layout.exists_write hr
  rw [← h.map fs mark, toOption_eq_some] at hw
  obtain ⟨m, hm, hw⟩ := bind_eq_ok.mp hw
  cases m with
  | none => cases hw
  | some m => exact ⟨m, hm⟩

/-! ## Values with less in them -/

namespace Value

/-- Entries each of which comes from one with the same text as its key. -/
def EntriesFrom (f : Value → Value) (fs gs : Fields) : Prop :=
  ∀ e ∈ gs, ∃ e' ∈ fs, e.2 = f e'.2 ∧ ∀ s, e'.1.text? = some s → e.1.text? = some s

/-- A way to make values with nothing in them but what was there. -/
structure Thinning (f : Value → Value) : Prop where
  null {v : Value} : v.isNull = true → (f v).isNull = true
  scalar (s : Scalar) (mark : Option Mark) : (f (.scalar s mark)).isScalar = true
  list (items : List Value) (mark : Option Mark) : (f (.list items mark)).isNull = true ∨
    ∃ ys mark', f (.list items mark) = .list ys mark' ∧ ∀ y ∈ ys, ∃ x ∈ items, y = f x
  map (fs : Fields) (mark : Option Mark) : ∃ gs mark', f (.map fs mark) = .map gs mark' ∧ EntriesFrom f fs gs

variable {f : Value → Value} {v : Value} {fs : Fields}

theorem Thinning.fields (hf : Thinning f) (h : v.fields? = some fs) :
    ∃ gs, (f v).fields? = some gs ∧ EntriesFrom f fs gs := by
  cases v with
  | map fs' mark =>
    obtain rfl : fs' = fs := Option.some.inj h
    obtain ⟨gs, mark', heq, hgs⟩ := hf.map fs' mark
    exact ⟨gs, by rw [heq]; rfl, hgs⟩
  | _ => cases h

theorem Thinning.exists_fields (hf : Thinning f) {gs : Fields} (h : (f v).fields? = some gs) :
    ∃ fs, v.fields? = some fs ∧ EntriesFrom f fs gs := by
  cases v with
  | scalar s mark =>
    have hs := hf.scalar s mark
    cases hv : f (.scalar s mark) with
    | map gs mark =>
      rw [hv] at hs
      cases hs
    | _ =>
      rw [hv] at h
      cases h
  | list items mark =>
    rcases hf.list items mark with hn | ⟨ys, mark', heq, -⟩
    · obtain ⟨m, heq⟩ := isNull_iff.mp hn
      rw [heq] at h
      cases h
    · rw [heq] at h
      cases h
  | map fs mark =>
    obtain ⟨gs', mark', heq, hfrom⟩ := hf.map fs mark
    rw [heq] at h
    obtain rfl : gs' = gs := Option.some.inj h
    exact ⟨fs, rfl, hfrom⟩

theorem thinning_prune : Thinning prune where
  null {v} h := by
    obtain ⟨mark, rfl⟩ := isNull_iff.mp h
    rfl
  scalar _ _ := rfl
  list items mark := by
    rw [prune]
    split
    · exact .inl rfl
    · refine .inr ⟨_, _, rfl, fun y hy => ?_⟩
      obtain ⟨x, hx, rfl, -⟩ := mem_pruneItems.mp hy
      exact ⟨x, hx, rfl⟩
  map fs mark := by
    refine ⟨_, _, by rw [prune], fun e he => ?_⟩
    obtain ⟨v, hmem, hv, -⟩ := mem_pruneEntries.mp he
    exact ⟨_, hmem, hv.symm, fun s hs => hs⟩

theorem displayKey_of_text? {s : String} (h : v.text? = some s) : v.displayKey = s := by
  obtain ⟨style, mark, rfl⟩ := text?_eq_some_iff.mp h
  rfl

theorem entriesFrom_plain (fs : Fields) : EntriesFrom plain fs (Fields.plain fs) := by
  obtain ⟨qs, hqs, -, hmem⟩ := Fields.exists_named_ofPairs (plainEntries fs)
  rw [Fields.plain, hqs]
  intro e he
  obtain ⟨q, hq, rfl⟩ := List.mem_map.mp he
  have hq := hmem q hq
  rw [plainEntries_eq, List.mem_map] at hq
  obtain ⟨e', he', rfl⟩ := hq
  refine ⟨e', he', rfl, fun s hs => ?_⟩
  rw [text?_ofString, displayKey_of_text? hs]

theorem thinning_plain : Thinning plain where
  null {v} h := by
    obtain ⟨mark, rfl⟩ := isNull_iff.mp h
    rfl
  scalar _ _ := rfl
  list items mark := by
    refine .inr ⟨_, _, by rw [plain, plainItems_eq], fun y hy => ?_⟩
    obtain ⟨x, hx, rfl⟩ := List.mem_map.mp hy
    exact ⟨x, hx, rfl⟩
  map fs mark := ⟨_, _, by rw [plain]; rfl, entriesFrom_plain fs⟩

theorem thinning_relabel (ρ : Relabeling) : Thinning (relabel ρ) where
  null h := by rwa [isNull_relabel]
  scalar s mark := by
    rw [relabel_scalar]
    rfl
  list items mark := by
    refine .inr ⟨_, _, relabel_list ρ items mark, fun y hy => ?_⟩
    obtain ⟨x, hx, rfl⟩ := List.mem_map.mp hy
    exact ⟨x, hx, rfl⟩
  map fs mark := by
    refine ⟨_, _, relabel_map ρ fs mark, fun e he => ?_⟩
    obtain ⟨e', he', rfl⟩ := List.mem_map.mp he
    exact ⟨e', he', rfl, fun s hs => by rwa [text?_relabel]⟩

end Value

mutual

theorem Shape.Readable.thin {f : Value → Value} (hf : Value.Thinning f) :
    ∀ {shape : Shape} {v : Value}, shape.Readable v → shape.Readable (f v)
  | .copy, v, _ | .given, v, _ => trivial
  | .model layout, v, h => by
    refine h.imp hf.null ?_
    rintro ⟨fs, hfs, hr⟩
    obtain ⟨gs, hgs, hfrom⟩ := hf.fields hfs
    exact ⟨gs, hgs, hr.thin hf hfrom⟩
  | .models layout, v, h => by
    rcases h with hn | ⟨items, mark, rfl, hitems⟩
    · exact .inl (hf.null hn)
    · refine (hf.list items mark).imp_right ?_
      rintro ⟨ys, mark', heq, hys⟩
      refine ⟨ys, mark', heq, fun y hy => ?_⟩
      obtain ⟨x, hx, rfl⟩ := hys y hy
      obtain ⟨fs, hfs, hr⟩ := hitems x hx
      obtain ⟨gs, hgs, hfrom⟩ := hf.fields hfs
      exact ⟨gs, hgs, hr.thin hf hfrom⟩

/-- What could be read can be read if there is less. -/
theorem Layout.Readable.thin {f : Value → Value} (hf : Value.Thinning f) :
    ∀ {layout : Layout} {fs gs : Fields}, layout.Readable fs → Value.EntriesFrom f fs gs → layout.Readable gs
  | .nil, fs, gs, h, hfrom => by
    intro e he
    obtain ⟨e', he', -, hkey⟩ := hfrom e he
    obtain ⟨s, hs⟩ := Option.isSome_iff_exists.mp (h e' he')
    rw [hkey s hs]
    rfl
  | .entry name shape rest, fs, gs, h, hfrom => by
    refine ⟨fun e he hk => ?_, h.2.thin hf hfrom⟩
    obtain ⟨e', he', hv, hkey⟩ := hfrom e he
    obtain ⟨s, hs⟩ := Option.isSome_iff_exists.mp (h.texts e' he')
    rw [Value.isText_iff, hkey s hs] at hk
    rw [hv]
    exact (h.1 e' he' (Value.isText_iff.mpr (hs.trans hk))).thin hf

end

/-! ## What is written -/

/-- Fields in the order of a layout, from whose values its shapes can be read. -/
def Layout.Offers : Layout → List (String × Value) → Prop
  | .nil, ps => ps = []
  | .entry name shape rest, ps => ∃ v ps', ps = (name, v) :: ps' ∧ shape.Readable v ∧ rest.Offers ps'

@[simp] theorem Layout.offers_ofList_nil {ps : List (String × Value)} : (Layout.ofList []).Offers ps ↔ ps = [] :=
  Iff.rfl

@[simp] theorem Layout.offers_ofList_cons {name other : String} {shape : Shape} {rest : List (String × Shape)}
    {v : Value} {ps : List (String × Value)} : (Layout.ofList ((name, shape) :: rest)).Offers ((other, v) :: ps) ↔
      other = name ∧ shape.Readable v ∧ (Layout.ofList rest).Offers ps := by
  constructor
  · rintro ⟨v, ps, heq, hv, ho⟩
    obtain ⟨hp, rfl⟩ := List.cons_eq_cons.mp heq
    obtain ⟨rfl, rfl⟩ := Prod.mk.inj hp
    exact ⟨rfl, hv, ho⟩
  · rintro ⟨rfl, hv, ho⟩
    exact ⟨v, ps, rfl, hv, ho⟩

theorem Layout.Offers.map_fst : ∀ {layout : Layout} {ps : List (String × Value)}, layout.Offers ps →
    ps.map Prod.fst = layout.names
  | .nil, ps, h => by
    rw [show ps = [] from h]
    rfl
  | .entry name shape rest, ps, h => by
    obtain ⟨v, ps, rfl, -, ho⟩ := h
    rw [List.map_cons, ho.map_fst, Layout.names]

theorem Layout.readable_of_offers : ∀ {layout : Layout} {fs : Fields} {ps : List (String × Value)},
    layout.proper = true → layout.Offers ps →
    (∀ e ∈ fs, ∃ s, e.1.text? = some s ∧ (s ∈ layout.names → (s, e.2) ∈ ps)) → layout.Readable fs
  | .nil, fs, ps, _, _, h => by
    intro e he
    obtain ⟨s, hs, -⟩ := h e he
    rw [hs]
    rfl
  | .entry name shape rest, fs, ps, hp, ho, h => by
    obtain ⟨v, ps, rfl, hv, ho⟩ := ho
    simp only [Layout.proper, Bool.and_eq_true, Bool.not_eq_true', List.contains_eq_mem, decide_eq_false_iff_not] at hp
    refine ⟨fun e he hk => ?_, readable_of_offers hp.2 ho fun e he => ?_⟩
    · obtain ⟨s, hs, hmem⟩ := h e he
      obtain rfl : s = name := Option.some.inj (hs.symm.trans (Value.isText_iff.mp hk))
      rcases List.mem_cons.mp (hmem List.mem_cons_self) with heq | hmem
      · rw [(Prod.mk.inj heq).2]
        exact hv
      · exact absurd (ho.map_fst ▸ List.mem_map_of_mem hmem) hp.1.1
    · obtain ⟨s, hs, hmem⟩ := h e he
      refine ⟨s, hs, fun hrest => ?_⟩
      rcases List.mem_cons.mp (hmem (List.mem_cons_of_mem _ hrest)) with heq | hmem
      · obtain rfl : s = name := (Prod.mk.inj heq).1
        exact absurd hrest hp.1.1
      · exact hmem

namespace Model

/-- Entries with texts as keys that are none of some names. -/
def Foreign (names : List String) (extra : Fields) : Prop :=
  ∀ e ∈ extra, ∃ s, e.1.text? = some s ∧ s ∉ names

theorem foreign_nil (names : List String) : Foreign names [] :=
  fun _ he => by cases he

theorem foreign_of_nil {names : List String} {extra : Fields} (h : extra = []) : Foreign names extra :=
  h ▸ foreign_nil names

theorem foreign_extraOf {fs : Fields} (names : List String) (h : ∀ e ∈ fs, e.1.text?.isSome) :
    Foreign names (extraOf names fs) := by
  intro e he
  obtain ⟨e', he', rfl⟩ := List.mem_map.mp he
  obtain ⟨hmem, hno⟩ := List.mem_filter.mp he'
  obtain ⟨s, hs⟩ := Option.isSome_iff_exists.mp (h e' hmem)
  refine ⟨s, hs, fun hname => ?_⟩
  simp only [Bool.not_eq_true', List.any_eq_false] at hno
  exact hno s hname (Value.isText_iff.mpr hs)

variable {α : Type} {layout : Layout} {ps : List (String × Value)} {extra : Fields}

/-- What is written can be read, if the fields can and the other entries do not take their names. -/
theorem readable_written (hp : layout.proper = true) (ho : layout.Offers ps) (hx : Foreign layout.names extra) :
    layout.Readable (compact ps ++ extra) := by
  refine Layout.readable_of_offers hp ho fun e he => ?_
  rcases List.mem_append.mp he with he | he
  · rw [compact_eq_named] at he
    obtain ⟨q, hq, rfl⟩ := List.mem_map.mp (List.mem_filter.mp he).1
    exact ⟨q.1, rfl, fun _ => hq⟩
  · obtain ⟨s, hs, hno⟩ := hx e he
    exact ⟨s, hs, fun hname => absurd hname hno⟩

theorem readable_optional (layout : Layout) (put : α → Value) {m : Option α}
    (h : ∀ x, m = some x → ∃ fs, (put x).fields? = some fs ∧ layout.Readable fs) :
    (Shape.model layout).Readable (Model.optional put m) := by
  cases m with
  | none => exact .inl rfl
  | some x => exact .inr (h x rfl)

theorem readable_writeAll (layout : Layout) {write : α → Except Misfit Value} {ms : Option (List (Option α))}
    {w : Value} (hw : writeAll write ms = .ok w)
    (h : ∀ x, some x ∈ ms.getD [] → ∀ v, write x = .ok v → ∃ fs, v.fields? = some fs ∧ layout.Readable fs) :
    (Shape.models layout).Readable w := by
  cases ms with
  | none =>
    obtain rfl := Except.ok.inj hw
    exact .inl rfl
  | some ms =>
    obtain ⟨ws, hws, hw⟩ := bind_eq_ok.mp hw
    obtain rfl := Except.ok.inj hw
    refine .inr ⟨ws, none, rfl, fun v hv => ?_⟩
    obtain ⟨m, hm, hv⟩ := mapM_eq_ok_mem hws v hv
    cases m with
    | none => cases hv
    | some x => exact h x hm v hv

end Model

end KubeManifest
