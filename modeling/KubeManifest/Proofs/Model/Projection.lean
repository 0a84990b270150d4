import KubeManifest.Proofs.Model.Shape

/-!
# Writing twice without pruning

What was written can be read and written again, and comes out the same: its fields are those that are written, in
their order, and the entries that no field holds follow them.

* `Model.kept` : what is found again of a field after it was written;
* `Shape.Projects`, `Layout.Projects` : a value, and the fields of a mapping, that come out the same;
* `Layout.write_write` : so it is for every layout whose known names differ.
-/

namespace KubeManifest

open Model

/-! ## What is kept of a field -/

namespace Model

/-- What is found of a field after it was written: nothing if its value is not written. -/
def kept (v : Value) : Value :=
  if isWritten v then v else .null

theorem kept_of_isWritten {v : Value} (h : isWritten v = true) : kept v = v := by
  rw [kept, if_pos h]

theorem kept_of_not_isWritten {v : Value} (h : isWritten v = false) : kept v = .null := by
  rw [kept, h]
  rfl

theorem isWritten_kept (v : Value) : isWritten (kept v) = isWritten v := by
  cases h : isWritten v with
  | true => rw [kept_of_isWritten h, h]
  | false =>
    rw [kept_of_not_isWritten h]
    rfl

/-- Only what is kept of the fields is written. -/
theorem compact_eq_kept (ps : List (String × Value)) :
    compact ps = (Fields.named (ps.map fun p => (p.1, kept p.2))).filter fun e => isWritten e.2 := by
  rw [compact_eq_named]
  induction ps with
  | nil => rfl
  | cons p ps ih =>
    rw [Fields.named_cons, List.map_cons, Fields.named_cons, List.filter_cons, List.filter_cons, ih]
    cases h : isWritten p.2 with
    | true => simp [kept_of_isWritten h, h]
    | false => simp [isWritten_kept, h]

theorem compact_congr {ps qs : List (String × Value)}
    (h : qs.map (fun p => (p.1, kept p.2)) = ps.map fun p => (p.1, kept p.2)) : compact qs = compact ps := by
  rw [compact_eq_kept, compact_eq_kept, h]

theorem get_written {names : List String} {fs : Fields} {ps : List (String × Value)} (hnames : ps.map Prod.fst = names)
    (hnodup : names.Nodup) {p : String × Value} (hp : p ∈ ps) :
    Fields.get (compact ps ++ extraOf names fs) p.1 = kept p.2 := by
  subst hnames
  rw [Fields.get, Fields.find?_append, find?_compact hnodup, Fields.lookup_of_mem hnodup hp,
    find?_extraOf_of_mem fs (List.mem_map_of_mem hp), Option.or_none, kept]
  cases h : isWritten p.2 <;> simp [Option.filter, h]

/-- The entries that no field holds are found again. -/
theorem extraOf_written {names : List String} (fs : Fields) {ps : List (String × Value)}
    (hps : ∀ p ∈ ps, p.1 ∈ names) : extraOf names (compact ps ++ extraOf names fs) = extraOf names fs := by
  rw [extraOf, except_written fs hps]
  exact map_eq_self fun e he => Prod.ext rfl (Fields.plainValues_values _ e he).plain_eq

end Model

/-! ## Writing twice -/

/-- What is found again of the fields of a mapping is written again, and the same of it is kept. -/
def Layout.Projects (layout : Layout) : Prop :=
  ∀ (fs gs : Fields) (ps : List (String × Value)), layout.fields fs = some ps →
    (∀ p ∈ ps, Fields.get gs p.1 = kept p.2) →
    ∃ ps', layout.fields gs = some ps' ∧ ps'.map (fun p => (p.1, kept p.2)) = ps.map fun p => (p.1, kept p.2)

/-- What is kept is written again, and the same of it is kept. -/
def Shape.Projects (shape : Shape) : Prop :=
  ∀ v w, shape.rewrite v = some w → ∃ w', shape.rewrite (kept w) = some w' ∧ kept w' = kept w

theorem Layout.exists_ofFields {layout : Layout} {fs : Fields} {w : Value} (h : layout.write fs = some w) :
    ∃ out, w = .ofFields out := by
  obtain ⟨ps, -, rfl⟩ := write_eq_some h
  exact ⟨_, rfl⟩

theorem Layout.Projects.write_write {layout : Layout} (h : layout.Projects) (hp : layout.proper = true)
    {fs out : Fields} (hw : layout.write fs = some (.ofFields out)) :
    layout.write out = some (.ofFields out) := by
  obtain ⟨ps, hps, hout⟩ := write_eq_some hw
  rw [assemble, Value.map.injEq] at hout
  obtain ⟨rfl, -⟩ := hout
  have hnames := map_fst_fields hps
  obtain ⟨ps', hps', hkept⟩ := h fs _ ps hps fun p hmem => get_written hnames (nodup_names hp) hmem
  have hmem : ∀ p ∈ ps, p.1 ∈ layout.names := fun p hp => hnames ▸ List.mem_map_of_mem hp
  rw [write, hps', Option.map_some, assemble, compact_congr hkept, extraOf_written fs hmem]

namespace Shape

theorem projects_of_not_isWritten {shape : Shape} {w : Value} (h : isWritten w = false) :
    ∃ w', shape.rewrite (kept w) = some w' ∧ kept w' = kept w := by
  obtain ⟨w', hw', hno⟩ := shape.rewrite_null
  rw [kept_of_not_isWritten h]
  exact ⟨w', hw', kept_of_not_isWritten hno⟩

/-- It is enough to look at what is written: from what is not, null is read. -/
theorem projects_of_isWritten {shape : Shape}
    (h : ∀ v w, shape.rewrite v = some w → isWritten w = true → shape.rewrite w = some w) : shape.Projects := by
  intro v w hw
  cases hwritten : isWritten w with
  | false => exact projects_of_not_isWritten hwritten
  | true =>
    rw [kept_of_isWritten hwritten]
    exact ⟨w, h v w hw hwritten, kept_of_isWritten hwritten⟩

theorem copy_projects : copy.Projects := by
  refine projects_of_isWritten fun v w h _ => ?_
  obtain rfl : v.plain = w := Option.some.inj h
  rw [rewrite, v.plain_isPlain.plain_eq]

theorem given_projects : given.Projects := by
  refine projects_of_isWritten fun v w h hw => ?_
  obtain rfl : v.plain.orElse (.ofFields []) = w := Option.some.inj h
  cases ht : v.plain.isTruthy with
  | true =>
    have hself : v.plain.orElse (.ofFields []) = v.plain := by rw [Value.orElse, if_pos ht]
    rw [hself, rewrite, v.plain_isPlain.plain_eq, hself]
  | false =>
    rw [Value.orElse, ht] at hw
    cases hw

theorem model_projects {layout : Layout} (h : layout.Projects) (hp : layout.proper = true) :
    (model layout).Projects := by
  refine projects_of_isWritten fun v w hw hwritten => ?_
  rw [rewrite] at hw
  split at hw
  · obtain rfl : .null = w := Option.some.inj hw
    cases hwritten
  · rw [Value.withFields, Option.bind_eq_some_iff] at hw
    obtain ⟨fs, -, hw⟩ := hw
    change layout.write fs = some w at hw
    obtain ⟨out, rfl⟩ := Layout.exists_ofFields hw
    exact h.write_write hp hw

/-- Every mapping of a list that was written comes out the same. -/
theorem mapM_projects {layout : Layout} (h : layout.Projects) (hp : layout.proper = true) {xs ws : List Value}
    (hw : (xs.mapM fun x => x.withFields layout.write) = some ws) :
    (ws.mapM fun w => w.withFields layout.write) = some ws := by
  induction xs generalizing ws with
  | nil =>
    obtain rfl : [] = ws := Option.some.inj hw
    rfl
  | cons x xs ih =>
    obtain ⟨w, ws, hx, hws, rfl⟩ := mapM_cons_eq_some.mp hw
    rw [Value.withFields, Option.bind_eq_some_iff] at hx
    obtain ⟨fs, -, hx⟩ := hx
    obtain ⟨out, rfl⟩ := Layout.exists_ofFields hx
    exact mapM_cons_eq_some.mpr ⟨_, _, h.write_write hp hx, ih hws, rfl⟩

theorem models_projects {layout : Layout} (h : layout.Projects) (hp : layout.proper = true) :
    (models layout).Projects := by
  refine projects_of_isWritten fun v w hw hwritten => ?_
  rw [rewrite] at hw
  split at hw
  · obtain rfl : .null = w := Option.some.inj hw
    cases hwritten
  · rw [Option.bind_eq_bind, Option.bind_eq_some_iff] at hw
    obtain ⟨xs, -, hw⟩ := hw
    rw [Option.bind_eq_some_iff] at hw
    obtain ⟨ws, hws, hw⟩ := hw
    obtain rfl : .ofList ws = w := Option.some.inj hw
    change Option.bind (ws.mapM fun w => w.withFields layout.write) (fun ws => some (Value.ofList ws)) = _
    rw [mapM_projects h hp hws]
    rfl

end Shape

mutual

theorem Shape.projects : ∀ shape : Shape, shape.proper = true → shape.Projects
  | .copy, _ => Shape.copy_projects
  | .given, _ => Shape.given_projects
  | .model layout, hp => Shape.model_projects (layout.projects hp) hp
  | .models layout, hp => Shape.models_projects (layout.projects hp) hp

theorem Layout.projects : ∀ layout : Layout, layout.proper = true → layout.Projects
  | .nil, _ => by
    intro fs gs ps hps _
    obtain rfl : [] = ps := Option.some.inj hps
    exact ⟨[], rfl, rfl⟩
  | .entry name shape rest, hp => by
    intro fs gs ps hps hget
    simp only [Layout.proper, Bool.and_eq_true] at hp
    rw [Layout.fields, Option.bind_eq_bind, Option.bind_eq_some_iff] at hps
    obtain ⟨w, hw, hps⟩ := hps
    rw [Option.bind_eq_bind, Option.bind_eq_some_iff] at hps
    obtain ⟨ps', hps', hps⟩ := hps
    obtain rfl : (name, w) :: ps' = ps := Option.some.inj hps
    obtain ⟨w', hw', hkept⟩ := shape.projects hp.1.2 _ w hw
    obtain ⟨qs, hqs, hrest⟩ := rest.projects hp.2 fs gs ps' hps' fun p hp => hget p (List.mem_cons_of_mem _ hp)
    have hname : Fields.get gs name = kept w := hget _ List.mem_cons_self
    refine ⟨(name, w') :: qs, ?_, ?_⟩
    · rw [Layout.fields, hname, hw', hqs]
      rfl
    · rw [List.map_cons, List.map_cons, hkept, hrest]

end

/-- **What was written comes out the same when it is read and written again.** -/
theorem Layout.write_write {layout : Layout} (hp : layout.proper = true) {fs out : Fields}
    (hw : layout.write fs = some (.ofFields out)) : layout.write out = some (.ofFields out) :=
  (layout.projects hp).write_write hp hw

end KubeManifest
