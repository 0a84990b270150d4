import KubeManifest.Proofs.Results
import KubeManifest.Proofs.Value.Plain

/-!
# Shapes

What a model makes of a value when it reads it and writes it again, as data:

* `Shape`, `Layout` : a plain copy, a mapping with known entries, or a list of such mappings;
* `Shape.rewrite`, `Layout.write` : the value that is written again;
* `Shape.Settled`, `Layout.Settled` : no known entry is an empty mapping, at any depth;
* `Layout.write_prune` : what is written, pruned and written again changes exactly if it is not settled.
-/

namespace KubeManifest

open Model

def Value.isEmptyMap : Value → Bool
  | .map [] _ => true
  | _ => false

mutual

/-- What becomes of a value that is read and written again: a copy, a copy with an empty mapping in the place of
what does not count as given, a mapping with known entries, or a list of such mappings. -/
inductive Shape
  | copy
  | given
  | model (layout : Layout)
  | models (layout : Layout)

inductive Layout
  | nil
  | entry (name : String) (shape : Shape) (rest : Layout)

end

namespace Layout

def ofList : List (String × Shape) → Layout
  | [] => nil
  | (name, shape) :: rest => entry name shape (ofList rest)

def names : Layout → List String
  | nil => []
  | entry name _ rest => name :: names rest

end Layout

/-! ## Writing again -/

/-- A mapping of fields that are written, and of the entries that no field holds. -/
def Model.assemble (names : List String) (fs : Fields) (fields : List (String × Value)) : Value :=
  .ofFields (compact fields ++ extraOf names fs)

/-- What becomes of a mapping. Nothing else has entries. -/
def Value.withFields (v : Value) (f : Fields → Option Value) : Option Value :=
  v.fields?.bind f

mutual

def Shape.rewrite : Shape → Value → Option Value
  | .copy, v => some v.plain
  | .given, v => some (v.plain.orElse (.ofFields []))
  | .model layout, v =>
    if v.isNull then some .null
    else v.withFields fun fs => (layout.fields fs).map (assemble layout.names fs)
  | .models layout, v =>
    if v.isNull then some .null
    else do
      let items ← (itemsOf v).toOption
      let written ← items.mapM fun x => x.withFields fun fs => (layout.fields fs).map (assemble layout.names fs)
      return .ofList written

def Layout.fields : Layout → Fields → Option (List (String × Value))
  | .nil, _ => some []
  | .entry name shape rest, fs => do
    let v ← shape.rewrite (Fields.get fs name)
    let fields ← rest.fields fs
    return (name, v) :: fields

end

def Layout.write (layout : Layout) (fs : Fields) : Option Value :=
  (layout.fields fs).map (assemble layout.names fs)

mutual

/-- Whether all known names of a mapping differ, at every depth. -/
def Shape.proper : Shape → Bool
  | .copy | .given => true
  | .model layout | .models layout => layout.proper

/-- Whether all known names differ, at every depth. -/
def Layout.proper : Layout → Bool
  | .nil => true
  | .entry name shape rest => !rest.names.contains name && shape.proper && rest.proper

end

mutual

/-- A value in which no known entry is an empty mapping, at any depth. -/
def Shape.Settled : Shape → Value → Prop
  | .copy, _ | .given, _ => True
  | .model layout, v => ∀ fs, v.fields? = some fs → layout.Settled fs
  | .models layout, v => ∀ items mark, v = .list items mark → ∀ x ∈ items, ∀ fs, x.fields? = some fs → layout.Settled fs

/-- Entries none of which is known and an empty mapping, at any depth. -/
def Layout.Settled : Layout → Fields → Prop
  | .nil, _ => True
  | .entry name shape rest, fs =>
    (Fields.get fs name).isEmptyMap = false ∧ shape.Settled (Fields.get fs name) ∧ rest.Settled fs

end

/-! ## What is shown of a field -/

namespace Model

/-- What a field shows of its value after pruning: nothing if the value is not written. -/
def shown (v : Value) : Value :=
  if isWritten v then v.prune else .null

theorem shown_of_not_isWritten {v : Value} (h : isWritten v = false) : shown v = .null := by
  rw [shown, h]
  rfl

theorem isNull_prune_list {items : List Value} {mark : Option Mark} :
    (Value.prune (.list items mark)).isNull = (Value.pruneItems items).isEmpty := by
  rw [Value.prune]
  split <;> rename_i h
  · simp [h]
  · simp [Bool.not_eq_true _ ▸ h]

/-- What is null after pruning is shown as the plain null. -/
theorem shown_eq_null {v : Value} (h : (shown v).isNull = true) : shown v = .null := by
  unfold shown at h ⊢
  split at h
  · rename_i hw
    rw [if_pos hw]
    cases v with
    | scalar s mark =>
      obtain ⟨mark, heq⟩ := Value.isNull_iff.mp h
      rw [Value.prune, Value.scalar.injEq] at heq
      rw [isWritten, heq.1] at hw
      cases hw
    | list items mark =>
      rw [Value.prune]
      rw [isNull_prune_list] at h
      rw [if_pos h]
    | map fs mark => cases h
  · rename_i hw
    rw [if_neg hw]

theorem isPlain_shown {v : Value} (h : v.IsPlain) : (shown v).IsPlain := by
  unfold shown
  split
  · exact h.prune
  · exact .scalar _ _

theorem prune_shown (v : Value) : (shown v).prune = shown v := by
  unfold shown
  split
  · exact Value.prune_prune v
  · rfl

/-- A shown value is written again, unless it is null or an empty mapping. -/
theorem isWritten_shown (v : Value) :
    isWritten (shown v) = (!(shown v).isNull && !(shown v).isEmptyMap) := by
  have hp := prune_shown v
  generalize shown v = u at hp
  cases u with
  | scalar s mark => cases s <;> rfl
  | map fs mark => cases fs <;> rfl
  | list items mark =>
    rw [Value.prune] at hp
    split at hp
    · cases hp
    · rename_i hne
      rw [Value.list.injEq] at hp
      rw [hp.1] at hne
      cases items with
      | nil => exact absurd rfl hne
      | cons x xs => rfl

/-- A shown value that is written again shows the same, unless it is an empty mapping. -/
theorem shown_shown (v : Value) : shown (shown v) = shown v ↔ (shown v).isEmptyMap = false := by
  have hw := isWritten_shown v
  have hp := prune_shown v
  cases hn : (shown v).isNull with
  | true =>
    rw [shown_eq_null hn]
    exact iff_of_true rfl rfl
  | false =>
    cases hm : (shown v).isEmptyMap with
    | true =>
      rw [hn, hm] at hw
      rw [shown_of_not_isWritten hw]
      refine iff_of_false (fun h => ?_) (by simp)
      rw [← h] at hn
      cases hn
    | false =>
      rw [hn, hm] at hw
      refine iff_of_true ?_ rfl
      rw [shown, hw, hp]
      rfl

/-- The entries that fields show. -/
theorem pruneEntries_compact (fields : List (String × Value)) :
    Value.pruneEntries (compact fields) =
      (Fields.named (fields.map fun p => (p.1, shown p.2))).filter fun e => !e.2.isNull := by
  induction fields with
  | nil => rfl
  | cons p fields ih =>
    obtain ⟨name, v⟩ := p
    rw [compact_eq_named] at ih ⊢
    rw [Fields.named_cons, List.filter_cons, List.map_cons, Fields.named_cons, List.filter_cons, ← ih]
    cases hw : isWritten v with
    | false => simp [shown, hw]
    | true => cases hn : v.prune.isNull <;> simp [shown, hw, hn, Value.pruneEntries]

theorem map_fst_shown (fields : List (String × Value)) :
    (fields.map fun p => (p.1, shown p.2)).map Prod.fst = fields.map Prod.fst := by
  rw [List.map_map]
  rfl

theorem named_filter_inj {ps qs : List (String × Value)} (hkeys : qs.map Prod.fst = ps.map Prod.fst)
    (hnodup : (ps.map Prod.fst).Nodup) (hps : ∀ p ∈ ps, p.2.isNull = true → p.2 = .null)
    (hqs : ∀ q ∈ qs, q.2.isNull = true → q.2 = .null)
    (h : ((Fields.named qs).filter fun e => !e.2.isNull) = (Fields.named ps).filter fun e => !e.2.isNull) :
    qs = ps := by
  have habsent : ∀ {name : String} {v : Value} {rs : List (String × Value)} {fs : Fields},
      name ∉ rs.map Prod.fst → (Value.ofString name, v) :: fs ≠ (Fields.named rs).filter fun e => !e.2.isNull := by
    intro name v rs fs hname heq
    have hmem := (List.mem_filter.mp (heq ▸ List.mem_cons_self : (Value.ofString name, v) ∈ _)).1
    obtain ⟨r, hr, hr'⟩ := List.mem_map.mp hmem
    obtain rfl : r.1 = name := by simpa using congrArg (fun e : Value × Value => e.1.text?) hr'
    exact hname (List.mem_map.mpr ⟨r, hr, rfl⟩)
  induction ps generalizing qs with
  | nil => exact List.map_eq_nil_iff.mp hkeys
  | cons p ps ih =>
    obtain ⟨name, v⟩ := p
    cases qs with
    | nil => cases hkeys
    | cons q qs =>
      obtain ⟨name', w⟩ := q
      obtain ⟨hq, htails⟩ := List.cons_eq_cons.mp hkeys
      obtain rfl : name' = name := hq
      obtain ⟨hname, hnodup⟩ := List.nodup_cons.mp hnodup
      have hrest := ih htails hnodup (fun p hp => hps p (List.mem_cons_of_mem _ hp))
        fun q hq => hqs q (List.mem_cons_of_mem _ hq)
      rw [Fields.named_cons, Fields.named_cons, List.filter_cons, List.filter_cons] at h
      have hv := hps _ List.mem_cons_self
      have hw := hqs _ List.mem_cons_self
      dsimp only at h hv hw
      cases hnv : v.isNull <;> cases hnw : w.isNull <;> simp only [hnv, hnw] at h
      · obtain ⟨heq, h⟩ := List.cons_eq_cons.mp h
        rw [hrest h, (Prod.mk.inj heq).2]
      · exact absurd h.symm (habsent (htails ▸ hname))
      · exact absurd h (habsent hname)
      · rw [hrest h, hv hnv, hw hnw]

/-- Fields of the same names show the same entries exactly if each shows the same. -/
theorem pruneEntries_compact_inj {ps qs : List (String × Value)} (hkeys : qs.map Prod.fst = ps.map Prod.fst)
    (hnodup : (ps.map Prod.fst).Nodup) :
    Value.pruneEntries (compact qs) = Value.pruneEntries (compact ps) ↔
      qs.map (fun p => (p.1, shown p.2)) = ps.map fun p => (p.1, shown p.2) := by
  rw [pruneEntries_compact, pruneEntries_compact]
  constructor
  · intro h
    refine named_filter_inj ?_ ?_ ?_ ?_ h
    · rw [map_fst_shown, map_fst_shown, hkeys]
    · rw [map_fst_shown]
      exact hnodup
    all_goals
      intro p hp hn
      obtain ⟨p, -, rfl⟩ := List.mem_map.mp hp
      exact shown_eq_null hn
  · intro h
    rw [h]

/-- What is found under the name of a field. -/
theorem get_pruneEntries_compact {fields : List (String × Value)} (hnodup : (fields.map Prod.fst).Nodup)
    {p : String × Value} (hp : p ∈ fields) :
    Fields.get (Value.pruneEntries (compact fields)) p.1 = shown p.2 := by
  have hnamed : ((fields.map fun p => (p.1, shown p.2)).map Prod.fst).Nodup := by
    rw [map_fst_shown]
    exact hnodup
  have hfind : Fields.find? (Fields.named (fields.map fun p => (p.1, shown p.2))) p.1 = some (shown p.2) := by
    rw [Fields.find?_named]
    exact Fields.lookup_of_mem hnamed (List.mem_map_of_mem (f := fun p => (p.1, shown p.2)) hp)
  rw [pruneEntries_compact, Fields.get,
    Fields.find?_filter_value (Fields.distinct_named hnamed) (fun v => !v.isNull), hfind]
  cases hn : (shown p.2).isNull with
  | true => simp [shown_eq_null hn, Option.filter]
  | false => simp [hn, Option.filter]

end Model

/-! ## Writing twice -/

namespace Layout

theorem map_fst_fields : ∀ {layout : Layout} {fs : Fields} {ps : List (String × Value)},
    layout.fields fs = some ps → ps.map Prod.fst = layout.names
  | .nil, fs, ps, h => by
    obtain rfl : [] = ps := Option.some.inj h
    rfl
  | .entry name shape rest, fs, ps, h => by
    rw [fields, Option.bind_eq_bind, Option.bind_eq_some_iff] at h
    obtain ⟨v, -, h⟩ := h
    rw [Option.bind_eq_bind, Option.bind_eq_some_iff] at h
    obtain ⟨ps', hps', h⟩ := h
    obtain rfl : (name, v) :: ps' = ps := Option.some.inj h
    rw [List.map_cons, map_fst_fields hps', names]

theorem nodup_names : ∀ {layout : Layout}, layout.proper = true → layout.names.Nodup
  | .nil, _ => List.nodup_nil
  | .entry name shape rest, h => by
    simp only [proper, Bool.and_eq_true, Bool.not_eq_true', List.contains_eq_mem, decide_eq_false_iff_not] at h
    exact List.nodup_cons.mpr ⟨h.1.1, nodup_names h.2⟩

theorem write_eq_some {layout : Layout} {fs : Fields} {v : Value} (h : layout.write fs = some v) :
    ∃ ps, layout.fields fs = some ps ∧ v = assemble layout.names fs ps := by
  rw [write, Option.map_eq_some_iff] at h
  obtain ⟨ps, hps, rfl⟩ := h
  exact ⟨ps, hps, rfl⟩

end Layout

theorem Shape.rewrite_null (shape : Shape) : ∃ w, shape.rewrite .null = some w ∧ isWritten w = false := by
  cases shape <;> exact ⟨_, rfl, rfl⟩

theorem Layout.fields_nil : ∀ layout : Layout, ∃ ps, layout.fields [] = some ps ∧ ∀ p ∈ ps, isWritten p.2 = false
  | .nil => ⟨[], rfl, by simp⟩
  | .entry name shape rest => by
    obtain ⟨w, hw, hno⟩ := shape.rewrite_null
    obtain ⟨ps, hps, hnone⟩ := rest.fields_nil
    refine ⟨(name, w) :: ps, ?_, List.forall_mem_cons.mpr ⟨hno, hnone⟩⟩
    change (shape.rewrite .null).bind (fun v => (rest.fields []).bind fun fields => some ((name, v) :: fields)) = _
    rw [hw, hps]
    rfl

/-- A mapping without entries stays one. -/
theorem Layout.write_nil (layout : Layout) : layout.write [] = some (.ofFields []) := by
  obtain ⟨ps, hps, hnone⟩ := layout.fields_nil
  have hcompact : compact ps = [] := by
    rw [compact_eq_named, List.filter_eq_nil_iff]
    intro e he
    obtain ⟨p, hp, rfl⟩ := List.mem_map.mp he
    rw [hnone p hp]
    exact Bool.false_ne_true
  rw [write, hps, Option.map_some, assemble, hcompact]
  rfl

/-- What is found after pruning is written again, and shows the same exactly if it is settled. -/
def Layout.Repeats (layout : Layout) : Prop :=
  ∀ (fs gs : Fields) (ps : List (String × Value)), layout.fields fs = some ps →
    (∀ p ∈ ps, Fields.get gs p.1 = shown p.2) →
    ∃ ps', layout.fields gs = some ps' ∧
      (ps'.map (fun p => (p.1, shown p.2)) = ps.map (fun p => (p.1, shown p.2)) ↔ layout.Settled gs)

/-- Among the entries that are written no field holds those that no field held before. -/
theorem Model.except_written {names : List String} (fs : Fields) {ps : List (String × Value)}
    (hps : ∀ p ∈ ps, p.1 ∈ names) : Fields.except (compact ps ++ extraOf names fs) names = extraOf names fs := by
  have hknown : Fields.except (compact ps) names = [] := by
    rw [Fields.except, List.filter_eq_nil_iff]
    intro e he
    rw [compact_eq_named] at he
    obtain ⟨p, hp, rfl⟩ := List.mem_map.mp (List.mem_filter.mp he).1
    simp [hps p hp]
  have hextra : Fields.except (extraOf names fs) names = extraOf names fs := by
    rw [Fields.except, List.filter_eq_self]
    intro e he
    obtain ⟨e', he', rfl⟩ := List.mem_map.mp he
    exact (List.mem_filter.mp he').2
  calc Fields.except (compact ps ++ extraOf names fs) names
      = Fields.except (compact ps) names ++ Fields.except (extraOf names fs) names := List.filter_append ..
    _ = extraOf names fs := by rw [hknown, hextra, List.nil_append]

/-- The entries that no field holds stay as they are when they are pruned. -/
theorem Model.extraOf_pruneEntries {names : List String} {fs : Fields} {ps : List (String × Value)}
    (hps : ∀ p ∈ ps, p.1 ∈ names) :
    extraOf names (Value.pruneEntries (compact ps ++ extraOf names fs)) =
      Value.pruneEntries (extraOf names fs) := by
  have hexcept : Fields.except (Value.pruneEntries (compact ps ++ extraOf names fs)) names =
      Value.pruneEntries (extraOf names fs) := by
    refine (Value.pruneEntries_filter _ fun k => !names.any k.isText).symm.trans ?_
    exact congrArg Value.pruneEntries (except_written fs hps)
  rw [extraOf, hexcept, Fields.plainValues]
  refine map_eq_self fun e he => Prod.ext rfl ?_
  obtain ⟨v, hmem, hv, -⟩ := Value.mem_pruneEntries.mp he
  have hplain := (Fields.plainValues_values _ _ hmem).prune
  dsimp only at hplain
  rw [hv] at hplain
  exact hplain.plain_eq

/-- What is written, pruned and written again changes exactly if it is not settled. -/
theorem Layout.Repeats.write_prune {layout : Layout} (h : layout.Repeats) (hp : layout.proper = true)
    {fs out : Fields} (hw : layout.write fs = some (.ofFields out)) :
    ∃ out', layout.write (Value.pruneEntries out) = some (.ofFields out') ∧
      (Value.pruneEntries out' = Value.pruneEntries out ↔ layout.Settled (Value.pruneEntries out)) := by
  obtain ⟨ps, hps, hout⟩ := write_eq_some hw
  rw [assemble, Value.map.injEq] at hout
  obtain ⟨rfl, -⟩ := hout
  have hnames := map_fst_fields hps
  have hnodup : (ps.map Prod.fst).Nodup := hnames ▸ nodup_names hp
  have hmem : ∀ p ∈ ps, p.1 ∈ layout.names := fun p hp => hnames ▸ List.mem_map_of_mem hp
  have hget : ∀ p ∈ ps, Fields.get (Value.pruneEntries (compact ps ++ extraOf layout.names fs)) p.1 = shown p.2 := by
    intro p hp
    have hnone : Fields.find? (Value.pruneEntries (extraOf layout.names fs)) p.1 = none := by
      rw [Fields.find?_eq_none_iff]
      intro e he
      obtain ⟨v, he, -⟩ := Value.mem_pruneEntries.mp he
      exact Fields.find?_eq_none_iff.mp (find?_extraOf_of_mem fs (hmem p hp)) (e.1, v) he
    rw [Value.pruneEntries_append, Fields.get, Fields.find?_append, hnone, Option.or_none]
    exact get_pruneEntries_compact hnodup hp
  obtain ⟨ps', hps', hiff⟩ := h fs _ ps hps hget
  refine ⟨_, by rw [write, hps', Option.map_some, assemble], ?_⟩
  rw [← hiff, ← pruneEntries_compact_inj ((map_fst_fields hps').trans hnames.symm) hnodup, extraOf_pruneEntries hmem,
    Value.pruneEntries_append, Value.pruneEntries_append, Value.pruneEntries_pruneEntries]
  exact List.append_left_inj _

namespace Shape

/-- What is shown is written again, and shows the same exactly if it is settled and no empty mapping. -/
def Repeats (shape : Shape) : Prop :=
  ∀ v w, shape.rewrite v = some w → ∃ w', shape.rewrite (shown w) = some w' ∧
    (shown w' = shown w ↔ (shown w).isEmptyMap = false ∧ shape.Settled (shown w))

/-- Nothing that is shown is written again as nothing. -/
theorem repeats_of_null {shape : Shape} {w : Value} (hw : shown w = .null) (hs : shape.Settled .null) :
    ∃ w', shape.rewrite (shown w) = some w' ∧
      (shown w' = shown w ↔ (shown w).isEmptyMap = false ∧ shape.Settled (shown w)) := by
  obtain ⟨w', hw', hno⟩ := shape.rewrite_null
  rw [hw]
  exact ⟨w', hw', iff_of_true (shown_of_not_isWritten hno) ⟨rfl, hs⟩⟩

theorem copy_repeats : copy.Repeats := by
  intro v w h
  obtain rfl : v.plain = w := Option.some.inj h
  refine ⟨shown v.plain, ?_, ?_⟩
  · rw [rewrite, (isPlain_shown v.plain_isPlain).plain_eq]
  · rw [shown_shown, Settled]
    exact (and_iff_left trivial).symm

theorem isTruthy_of_isPlain_shown {w : Value} (h : w.isTruthy = true) (hn : (shown w).isNull = false)
    (hm : (shown w).isEmptyMap = false) : (shown w).isTruthy = true := by
  unfold shown at hn hm ⊢
  split at hn
  · rename_i hw
    rw [if_pos hw] at hm ⊢
    cases w with
    | scalar s mark => exact h
    | map fs mark =>
      rw [Value.prune] at hm ⊢
      cases hfs : Value.pruneEntries fs with
      | nil =>
        rw [hfs] at hm
        cases hm
      | cons e fs => rfl
    | list items mark =>
      rw [isNull_prune_list] at hn
      rw [Value.prune, hn]
      simp [Value.isTruthy, hn]
  · cases hn

theorem given_repeats : given.Repeats := by
  intro v w h
  obtain rfl : v.plain.orElse (.ofFields []) = w := Option.some.inj h
  cases hn : (shown (v.plain.orElse (.ofFields []))).isNull with
  | true => exact repeats_of_null (shown_eq_null hn) trivial
  | false =>
    have ht : v.plain.isTruthy = true := by
      cases ht : v.plain.isTruthy with
      | true => rfl
      | false =>
        rw [Value.orElse, ht] at hn
        cases hn
    rw [Value.orElse, if_pos ht] at hn ⊢
    have hplain := (isPlain_shown v.plain_isPlain).plain_eq
    refine ⟨(shown v.plain).orElse (.ofFields []), by rw [rewrite, hplain], ?_⟩
    cases hm : (shown v.plain).isEmptyMap with
    | true =>
      refine iff_of_false (fun heq => ?_) (by simp)
      have hw := isWritten_shown v.plain
      rw [hn, hm] at hw
      have hno : isWritten ((shown v.plain).orElse (.ofFields [])) = false := by
        unfold Value.orElse
        split
        · exact hw
        · rfl
      rw [shown_of_not_isWritten hno] at heq
      rw [← heq] at hn
      cases hn
    | false =>
      refine iff_of_true ?_ ⟨rfl, trivial⟩
      rw [Value.orElse, if_pos (isTruthy_of_isPlain_shown ht hn hm), shown_shown, hm]

theorem model_repeats {layout : Layout} (h : layout.Repeats) (hp : layout.proper = true) :
    (model layout).Repeats := by
  intro v w hw
  cases hn : (shown w).isNull with
  | true => exact repeats_of_null (shown_eq_null hn) fun fs hfs => by cases hfs
  | false =>
    rw [rewrite] at hw
    split at hw
    · obtain rfl : .null = w := Option.some.inj hw
      cases hn
    · cases v with
      | scalar s mark => cases hw
      | list items mark => cases hw
      | map fs mark =>
        change layout.write fs = some w at hw
        obtain ⟨ps, hps, rfl⟩ := Layout.write_eq_some hw
        generalize hout : compact ps ++ extraOf layout.names fs = out at *
        rw [assemble, hout] at hw hn ⊢
        obtain ⟨out', hout', hiff⟩ := h.write_prune hp hw
        have hwritten : isWritten (.ofFields out) = true := by
          cases hw : isWritten (.ofFields out) with
          | true => rfl
          | false =>
            rw [shown_of_not_isWritten hw] at hn
            cases hn
        have hshown : shown (.ofFields out) = .ofFields (Value.pruneEntries out) := by
          rw [shown, if_pos hwritten, Value.prune]
        rw [hshown]
        refine ⟨.ofFields out', hout', ?_⟩
        have hsettled : (model layout).Settled (.ofFields (Value.pruneEntries out)) ↔
            layout.Settled (Value.pruneEntries out) := by
          rw [Settled]
          exact ⟨fun h => h _ rfl, fun h fs hfs => Option.some.inj hfs ▸ h⟩
        rw [hsettled, ← hiff]
        cases hnil : out' with
        | nil =>
          refine iff_of_false (fun h => by cases h) ?_
          rintro ⟨hm, heq⟩
          rw [← heq] at hm
          cases hm
        | cons e rest =>
          have hne : shown (.ofFields (e :: rest)) = .ofFields (Value.pruneEntries (e :: rest)) := rfl
          rw [hne, Value.map.injEq, and_iff_left rfl]
          refine ⟨fun heq => ⟨?_, heq⟩, fun h => h.2⟩
          cases hpr : Value.pruneEntries out with
          | cons e fs => rfl
          | nil =>
            rw [hpr, layout.write_nil, hnil] at hout'
            cases hout'

def items (outs : List Fields) : List Value :=
  outs.map .ofFields

theorem items_inj {as bs : List Fields} : items as = items bs ↔ as = bs := by
  have hback : ∀ outs : List Fields, (items outs).filterMap Value.fields? = outs := by
    intro outs
    rw [items, List.filterMap_map]
    exact List.filterMap_some
  refine ⟨fun h => ?_, fun h => by rw [h]⟩
  rw [← hback as, h, hback]

theorem pruneItems_items (outs : List Fields) :
    Value.pruneItems (items outs) = items (outs.map Value.pruneEntries) := by
  rw [Value.pruneItems_eq, items, items, List.map_map, List.map_map, List.filter_eq_self.mpr]
  · rfl
  · intro x hx
    obtain ⟨out, -, rfl⟩ := List.mem_map.mp hx
    rfl

theorem shown_items {outs : List Fields} (h : outs ≠ []) :
    shown (.ofList (items outs)) = .ofList (items (outs.map Value.pruneEntries)) := by
  cases outs with
  | nil => exact absurd rfl h
  | cons out outs =>
    have hw : isWritten (.ofList (items (out :: outs))) = true := rfl
    rw [shown, if_pos hw, Value.prune, pruneItems_items]
    rfl

theorem mapM_repeats {layout : Layout} (h : layout.Repeats) (hp : layout.proper = true) {xs ws : List Value}
    (hw : (xs.mapM fun x => x.withFields layout.write) = some ws) :
    ∃ outs, ws = items outs ∧ ∃ outs', outs'.length = outs.length ∧
      ((items (outs.map Value.pruneEntries)).mapM fun x => x.withFields layout.write) = some (items outs') ∧
      (outs'.map Value.pruneEntries = outs.map Value.pruneEntries ↔
        ∀ fs ∈ outs.map Value.pruneEntries, layout.Settled fs) := by
  induction xs generalizing ws with
  | nil =>
    obtain rfl : [] = ws := Option.some.inj hw
    exact ⟨[], rfl, [], rfl, rfl, by simp⟩
  | cons x xs ih =>
    rw [List.mapM_cons, Option.bind_eq_bind, Option.bind_eq_some_iff] at hw
    obtain ⟨w, hx, hw⟩ := hw
    rw [Option.bind_eq_bind, Option.bind_eq_some_iff] at hw
    obtain ⟨ws', hws', hw⟩ := hw
    obtain rfl : w :: ws' = ws := Option.some.inj hw
    obtain ⟨outs, rfl, outs', hlen, hmap, hiff⟩ := ih hws'
    rw [Value.withFields, Option.bind_eq_some_iff] at hx
    obtain ⟨fs, -, hx⟩ := hx
    obtain ⟨ps, hps, rfl⟩ := Layout.write_eq_some hx
    obtain ⟨out', hout', hiff'⟩ := h.write_prune hp hx
    refine ⟨_ :: outs, rfl, out' :: outs', by simp [hlen], ?_, ?_⟩
    · rw [List.map_cons, items, List.map_cons, List.mapM_cons]
      change (layout.write _).bind (fun w => Option.bind ((items (outs.map Value.pruneEntries)).mapM fun x =>
        x.withFields layout.write) fun ws => some (w :: ws)) = _
      rw [hout', hmap]
      rfl
    · rw [List.map_cons, List.map_cons, List.cons.injEq, List.forall_mem_cons, hiff, hiff']

theorem models_repeats {layout : Layout} (h : layout.Repeats) (hp : layout.proper = true) :
    (models layout).Repeats := by
  intro v w hw
  rw [rewrite] at hw
  split at hw
  · obtain rfl : .null = w := Option.some.inj hw
    exact repeats_of_null rfl fun items mark hl => by cases hl
  · rw [Option.bind_eq_bind, Option.bind_eq_some_iff] at hw
    obtain ⟨xs, -, hw⟩ := hw
    rw [Option.bind_eq_some_iff] at hw
    obtain ⟨ws, hws, hw⟩ := hw
    obtain rfl : .ofList ws = w := Option.some.inj hw
    obtain ⟨outs, rfl, outs', hlen, hmap, hiff⟩ := mapM_repeats h hp hws
    by_cases hnil : outs = []
    · subst hnil
      exact repeats_of_null rfl fun items mark hl => by cases hl
    · have hnil' : outs' ≠ [] := by
        intro h
        rw [h] at hlen
        exact hnil (List.length_eq_zero_iff.mp hlen.symm)
      rw [shown_items hnil]
      refine ⟨.ofList (items outs'), ?_, ?_⟩
      · change Option.bind ((items (outs.map Value.pruneEntries)).mapM fun x => Value.withFields x layout.write)
          (fun ws => some (Value.ofList ws)) = _
        rw [hmap]
        rfl
      · rw [shown_items hnil', Value.list.injEq, and_iff_left rfl, items_inj, hiff, Settled]
        constructor
        · intro hall
          refine ⟨rfl, fun xs mark hl x hx fs hfs => ?_⟩
          obtain ⟨rfl, -⟩ := Value.list.inj hl
          obtain ⟨fs', hfs', rfl⟩ := List.mem_map.mp hx
          exact Option.some.inj hfs ▸ hall fs' hfs'
        · rintro ⟨-, hall⟩ fs hfs
          exact hall _ _ rfl (.ofFields fs) (List.mem_map_of_mem hfs) fs rfl

end Shape

mutual

theorem Shape.repeats : ∀ shape : Shape, shape.proper = true → shape.Repeats
  | .copy, _ => Shape.copy_repeats
  | .given, _ => Shape.given_repeats
  | .model layout, hp => Shape.model_repeats (layout.repeats hp) hp
  | .models layout, hp => Shape.models_repeats (layout.repeats hp) hp

theorem Layout.repeats : ∀ layout : Layout, layout.proper = true → layout.Repeats
  | .nil, _ => by
    intro fs gs ps hps _
    obtain rfl : [] = ps := Option.some.inj hps
    exact ⟨[], rfl, iff_of_true rfl trivial⟩
  | .entry name shape rest, hp => by
    intro fs gs ps hps hget
    simp only [Layout.proper, Bool.and_eq_true] at hp
    rw [Layout.fields, Option.bind_eq_bind, Option.bind_eq_some_iff] at hps
    obtain ⟨w, hw, hps⟩ := hps
    rw [Option.bind_eq_bind, Option.bind_eq_some_iff] at hps
    obtain ⟨ps', hps', hps⟩ := hps
    obtain rfl : (name, w) :: ps' = ps := Option.some.inj hps
    have hname : Fields.get gs name = shown w := hget _ List.mem_cons_self
    obtain ⟨w', hw', hiff⟩ := shape.repeats hp.1.2 _ w hw
    obtain ⟨qs, hqs, hiff'⟩ := rest.repeats hp.2 fs gs ps' hps' fun p hp => hget p (List.mem_cons_of_mem _ hp)
    refine ⟨(name, w') :: qs, ?_, ?_⟩
    · change (shape.rewrite (Fields.get gs name)).bind
        (fun v => (rest.fields gs).bind fun fields => some ((name, v) :: fields)) = _
      rw [hname, hw', hqs]
      rfl
    · rw [Layout.Settled, hname, List.map_cons, List.map_cons, List.cons.injEq, hiff', Prod.mk.injEq, and_iff_right rfl,
        hiff, and_assoc]

end

/-- **What is written, pruned and written again changes exactly if it is not settled.** -/
theorem Layout.write_prune {layout : Layout} (hp : layout.proper = true) {fs out : Fields}
    (hw : layout.write fs = some (.ofFields out)) :
    ∃ out', layout.write (Value.pruneEntries out) = some (.ofFields out') ∧
      (Value.pruneEntries out' = Value.pruneEntries out ↔ layout.Settled (Value.pruneEntries out)) :=
  (layout.repeats hp).write_prune hp hw

/-! ## Plain values -/

/-- Fields differ in their names from each other and from the entries beside them. -/
theorem Model.distinct_compact_append {ps : List (String × Value)} {extra : Fields} (hextra : Fields.Distinct extra)
    (hnodup : (ps.map Prod.fst).Nodup) (hno : ∀ p ∈ ps, Fields.find? extra p.1 = none) :
    Fields.Distinct (compact ps ++ extra) := by
  rw [compact_eq_named]
  refine ((Fields.distinct_named hnodup).filter _).append hextra fun e he name hname => ?_
  obtain ⟨p, hp, rfl⟩ := List.mem_map.mp (List.mem_filter.mp he).1
  obtain rfl : p.1 = name := by simpa using hname
  exact hno p hp

theorem Model.assemble_isPlain {names : List String} {fs : Fields} {ps : List (String × Value)} (hfs : fs.Named)
    (hnames : ps.map Prod.fst = names) (hnodup : names.Nodup) (hps : ∀ p ∈ ps, p.2.IsPlain) :
    (assemble names fs ps).IsPlain := by
  have hcompact : (compact ps).IsPlain := by
    rw [compact_eq_named]
    refine Fields.IsPlain.filter ⟨Fields.Named.of_pairs (hnames ▸ hnodup), fun e he => ?_⟩ _
    obtain ⟨p, hp, rfl⟩ := List.mem_map.mp he
    exact hps p hp
  have hextra : (extraOf names fs).IsPlain := by
    refine ⟨⟨fun e he => ?_, ?_⟩, Fields.plainValues_values _⟩
    · obtain ⟨e', he', rfl⟩ := List.mem_map.mp he
      exact hfs.keys e' (List.mem_filter.mp he').1
    · exact (hfs.distinct.filter _).map_value Value.plain
  refine .map (fun e he => ?_) ?_ fun e he => ?_
  · rcases List.mem_append.mp he with he | he
    · exact hcompact.keys e he
    · exact hextra.keys e he
  · exact distinct_compact_append hextra.distinct (hnames ▸ hnodup) fun p hp =>
      find?_extraOf_of_mem fs (hnames ▸ List.mem_map_of_mem hp)
  · rcases List.mem_append.mp he with he | he
    · exact hcompact.values e he
    · exact hextra.values e he

theorem Model.isPlain_of_mem_itemsOf {v : Value} (hv : v.IsPlain) {items : List Value} (h : itemsOf v = .ok items) :
    ∀ x ∈ items, x.IsPlain := by
  intro x hx
  cases hv with
  | scalar s mark =>
    cases s with
    | text s style =>
      obtain rfl := Except.ok.inj h
      obtain ⟨c, -, rfl⟩ := List.mem_map.mp hx
      exact .scalar _ _
    | _ => cases h
  | list hitems =>
    obtain rfl := Except.ok.inj h
    exact hitems x hx
  | map keys _ _ =>
    obtain rfl := Except.ok.inj h
    obtain ⟨e, he, rfl⟩ := List.mem_map.mp hx
    obtain ⟨s, hs⟩ := keys e he
    rw [hs]
    exact .scalar _ _

theorem Value.get_isPlain {fs : Fields} (h : fs.IsPlain) (name : String) : (Fields.get fs name).IsPlain := by
  unfold Fields.get
  cases hv : Fields.find? fs name with
  | none => exact .scalar _ _
  | some v => exact h.of_find? hv

theorem Layout.write_isPlain_of {layout : Layout} (hp : layout.proper = true)
    (h : ∀ fs ps, Fields.IsPlain fs → layout.fields fs = some ps → ∀ p ∈ ps, p.2.IsPlain) {v w : Value}
    (hv : v.IsPlain)
    (hw : v.withFields layout.write = some w) : w.IsPlain := by
  rw [Value.withFields, Option.bind_eq_some_iff] at hw
  obtain ⟨fs, hfs, hw⟩ := hw
  cases v with
  | map fs' mark =>
    obtain rfl : fs' = fs := Option.some.inj hfs
    have hplain := Fields.IsPlain.of_map hv
    obtain ⟨ps, hps, rfl⟩ := write_eq_some hw
    exact assemble_isPlain hplain.toNamed (map_fst_fields hps) (nodup_names hp) (h fs' ps hplain hps)
  | _ => cases hfs

mutual

theorem Shape.rewrite_isPlain : ∀ (shape : Shape), shape.proper = true → ∀ v w : Value, v.IsPlain →
    shape.rewrite v = some w → w.IsPlain
  | .copy, _, v, w, _, h => by
    obtain rfl : v.plain = w := Option.some.inj h
    exact v.plain_isPlain
  | .given, _, v, w, _, h => by
    obtain rfl : v.plain.orElse (.ofFields []) = w := Option.some.inj h
    rw [Value.orElse]
    split
    · exact v.plain_isPlain
    · exact Value.plain_isPlain (.ofFields [])
  | .model layout, hp, v, w, hv, h => by
    rw [Shape.rewrite] at h
    split at h
    · obtain rfl : .null = w := Option.some.inj h
      exact .scalar _ _
    · exact Layout.write_isPlain_of hp (layout.fields_isPlain hp) hv h
  | .models layout, hp, v, w, hv, h => by
    rw [Shape.rewrite] at h
    split at h
    · obtain rfl : .null = w := Option.some.inj h
      exact .scalar _ _
    · rw [Option.bind_eq_bind, Option.bind_eq_some_iff] at h
      obtain ⟨items, hitems, h⟩ := h
      rw [Option.bind_eq_some_iff] at h
      obtain ⟨ws, hws, h⟩ := h
      obtain rfl : .ofList ws = w := Option.some.inj h
      have hplain : ∀ x ∈ items, x.IsPlain := isPlain_of_mem_itemsOf hv (toOption_eq_some.mp hitems)
      refine .list fun y hy => ?_
      obtain ⟨x, hx, hy⟩ := mapM_eq_some_mem hws y hy
      exact Layout.write_isPlain_of hp (layout.fields_isPlain hp) (hplain x hx) hy

theorem Layout.fields_isPlain :
    ∀ (layout : Layout), layout.proper = true → ∀ (fs : Fields) (ps : List (String × Value)),
    fs.IsPlain → layout.fields fs = some ps → ∀ p ∈ ps, p.2.IsPlain
  | .nil, _, fs, ps, _, h => by
    obtain rfl : [] = ps := Option.some.inj h
    simp
  | .entry name shape rest, hp, fs, ps, hfs, h => by
    simp only [Layout.proper, Bool.and_eq_true] at hp
    rw [Layout.fields, Option.bind_eq_bind, Option.bind_eq_some_iff] at h
    obtain ⟨w, hw, h⟩ := h
    rw [Option.bind_eq_bind, Option.bind_eq_some_iff] at h
    obtain ⟨ps', hps', h⟩ := h
    obtain rfl : (name, w) :: ps' = ps := Option.some.inj h
    refine List.forall_mem_cons.mpr ⟨?_, rest.fields_isPlain hp.2 fs ps' hfs hps'⟩
    exact shape.rewrite_isPlain hp.1.2 _ w (Value.get_isPlain hfs name) hw

end

/-- What is written for plain entries is plain. -/
theorem Layout.write_isPlain {layout : Layout} (hp : layout.proper = true) {fs : Fields} (hfs : fs.IsPlain)
    {w : Value}
    (hw : layout.write fs = some w) : w.IsPlain :=
  write_isPlain_of hp (layout.fields_isPlain hp) hfs.ofFields hw

end KubeManifest
