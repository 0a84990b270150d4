import KubeManifest.Proofs.Model.Conserved
import KubeManifest.Proofs.Model.Models
import KubeManifest.Proofs.Value.Paths

/-!
# Models keep what they are read from

* `Model.keeps_compact` : a mapping keeps what its fields and its other entries keep;
* `Layout.keeps_write` : a mapping that is read and written again keeps every scalar.
-/

namespace KubeManifest

open Model Value

/-! ## Fields -/

namespace Model

variable {lost : List Step → Scalar → Prop} {ps : List (String × Value)} {extra : Fields}

theorem lookup_of_mem (hnodup : (ps.map Prod.fst).Nodup) {p : String × Value} (hp : p ∈ ps) :
    ps.lookup p.1 = some p.2 := by
  induction ps with
  | nil => simp at hp
  | cons q ps ih =>
    obtain ⟨hq, hnodup⟩ := List.nodup_cons.mp hnodup
    rw [List.lookup_cons]
    rcases List.mem_cons.mp hp with rfl | hp
    · simp
    · have hne : p.1 ≠ q.1 := fun heq => hq (heq ▸ List.mem_map_of_mem hp)
      rw [beq_eq_false_iff_ne.mpr hne]
      exact ih hnodup hp

theorem get_compact_append (hnodup : (ps.map Prod.fst).Nodup) {p : String × Value} (hp : p ∈ ps)
    (hno : Fields.find? extra p.1 = none) :
    Fields.get (compact ps ++ extra) p.1 = if isWritten p.2 then p.2 else .null := by
  rw [Fields.get, Fields.find?_append, find?_compact hnodup, lookup_of_mem hnodup hp, hno, Option.or_none]
  cases hw : isWritten p.2 <;> simp [Option.filter, hw]

theorem get_compact_append_of_not_mem {name : String} (h : name ∉ ps.map Prod.fst) :
    Fields.get (compact ps ++ extra) name = Fields.get extra name := by
  have hnone : Fields.find? (compact ps) name = none := by
    rw [Fields.find?_eq_none_iff]
    intro e he
    rw [compact_eq_named] at he
    obtain ⟨p, hp, rfl⟩ := List.mem_map.mp (List.mem_filter.mp he).1
    rw [isText_ofString, beq_eq_false_iff_ne]
    rintro rfl
    exact h (List.mem_map_of_mem hp)
  rw [Fields.get, Fields.get, Fields.find?_append, hnone, Option.none_or]

theorem keeps_if_isWritten {v w : Value} (h : Keeps lost v w) :
    Keeps lost v (if isWritten w then w else .null) := by
  split
  · exact h
  · rename_i hw
    refine (h.trans (keeps_of_not_isWritten nothing (eq_false_of_ne_true hw) .null)).mono fun path s hl => ?_
    exact hl.elim id False.elim

/-- A mapping keeps what its fields and its other entries keep. -/
theorem keeps_compact {fs : Fields} {mark : Option Mark} (hnodup : (ps.map Prod.fst).Nodup)
    (hno : ∀ p ∈ ps, Fields.find? extra p.1 = none)
    (hps : ∀ p ∈ ps, Keeps (fun path s => lost (.key p.1 :: path) s) (Fields.get fs p.1) p.2)
    (hextra : ∀ name, name ∉ ps.map Prod.fst →
      Keeps (fun path s => lost (.key name :: path) s) (Fields.get fs name) (Fields.get extra name)) :
    Keeps lost (.map fs mark) (.ofFields (compact ps ++ extra)) := by
  refine keeps_map fun name => ?_
  by_cases hname : name ∈ ps.map Prod.fst
  · obtain ⟨p, hp, rfl⟩ := List.mem_map.mp hname
    rw [get_compact_append hnodup hp (hno p hp)]
    exact keeps_if_isWritten (hps p hp)
  · rw [get_compact_append_of_not_mem hname]
    exact hextra name hname

/-- Fields one by one that keep what others hold. -/
def KeepsAll (lost : List Step → Scalar → Prop) : List (String × Value) → List (String × Value) → Prop
  | [], [] => True
  | (name, v) :: ps, (other, w) :: qs =>
    name = other ∧ Keeps (fun path s => lost (.key name :: path) s) v w ∧ KeepsAll lost ps qs
  | _, _ => False

theorem KeepsAll.map_fst :
    ∀ {ps qs : List (String × Value)}, KeepsAll lost ps qs → qs.map Prod.fst = ps.map Prod.fst
  | [], [], _ => rfl
  | (name, v) :: ps, (other, w) :: qs, h => by
    rw [List.map_cons, List.map_cons, KeepsAll.map_fst h.2.2, ← h.1]

theorem KeepsAll.exists_mem : ∀ {ps qs : List (String × Value)}, KeepsAll lost ps qs → ∀ q ∈ qs,
    ∃ p ∈ ps, p.1 = q.1 ∧ Keeps (fun path s => lost (.key q.1 :: path) s) p.2 q.2
  | [], [], _, q, hq => by simp at hq
  | (name, v) :: ps, (other, w) :: qs, h, q, hq => by
    rcases List.mem_cons.mp hq with rfl | hq
    · obtain ⟨rfl, hkeeps, -⟩ := h
      exact ⟨(name, v), List.mem_cons_self, rfl, hkeeps⟩
    · obtain ⟨p, hp, hpq⟩ := KeepsAll.exists_mem h.2.2 q hq
      exact ⟨p, List.mem_cons_of_mem _ hp, hpq⟩

theorem keeps_of_if_isWritten {v w : Value} (h : Keeps lost v w) :
    Keeps lost (if isWritten v then v else .null) w := by
  split
  · exact h
  · exact keeps_null lost rfl w

/-- Written fields that keep what others hold, beside the same other entries. -/
theorem KeepsAll.keeps {qs : List (String × Value)} (h : KeepsAll lost ps qs) (hnodup : (ps.map Prod.fst).Nodup)
    (hno : ∀ p ∈ ps, Fields.find? extra p.1 = none) :
    Keeps lost (.ofFields (compact ps ++ extra)) (.ofFields (compact qs ++ extra)) := by
  have hkeys := h.map_fst
  refine keeps_compact (hkeys ▸ hnodup) (fun q hq => ?_) (fun q hq => ?_) fun name hname => ?_
  · obtain ⟨p, hp, heq, -⟩ := h.exists_mem q hq
    exact heq ▸ hno p hp
  · obtain ⟨p, hp, heq, hkeeps⟩ := h.exists_mem q hq
    rw [← heq, get_compact_append hnodup hp (hno p hp), heq]
    exact keeps_of_if_isWritten hkeeps
  · rw [get_compact_append_of_not_mem (hkeys ▸ hname)]
    exact Keeps.refl _ _

end Model

/-! ## Shapes -/

theorem Layout.keeps_assemble {layout : Layout} {fs : Fields} {mark : Option Mark} {ps : List (String × Value)}
    (hp : layout.proper = true) (ht : Textual (.map fs mark)) (hps : layout.fields fs = some ps)
    (h : ∀ p ∈ ps, Keeps nothing (Fields.get fs p.1) p.2) :
    Keeps nothing (.map fs mark) (assemble layout.names fs ps) := by
  have hnames := map_fst_fields hps
  refine keeps_compact (hnames ▸ nodup_names hp) (fun p hp => ?_) h fun name hname => ?_
  · exact find?_extraOf_of_mem fs (hnames ▸ List.mem_map_of_mem hp)
  · rw [hnames] at hname
    rw [Fields.get_of_find?_map (find?_extraOf fs hname)]
    exact keeps_plain nothing (ht.of_get name)

theorem Model.conserves_keeps : Conserves Textual (Keeps nothing) where
  get name h := h.of_get name
  item h hx := by
    cases h with
    | list hitems => exact hitems _ hx
  plain := keeps_plain nothing
  null h := keeps_null nothing h _
  empty h := keeps_null nothing h _
  list hlength h := by
    refine keeps_list fun i x hx => ?_
    have hlt : i < _ := hlength ▸ (List.getElem?_eq_some_iff.mp hx).1
    have hy := List.getElem?_eq_getElem hlt
    obtain ⟨hkeeps, gs, hgs⟩ := h i x _ hx hy
    exact ⟨_, hy, hkeeps, fun _ => by rw [hgs]; rfl⟩
  assemble := Layout.keeps_assemble

/-- A mapping that is read and written again keeps every scalar. -/
theorem Layout.keeps_write {layout : Layout} (hp : layout.proper = true) {v w : Value} (ht : v.Textual)
    (hf : (Shape.model layout).Fits v) (hw : v.withFields layout.write = some w) : Keeps nothing v w :=
  (conserves_keeps.withFields hp ht hf hw).1

end KubeManifest
