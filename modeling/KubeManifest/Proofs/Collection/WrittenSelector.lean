import KubeManifest.Proofs.Collection.Selector
import KubeManifest.Proofs.Value.Proper

/-!
# Selectors and what is written of them

Two selectors are compared part by part, and a field that is null or empty is not written. So selectors that are
written in one way differ where such a field holds null in one of them and nothing in the other.

* `LabelSelector.SameGaps` : selectors that agree on the fields that neither of them writes;
* `LabelSelector.same_iff` : equality is equality of what is written, and of what is not;
* `Resource.agreedSelector_refused_iff` : of selectors in a row, some are refused if two of them differ;
* `Collection.podSelector_refused_iff` : which selectors are refused, and where what is written decides about it.
-/

namespace KubeManifest

open Model

namespace Value

variable {v w : Value} {fs fs' gs gs' : Fields} {mark mark' : Option Mark}

/-! ## Equal values -/

theorem isWritten_eq_of_same (h : v.same w = true) : Model.isWritten v = Model.isWritten w := by
  cases v with
  | scalar s mark =>
    cases w with
    | scalar t mark' =>
      cases s <;> cases t <;> simp_all [same, Scalar.same, Scalar.whole?, Model.isWritten, isNull, isEmptyCollection]
    | _ => cases h
  | list items mark =>
    cases w with
    | list items' mark' =>
      cases items <;> cases items' <;> first | rfl | cases h
    | _ => cases h
  | map fs mark =>
    cases w with
    | map gs mark' =>
      have hlength := (same_map_iff.mp h).1
      cases fs <;> cases gs <;> first | rfl | cases hlength
    | _ => cases h

theorem same_map_cons {e e' : Value × Value} (he : SameEntry e e')
    (h : (Value.map fs mark).same (.map fs' mark') = true) :
    (Value.map (e :: fs) mark).same (.map (e' :: fs') mark') = true := by
  obtain ⟨hlength, htotal⟩ := same_map_iff.mp h
  rw [same_map_iff, List.length_cons, List.length_cons, hlength]
  refine ⟨rfl, List.forall_mem_cons.mpr ⟨⟨e', List.mem_cons_self, he⟩, fun d hd => ?_⟩⟩
  obtain ⟨d', hd', hsame⟩ := htotal d hd
  exact ⟨d', List.mem_cons_of_mem _ hd', hsame⟩

theorem same_map_append (hfs : (Value.map fs mark).same (.map fs' mark') = true)
    (hgs : (Value.map gs mark).same (.map gs' mark') = true) :
    (Value.map (fs ++ gs) mark).same (.map (fs' ++ gs') mark') = true := by
  obtain ⟨hlength, htotal⟩ := same_map_iff.mp hfs
  obtain ⟨hlength', htotal'⟩ := same_map_iff.mp hgs
  rw [same_map_iff, List.length_append, List.length_append, hlength, hlength']
  refine ⟨rfl, fun e he => ?_⟩
  rcases List.mem_append.mp he with he | he
  · obtain ⟨e', he', hsame⟩ := htotal e he
    exact ⟨e', List.mem_append_left _ he', hsame⟩
  · obtain ⟨e', he', hsame⟩ := htotal' e he
    exact ⟨e', List.mem_append_right _ he', hsame⟩

/-- What follows in equal mappings is equal, if no key of it stands before. -/
theorem same_map_of_append (hlength : fs.length = fs'.length)
    (hapart : ∀ e ∈ gs, ∀ e' ∈ fs', e.1.same e'.1 = false)
    (h : (Value.map (fs ++ gs) mark).same (.map (fs' ++ gs') mark') = true) :
    (Value.map gs mark).same (.map gs' mark') = true := by
  obtain ⟨htotal, hfound⟩ := same_map_iff.mp h
  rw [List.length_append, List.length_append, hlength] at htotal
  refine same_map_iff.mpr ⟨Nat.add_left_cancel htotal, fun e he => ?_⟩
  obtain ⟨e', he', hsame⟩ := hfound e (List.mem_append_right _ he)
  rcases List.mem_append.mp he' with he' | he'
  · rw [SameEntry, hapart e he e' he'] at hsame
    cases hsame.1
  · exact ⟨e', he', hsame⟩

end Value

namespace Model

variable {pairs pairs' : List (String × Value)} {mark : Option Mark}

/-- What is written of equal fields is equal. -/
theorem same_compact (h : List.Forall₂ (fun p p' => p.1 = p'.1 ∧ p.2.same p'.2 = true) pairs pairs') :
    (Value.map (compact pairs) mark).same (.map (compact pairs') mark) = true := by
  rw [compact_eq_named, compact_eq_named]
  induction h with
  | nil => rfl
  | @cons p p' pairs pairs' hp _ ih =>
    obtain ⟨name, v⟩ := p
    obtain ⟨name', v'⟩ := p'
    obtain ⟨rfl, hsame⟩ := hp
    rw [Fields.named_cons, Fields.named_cons, List.filter_cons, List.filter_cons, Value.isWritten_eq_of_same hsame]
    split
    · exact Value.same_map_cons ⟨by simp [Value.same_ofString], hsame⟩ ih
    · exact ih

theorem mem_compact {e : Value × Value} (he : e ∈ compact pairs) : ∃ p ∈ pairs, e = (.ofString p.1, p.2) := by
  obtain ⟨p, hp, rfl⟩ := List.mem_map.mp he
  exact ⟨p, (List.mem_filter.mp hp).1, rfl⟩

theorem pairwise_compact (h : (pairs.map Prod.fst).Nodup) :
    (compact pairs).Pairwise fun e e' => e.1.same e'.1 = false := by
  rw [compact_eq_named]
  refine List.Pairwise.filter _ ?_
  rw [Fields.named, List.pairwise_map]
  exact (List.pairwise_map.mp h).imp fun hne => by simpa [Value.same_ofString] using hne

end Model

/-! ## Selectors -/

/-- Whether two fields are equal if neither of them is written. -/
def Model.SameGap (v w : Value) : Prop :=
  isWritten v = false → isWritten w = false → v.same w = true

namespace LabelSelector

def Proper (s : LabelSelector) : Prop :=
  s.parts.Proper

/-- Selectors that agree on the fields that neither of them writes. -/
structure SameGaps (a b : LabelSelector) : Prop where
  labels : SameGap a.matchLabels b.matchLabels
  expressions : SameGap a.matchExpressions b.matchExpressions

/-- A selector whose fields have their defaults wherever they are not written. -/
structure Defaulted (s : LabelSelector) : Prop where
  labels : isWritten s.matchLabels = false → s.matchLabels = .ofFields []
  expressions : isWritten s.matchExpressions = false → s.matchExpressions = .ofList []

def fields (s : LabelSelector) : List (String × Value) :=
  [("matchExpressions", s.matchExpressions), ("matchLabels", s.matchLabels)]

/-- A selector none of whose other entries has the name of a field. -/
def Apart (s : LabelSelector) : Prop :=
  ∀ name ∈ s.fields.map Prod.fst, Fields.find? s.extra name = none

variable {a b c : LabelSelector}

theorem nodup_fields (s : LabelSelector) : (s.fields.map Prod.fst).Nodup := by
  simp [fields]

theorem toValue_eq (s : LabelSelector) : s.toValue = .map (compact s.fields ++ s.extra) none := rfl

theorem same_iff_parts : a.same b = true ↔ a.matchLabels.same b.matchLabels = true ∧
    a.matchExpressions.same b.matchExpressions = true ∧ (Value.ofFields a.extra).same (.ofFields b.extra) = true := by
  simp [same, parts, Value.ofList, Value.same, Value.sameItems]

theorem Proper.forall (ha : a.Proper) :
    a.matchLabels.Proper ∧ a.matchExpressions.Proper ∧ (Value.ofFields a.extra).Proper := by
  cases ha with
  | list h => simpa using h

theorem same_trans (ha : a.Proper) (hb : b.Proper) (hc : c.Proper) (h : a.same b = true) (h' : b.same c = true) :
    a.same c = true :=
  Value.same_trans ha hb hc h h'

theorem Apart.isText_eq_false (ha : a.Apart) {e e' : Value × Value} (he : e ∈ a.extra) (he' : e' ∈ compact b.fields) :
    ∃ name, e'.1 = .ofString name ∧ e.1.isText name = false := by
  obtain ⟨p, hp, rfl⟩ := mem_compact he'
  have hname : p.1 ∈ b.fields.map Prod.fst := List.mem_map_of_mem hp
  exact ⟨p.1, rfl, Fields.find?_eq_none_iff.mp (ha p.1 hname) e he⟩

theorem Apart.same_left (ha : a.Apart) : ∀ e ∈ a.extra, ∀ e' ∈ compact b.fields, e.1.same e'.1 = false := by
  intro e he e' he'
  obtain ⟨name, hname, hne⟩ := ha.isText_eq_false he he'
  rw [hname, Value.same_ofString, hne]

theorem Apart.same_right (ha : a.Apart) : ∀ e' ∈ compact b.fields, ∀ e ∈ a.extra, e'.1.same e.1 = false := by
  intro e' he' e he
  obtain ⟨name, hname, hne⟩ := ha.isText_eq_false he he'
  rw [Bool.eq_false_iff]
  intro hsame
  rw [← Value.isText_eq_of_same hsame, hname, Value.isText_ofString, beq_self_eq_true] at hne
  cases hne

/-- What is written of a proper selector is a proper mapping. -/
theorem Proper.toValue (hp : a.Proper) (ha : a.Apart) : a.toValue.Proper := by
  obtain ⟨hlabels, hexpressions, hextra⟩ := hp.forall
  have hfields : ∀ p ∈ a.fields, p.2.Proper :=
    List.forall_mem_cons.mpr ⟨hexpressions, List.forall_mem_singleton.mpr hlabels⟩
  rw [toValue_eq]
  cases hextra with
  | map keys values distinct =>
    refine .map (fun e he => ?_) (fun e he => ?_)
      (List.pairwise_append.mpr ⟨pairwise_compact a.nodup_fields, distinct, ha.same_right⟩)
    · rcases List.mem_append.mp he with he | he
      · obtain ⟨p, _, rfl⟩ := mem_compact he
        exact .scalar trivial
      · exact keys e he
    · rcases List.mem_append.mp he with he | he
      · obtain ⟨p, hp, rfl⟩ := mem_compact he
        exact hfields p hp
      · exact values e he

theorem find?_toValue (ha : a.Apart) {name : String} (hname : name ∈ a.fields.map Prod.fst) :
    Fields.find? (compact a.fields ++ a.extra) name = (a.fields.lookup name).filter isWritten := by
  rw [Fields.find?_append, find?_compact a.nodup_fields, ha name hname, Option.or_none]

theorem same_of_written {v w : Value} (hgap : SameGap v w)
    (h : Option.Rel (fun v w => v.same w = true) ((some v).filter isWritten) ((some w).filter isWritten)) :
    v.same w = true := by
  simp only [Option.filter_some] at h
  cases hv : isWritten v <;> cases hw : isWritten w <;> rw [hv, hw] at h
  · exact hgap hv hw
  · cases h
  · cases h
  · cases h with
    | some h => exact h

/-- Selectors are equal if what is written of them is equal, and so is what is not. -/
theorem same_iff (ha : a.Proper) (hb : b.Proper) (hapart : a.Apart) (hapart' : b.Apart) :
    a.same b = true ↔ a.toValue.same b.toValue = true ∧ a.SameGaps b := by
  have hfields : a.matchLabels.same b.matchLabels = true → a.matchExpressions.same b.matchExpressions = true →
      (Value.map (compact a.fields) none).same (.map (compact b.fields) none) = true :=
    fun hlabels hexpressions => same_compact (.cons ⟨rfl, hexpressions⟩ (.cons ⟨rfl, hlabels⟩ .nil))
  rw [same_iff_parts]
  constructor
  · rintro ⟨hlabels, hexpressions, hextra⟩
    exact ⟨Value.same_map_append (hfields hlabels hexpressions) hextra, fun _ _ => hlabels, fun _ _ => hexpressions⟩
  · rintro ⟨hwritten, hgaps⟩
    have hfind : ∀ name ∈ a.fields.map Prod.fst, Option.Rel (fun v w => v.same w = true)
        ((a.fields.lookup name).filter isWritten) ((b.fields.lookup name).filter isWritten) := by
      intro name hname
      rw [← find?_toValue hapart hname, ← find?_toValue hapart' hname]
      exact Value.rel_find? (ha.toValue hapart) (hb.toValue hapart') hwritten name
    have hlabels := same_of_written hgaps.labels (hfind "matchLabels" (by simp [fields]))
    have hexpressions := same_of_written hgaps.expressions (hfind "matchExpressions" (by simp [fields]))
    -- as many fields are written on both sides, so that as many other entries are left
    have hlength := (Value.same_map_iff.mp (hfields hlabels hexpressions)).1
    exact ⟨hlabels, hexpressions, Value.same_map_of_append hlength hapart.same_left hwritten⟩

theorem Defaulted.sameGaps (ha : a.Defaulted) (hb : b.Defaulted) : a.SameGaps b where
  labels hv hw := by
    rw [ha.labels hv, hb.labels hw]
    rfl
  expressions hv hw := by
    rw [ha.expressions hv, hb.expressions hw]
    rfl

end LabelSelector

/-! ## Controllers -/

namespace Resource

variable {rs : List Resource} {first s : LabelSelector}

theorem apart_of_mem_selectors (h : s ∈ selectors rs) : s.Apart := by
  obtain ⟨r, _, hr⟩ := mem_selectors.mp h
  unfold podSelector at hr
  split at hr
  · cases hr
  · rename_i w _
    split at hr
    · rename_i spec _ _
      have hselector := Except.ok.inj hr
      unfold Workload.selectorOf at hselector
      split at hselector
      · rename_i labels mark _
        split at hselector
        · obtain rfl := Option.some.inj hselector
          exact fun name hname => find?_extraOf_of_mem labels hname
        · split at hselector
          · cases hselector
          · obtain rfl := Option.some.inj hselector
            exact fun name _ => rfl
      · cases hselector
    · cases hr

/-- With a selector that was chosen before, some are refused if any two of all these differ. -/
theorem agreedSelector_refused_iff (hrs : ∀ r ∈ rs, r.Specified) (hall : ∀ s ∈ first :: selectors rs, s.Proper) :
    (∃ a b, agreedSelector (some first) rs = .error (.selectorsDiffer a b)) ↔
      ¬(first :: selectors rs).Pairwise fun a b => a.same b = true := by
  induction rs generalizing first with
  | nil => exact iff_of_false nofun (not_not_intro (List.pairwise_singleton _ _))
  | cons r rs ih =>
    obtain ⟨hr, hrs⟩ := List.forall_mem_cons.mp hrs
    obtain ⟨selector, hselector⟩ := hr.exists_podSelector
    cases selector with
    | none =>
      rw [selectors_cons_none hselector] at hall ⊢
      rw [agreedSelector_cons_none hselector]
      exact ih hrs hall
    | some s =>
      rw [selectors_cons_some hselector] at hall ⊢
      obtain ⟨hfirst, hrest⟩ := List.forall_mem_cons.mp hall
      obtain ⟨hs, hproper⟩ := List.forall_mem_cons.mp hrest
      rw [agreedSelector_cons_next hselector]
      split
      · rename_i hsame
        rw [ih hrs hrest, List.pairwise_cons (a := first), not_iff_not]
        refine ⟨fun h => ⟨List.forall_mem_cons.mpr ⟨hsame, fun t ht => ?_⟩, h⟩, And.right⟩
        exact LabelSelector.same_trans hfirst hs (hproper t ht) hsame (List.rel_of_pairwise_cons h ht)
      · rename_i hne
        refine iff_of_true ⟨first, s, rfl⟩ fun h => hne ?_
        exact List.rel_of_pairwise_cons h List.mem_cons_self

theorem agreedSelector_none_refused_iff (hrs : ∀ r ∈ rs, r.Specified) (hall : ∀ s ∈ selectors rs, s.Proper) :
    (∃ a b, agreedSelector none rs = .error (.selectorsDiffer a b)) ↔
      ¬(selectors rs).Pairwise fun a b => a.same b = true := by
  induction rs with
  | nil => exact iff_of_false nofun (not_not_intro .nil)
  | cons r rs ih =>
    obtain ⟨hr, hrs⟩ := List.forall_mem_cons.mp hrs
    obtain ⟨selector, hselector⟩ := hr.exists_podSelector
    cases selector with
    | none =>
      rw [selectors_cons_none hselector] at hall ⊢
      rw [agreedSelector_cons_none hselector]
      exact ih hrs hall
    | some s =>
      rw [selectors_cons_some hselector] at hall ⊢
      rw [agreedSelector_cons_first hselector]
      exact agreedSelector_refused_iff hrs hall

end Resource

namespace Collection

variable {c : Collection}

/-- Selectors are refused if two of them differ in what is written of them, or in what is not. -/
theorem refused_iff (hspec : ∀ r ∈ c.items, r.Specified) (hall : ∀ s ∈ c.selectors, s.Proper) :
    (∃ a b, c.podSelector = .error (.selectorsDiffer a b)) ↔
      ∃ a b, [a, b].Sublist c.selectors ∧ (a.toValue.same b.toValue = false ∨ ¬a.SameGaps b) := by
  rw [podSelector, Resource.agreedSelector_none_refused_iff hspec hall, List.pairwise_iff_forall_sublist]
  simp only [not_forall, exists_prop]
  refine exists_congr fun a => exists_congr fun b => and_congr_right fun hsub => ?_
  have ha : a ∈ c.selectors := hsub.subset (by simp)
  have hb : b ∈ c.selectors := hsub.subset (by simp)
  rw [LabelSelector.same_iff (hall a ha) (hall b hb) (Resource.apart_of_mem_selectors ha)
    (Resource.apart_of_mem_selectors hb), not_and_or, Bool.not_eq_true]

/-- **Selectors that are written in one way are refused only for what is not written.** Some are refused if two of them
are written in different ways, or differ in a field that neither of them writes. Where such fields have their defaults,
what is written decides alone. -/
theorem podSelector_refused_iff (c : Collection) (hspec : ∀ r ∈ c.items, r.Specified)
    (hall : ∀ s ∈ c.selectors, s.Proper) :
    ((∃ a b, c.podSelector = .error (.selectorsDiffer a b)) ↔
      ∃ a b, [a, b].Sublist c.selectors ∧ (a.toValue.same b.toValue = false ∨ ¬a.SameGaps b)) ∧
    ((∀ s ∈ c.selectors, s.Defaulted) →
      ((∃ a b, c.podSelector = .error (.selectorsDiffer a b)) ↔
        ∃ a b, [a, b].Sublist c.selectors ∧ a.toValue.same b.toValue = false)) := by
  refine ⟨refused_iff hspec hall, fun hdefaulted => ?_⟩
  rw [refused_iff hspec hall]
  refine exists_congr fun a => exists_congr fun b => and_congr_right fun hsub => or_iff_left ?_
  have ha : a ∈ c.selectors := hsub.subset (by simp)
  have hb : b ∈ c.selectors := hsub.subset (by simp)
  exact not_not_intro ((hdefaulted a ha).sameGaps (hdefaulted b hb))

/-- Expressions that are null make a selector differ from one that has none, while an empty list of them does not. -/
theorem podSelector_refused_iff_expressions :
    let app : Value × Value := (.ofString "app", .ofString "web")
    let labels : Value × Value := (.ofString "matchLabels", .ofFields [app])
    let expressions (v : Value) : Value × Value := (.ofString "matchExpressions", v)
    let web (selector : Fields) : Resource :=
      { kind := .ofString "Deployment", apiVersion := .ofString "apps/v1", body :=
        [(.ofString "spec", .ofFields [(.ofString "selector", .ofFields selector)])] }
    let c : Collection := ⟨[web [labels, expressions .null], web [labels]]⟩
    let c' : Collection := ⟨[web [labels, expressions (.ofList [])], web [labels]]⟩
    (∀ r ∈ c.items, r.Specified) ∧ (∀ s ∈ c.selectors, s.Proper) ∧
      (∃ a b, c.podSelector = .error (.selectorsDiffer a b)) ∧
      (∀ a ∈ c.selectors, ∀ b ∈ c.selectors, a.toValue.same b.toValue = true) ∧
      (∀ s ∈ c'.selectors, s.Defaulted) ∧ ¬∃ a b, c'.podSelector = .error (.selectorsDiffer a b) := by
  intro app labels expressions web c c'
  let selector (v : Value) : LabelSelector := { matchLabels := .ofFields [app], matchExpressions := v }
  have hspec : ∀ selector selector' : Fields, ∀ r ∈ [web selector, web selector'], r.Specified := fun _ _ =>
    List.forall_mem_cons.mpr ⟨fun _ => .inl rfl, List.forall_mem_singleton.mpr fun _ => .inl rfl⟩
  have hproper : ∀ v : Value, v.Proper → (selector v).Proper := by
    intro v hv
    have hlabels : (Value.ofFields [app]).Proper :=
      .map (List.forall_mem_singleton.mpr (.scalar trivial)) (List.forall_mem_singleton.mpr (.scalar trivial))
        (List.pairwise_singleton _ _)
    exact .list (List.forall_mem_cons.mpr ⟨hlabels, List.forall_mem_cons.mpr ⟨hv,
      List.forall_mem_singleton.mpr (.map nofun nofun .nil)⟩⟩)
  have hselectors : c.selectors = [selector .null, selector (.ofList [])] := rfl
  have hselectors' : c'.selectors = [selector (.ofList []), selector (.ofList [])] := rfl
  have hall : ∀ s ∈ c.selectors, s.Proper := by
    rw [hselectors]
    exact List.forall_mem_cons.mpr ⟨hproper _ (.scalar trivial),
      List.forall_mem_singleton.mpr (hproper _ (.list nofun))⟩
  have hall' : ∀ s ∈ c'.selectors, s.Proper := by
    rw [hselectors']
    exact List.forall_mem_cons.mpr ⟨hproper _ (.list nofun), List.forall_mem_singleton.mpr (hproper _ (.list nofun))⟩
  have hdefaulted : ∀ s ∈ c'.selectors, s.Defaulted := by
    have h : (selector (.ofList [])).Defaulted := ⟨fun h => absurd h (by decide), fun _ => rfl⟩
    rw [hselectors']
    exact List.forall_mem_cons.mpr ⟨h, List.forall_mem_singleton.mpr h⟩
  have hsame : ∀ a ∈ c'.selectors, ∀ b ∈ c'.selectors, a.toValue.same b.toValue = true := by
    rw [hselectors']
    decide
  refine ⟨hspec _ _, hall, ?_, ?_, hdefaulted, ?_⟩
  · refine (podSelector_refused_iff c (hspec _ _) hall).1.mpr ⟨selector .null, selector (.ofList []), ?_, .inr ?_⟩
    · rw [hselectors]
    · exact fun h => absurd (h.expressions rfl rfl) (by decide)
  · rw [hselectors]
    decide
  · rw [(podSelector_refused_iff c' (hspec _ _) hall').2 hdefaulted]
    rintro ⟨a, b, hsub, hne⟩
    rw [hsame a (hsub.subset (by simp)) b (hsub.subset (by simp))] at hne
    cases hne

end Collection

end KubeManifest
