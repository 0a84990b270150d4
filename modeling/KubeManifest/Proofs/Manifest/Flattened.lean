import KubeManifest.Proofs.Collection.Sorted
import KubeManifest.Proofs.Results
import KubeManifest.Proofs.Value.Entries
import Mathlib.Data.List.Forall2

/-!
# Flattened manifests

Templates and lists stand in one another at any depth, and a template may be handed to a processor in between. What is
left are the leaves, in the order of the documents; of the leaves with one kind and name the first one is kept.

* `Manifest.Contains`, `Manifest.Expands` : what stands in place of a template or list, and the leaves of documents;
* `Manifest.flatMap_leaves_iff` : the leaves that are found are these;
* `Manifest.FirstOfEach` : the resources of leaves, each kind and name once;
* `Manifest.load_eq_ok_iff` : the resources of a file are the first of each kind and name among its leaves.
-/

namespace KubeManifest

theorem Text.endsWith_iff {s ending : String} : endsWith s ending = true ↔ ∃ start, s = start ++ ending := by
  rw [endsWith, List.isSuffixOf_iff_suffix]
  constructor
  · rintro ⟨start, h⟩
    refine ⟨String.ofList start, ?_⟩
    rw [← String.toList_inj, String.toList_append, String.toList_ofList, h]
  · rintro ⟨start, rfl⟩
    exact ⟨start.toList, String.toList_append.symm⟩

namespace Manifest

variable {processor : Option Processor} {depth : Nat} {doc : Fields} {docs objects : List Value}
  {inner rest found : List Fields} {rs rs' : List Resource}

/-! ## Leaves -/

def IsTemplate (doc : Fields) : Prop :=
  (Fields.get doc "kind").text? = some "Template"

/-- Whether the kind of a document is that of a list. -/
def IsList (doc : Fields) : Prop :=
  ∃ item, (Fields.get doc "kind").text? = some (item ++ "List")

/-- What stands in place of a template or list. -/
inductive Contains (processor : Option Processor) (doc : Fields) : List Value → Prop
  | processed {process : Processor} {objects : List Value} (h : IsTemplate doc) (hprocessor : processor = some process)
      (hobjects : process doc = .ok objects) : Contains processor doc objects
  | template {objects : List Value} (h : IsTemplate doc) (hprocessor : processor = none)
      (hobjects : objectsOf doc "objects" = .ok objects) : Contains processor doc objects
  | list {objects : List Value} (h : IsList doc) (hobjects : objectsOf doc "items" = .ok objects) :
      Contains processor doc objects

/-- A document that stands for itself. Its kind is a text, or does not count as given. -/
structure IsLeaf (doc : Fields) : Prop where
  notTemplate : ¬IsTemplate doc
  notList : ¬IsList doc
  kind : (Fields.get doc "kind").text?.isSome ∨ (Fields.get doc "kind").isTruthy = false

/-- The leaves of documents in which templates and lists stand in one another at most so deep. -/
inductive Expands (processor : Option Processor) : Nat → List Value → List Fields → Prop
  | nil {depth : Nat} : Expands processor depth [] []
  | leaf {depth : Nat} {doc : Fields} {mark : Option Mark} {docs : List Value} {rest : List Fields} (h : IsLeaf doc)
      (hrest : Expands processor (depth + 1) docs rest) :
      Expands processor (depth + 1) (.map doc mark :: docs) (doc :: rest)
  | node {depth : Nat} {doc : Fields} {mark : Option Mark} {docs objects : List Value} {inner rest : List Fields}
      (h : Contains processor doc objects) (hinner : Expands processor depth objects inner)
      (hrest : Expands processor (depth + 1) docs rest) :
      Expands processor (depth + 1) (.map doc mark :: docs) (inner ++ rest)

theorem not_isList_of_isTemplate (h : IsTemplate doc) : ¬IsList doc := by
  rintro ⟨item, hitem⟩
  have hlist : Text.endsWith "Template" "List" = true :=
    Text.endsWith_iff.mpr ⟨item, Option.some.inj (h.symm.trans hitem)⟩
  revert hlist
  decide

theorem expansion_of_isTemplate (h : IsTemplate doc) : expansion processor doc =
    match processor with
    | some process => some <$> process doc
    | none => some <$> objectsOf doc "objects" := by
  have htemplate : (Fields.get doc "kind").isText "Template" = true := Value.isText_iff.mpr h
  unfold expansion
  cases processor with
  | none => exact if_pos htemplate
  | some process => exact if_pos htemplate

theorem expansion_of_isList (h : IsList doc) : expansion processor doc = some <$> objectsOf doc "items" := by
  have hno : ¬(Fields.get doc "kind").isText "Template" = true := fun ht =>
    not_isList_of_isTemplate (Value.isText_iff.mp ht) h
  obtain ⟨item, hitem⟩ := h
  unfold expansion
  dsimp only
  rw [if_neg hno, hitem]
  dsimp only
  rw [if_pos (Text.endsWith_iff.mpr ⟨item, rfl⟩)]

theorem expansion_of_isLeaf (h : IsLeaf doc) : expansion processor doc = .ok none := by
  have hno : ¬(Fields.get doc "kind").isText "Template" = true := fun ht => h.notTemplate (Value.isText_iff.mp ht)
  unfold expansion
  dsimp only
  rw [if_neg hno]
  cases hkind : (Fields.get doc "kind").text? with
  | none =>
    have hfalsy : ¬(Fields.get doc "kind").isTruthy = true := by
      rcases h.kind with htext | hfalsy
      · simp [hkind] at htext
      · simp [hfalsy]
    dsimp only
    rw [if_neg hfalsy]
  | some kind =>
    have hlist : ¬Text.endsWith kind "List" = true := by
      rw [Text.endsWith_iff]
      rintro ⟨item, rfl⟩
      exact h.notList ⟨item, hkind⟩
    dsimp only
    rw [if_neg hlist]

theorem map_some_eq_some {x : Except Misfit (List Value)} : some <$> x = .ok (some objects) ↔ x = .ok objects := by
  cases x <;> simp [Functor.map, Except.map]

theorem map_some_ne_none {x : Except Misfit (List Value)} : some <$> x ≠ .ok none := by
  cases x <;> simp [Functor.map, Except.map]

/-- A document is a template, a list or a leaf, or has a kind that none of them has. -/
theorem kind_cases (doc : Fields) : IsTemplate doc ∨ IsList doc ∨ IsLeaf doc ∨
    ∀ processor, expansion processor doc = .error .noSuchPart := by
  by_cases htemplate : IsTemplate doc
  · exact .inl htemplate
  by_cases hlist : IsList doc
  · exact .inr (.inl hlist)
  by_cases hkind : (Fields.get doc "kind").text?.isSome ∨ (Fields.get doc "kind").isTruthy = false
  · exact .inr (.inr (.inl ⟨htemplate, hlist, hkind⟩))
  · refine .inr (.inr (.inr fun processor => ?_))
    obtain ⟨htext, htruthy⟩ := not_or.mp hkind
    have htext : (Fields.get doc "kind").text? = none := by simpa using htext
    have hno : ¬(Fields.get doc "kind").isText "Template" = true := fun ht => htemplate (Value.isText_iff.mp ht)
    unfold expansion
    dsimp only
    rw [if_neg hno, htext]
    dsimp only
    rw [if_pos (by simpa using htruthy)]

theorem expansion_eq_none_iff : expansion processor doc = .ok none ↔ IsLeaf doc := by
  refine ⟨fun h => ?_, expansion_of_isLeaf⟩
  rcases kind_cases doc with htemplate | hlist | hleaf | hbad
  · rw [expansion_of_isTemplate htemplate] at h
    split at h <;> exact (map_some_ne_none h).elim
  · rw [expansion_of_isList hlist] at h
    exact (map_some_ne_none h).elim
  · exact hleaf
  · rw [hbad] at h
    cases h

theorem expansion_eq_some_iff : expansion processor doc = .ok (some objects) ↔ Contains processor doc objects := by
  constructor
  · intro h
    rcases kind_cases doc with htemplate | hlist | hleaf | hbad
    · rw [expansion_of_isTemplate htemplate] at h
      split at h
      · exact .processed htemplate rfl (map_some_eq_some.mp h)
      · exact .template htemplate rfl (map_some_eq_some.mp h)
    · rw [expansion_of_isList hlist] at h
      exact .list hlist (map_some_eq_some.mp h)
    · rw [expansion_of_isLeaf hleaf] at h
      cases h
    · rw [hbad] at h
      cases h
  · rintro (⟨h, rfl, hobjects⟩ | ⟨h, rfl, hobjects⟩ | ⟨h, hobjects⟩)
    · rw [expansion_of_isTemplate h]
      exact map_some_eq_some.mpr hobjects
    · rw [expansion_of_isTemplate h]
      exact map_some_eq_some.mpr hobjects
    · rw [expansion_of_isList h]
      exact map_some_eq_some.mpr hobjects

theorem leaves_of_isLeaf {mark : Option Mark} (h : IsLeaf doc) :
    leaves processor (depth + 1) (.map doc mark) = [.ok doc] := by
  rw [leaves, expansion_of_isLeaf h]

theorem leaves_of_expansion {mark : Option Mark} (h : expansion processor doc = .ok (some objects)) :
    leaves processor (depth + 1) (.map doc mark) = objects.flatMap (leaves processor depth) := by
  rw [leaves, h]

/-- Whatever is found in documents without a failure are their leaves. -/
theorem expands_of_flatMap_leaves (h : docs.flatMap (leaves processor depth) = found.map .ok) :
    Expands processor depth docs found := by
  induction depth generalizing docs found with
  | zero =>
    cases docs with
    | nil =>
      obtain rfl : found = [] := by simpa using h.symm
      exact .nil
    | cons doc docs => cases found <;> simp [leaves] at h
  | succ depth ih =>
    induction docs generalizing found with
    | nil =>
      obtain rfl : found = [] := by simpa using h.symm
      exact .nil
    | cons doc docs ihdocs =>
      rw [List.flatMap_cons] at h
      obtain ⟨inner, rest, rfl, hinner, hrest⟩ := List.append_eq_map_iff.mp h
      have hrest := ihdocs hrest.symm
      cases doc with
      | map doc mark =>
        rw [leaves] at hinner
        split at hinner
        · cases inner <;> simp at hinner
        · rename_i hexpansion
          obtain rfl : inner = [doc] := by
            rw [List.map_eq_singleton_iff] at hinner
            obtain ⟨leaf, rfl, hleaf⟩ := hinner
            rw [Except.ok.inj hleaf]
          exact .leaf (expansion_eq_none_iff.mp hexpansion) hrest
        · rename_i objects hexpansion
          exact .node (expansion_eq_some_iff.mp hexpansion) (ih hinner.symm) hrest
      | scalar s mark => cases inner <;> simp [leaves] at hinner
      | list items mark => cases inner <;> simp [leaves] at hinner

theorem Expands.flatMap_leaves (h : Expands processor depth docs found) :
    docs.flatMap (leaves processor depth) = found.map .ok := by
  induction h with
  | nil => rfl
  | leaf hleaf _ ih => rw [List.flatMap_cons, ih, leaves_of_isLeaf hleaf, List.map_cons, List.singleton_append]
  | node hcontains _ _ ihinner ihrest =>
    rw [List.flatMap_cons, ihrest, leaves_of_expansion (expansion_eq_some_iff.mpr hcontains), ihinner, List.map_append]

theorem flatMap_leaves_iff :
    docs.flatMap (leaves processor depth) = found.map .ok ↔ Expands processor depth docs found :=
  ⟨expands_of_flatMap_leaves, Expands.flatMap_leaves⟩

theorem Expands.isLeaf (h : Expands processor depth docs found) : ∀ leaf ∈ found, IsLeaf leaf := by
  induction h with
  | nil => nofun
  | leaf hleaf _ ih => exact List.forall_mem_cons.mpr ⟨hleaf, ih⟩
  | node _ _ _ ihinner ihrest => exact List.forall_mem_append.mpr ⟨ihinner, ihrest⟩

/-! ## Resources -/

/-- The resources of leaves, sorted by kind and name: for each of them that of the first leaf with it. -/
structure FirstOfEach (found : List Fields) (rs : List Resource) : Prop where
  converted : ∀ leaf ∈ found, ∃ r, Resource.ofFields leaf = .ok r
  sorted : (rs.map Resource.sortKey).Pairwise fun a b => toLex a < toLex b
  keys : ∀ key, key ∈ rs.map Resource.sortKey ↔ ∃ leaf ∈ found, ∃ r, Resource.ofFields leaf = .ok r ∧ r.sortKey = key
  first : ∀ r ∈ rs, ∃ before leaf after, found = before ++ leaf :: after ∧ Resource.ofFields leaf = .ok r ∧
    ∀ other ∈ before, ∀ r', Resource.ofFields other = .ok r' → r'.sortKey ≠ r.sortKey

theorem resourceOf_eq_ok_iff {x : Except Failure Fields} {r : Resource} :
    resourceOf x = .ok r ↔ ∃ leaf, x = .ok leaf ∧ Resource.ofFields leaf = .ok r := by
  have hlift : ∀ y : Except Misfit Resource, (liftM y : Except Failure Resource) = .ok r ↔ y = .ok r := by
    intro y
    cases y with
    | error m => exact iff_of_false nofun nofun
    | ok r' => exact ⟨fun h => congrArg _ (Except.ok.inj h), fun h => congrArg _ (Except.ok.inj h)⟩
  rw [resourceOf, bind_eq_ok]
  exact exists_congr fun leaf => and_congr_right fun _ => hlift _

/-- All leaves are found, and there is a resource for each of them. -/
theorem mapM_resourceOf_eq_ok_iff {xs : List (Except Failure Fields)} : xs.mapM resourceOf = .ok rs ↔
    ∃ found : List Fields, xs = found.map .ok ∧ found.mapM Resource.ofFields = .ok rs := by
  constructor
  · intro h
    induction xs generalizing rs with
    | nil =>
      obtain rfl := Except.ok.inj h
      exact ⟨[], rfl, rfl⟩
    | cons x xs ih =>
      obtain ⟨r, rs, hr, hrs, rfl⟩ := mapM_cons_eq_ok.mp h
      obtain ⟨leaf, rfl, hleaf⟩ := resourceOf_eq_ok_iff.mp hr
      obtain ⟨found, rfl, hfound⟩ := ih hrs
      exact ⟨leaf :: found, rfl, mapM_cons_eq_ok.mpr ⟨r, rs, hleaf, hfound, rfl⟩⟩
  · rintro ⟨found, rfl, h⟩
    induction found generalizing rs with
    | nil =>
      obtain rfl := Except.ok.inj h
      rfl
    | cons leaf found ih =>
      obtain ⟨r, rs, hr, hrs, rfl⟩ := mapM_cons_eq_ok.mp h
      exact mapM_cons_eq_ok.mpr ⟨r, rs, resourceOf_eq_ok_iff.mpr ⟨leaf, rfl, hr⟩, ih hrs, rfl⟩

/-- A resource that is kept is that of the first leaf of its kind and name. -/
theorem exists_first_of_mem_firsts (h : found.mapM Resource.ofFields = .ok rs) :
    ∀ r ∈ firsts rs, ∃ before leaf after, found = before ++ leaf :: after ∧ Resource.ofFields leaf = .ok r ∧
      ∀ other ∈ before, ∀ r', Resource.ofFields other = .ok r' → r'.sortKey ≠ r.sortKey := by
  induction found generalizing rs with
  | nil =>
    obtain rfl := Except.ok.inj h
    intro kept hkept
    cases hkept
  | cons leaf found ih =>
    obtain ⟨r, rs, hr, hrs, rfl⟩ := mapM_cons_eq_ok.mp h
    intro kept hkept
    rw [firsts, List.mem_cons, List.mem_filter] at hkept
    rcases hkept with rfl | ⟨hmem, hkey⟩
    · exact ⟨[], leaf, found, rfl, hr, by simp⟩
    · have hkey : r.sortKey ≠ kept.sortKey := Ne.symm (by simpa using hkey)
      obtain ⟨before, first, after, rfl, hfirst, hbefore⟩ := ih hrs kept hmem
      refine ⟨leaf :: before, first, after, rfl, hfirst, List.forall_mem_cons.mpr ⟨fun r' hr' => ?_, hbefore⟩⟩
      rwa [← Except.ok.inj (hr.symm.trans hr')]

/-- The first of each kind and name, sorted. -/
theorem firstOfEach_firsts (h : found.mapM Resource.ofFields = .ok rs) :
    FirstOfEach found ((firsts rs).mergeSort fun a b => Collection.pairLE a.sortKey b.sortKey) := by
  have hperm := List.mergeSort_perm (firsts rs) fun a b => Collection.pairLE a.sortKey b.sortKey
  refine ⟨fun leaf hleaf => ?_, sorted_firsts rs, fun key => ?_, fun r hr => ?_⟩
  · exact exists_mapM_ok_iff.mp ⟨rs, h⟩ leaf hleaf
  · rw [(hperm.map Resource.sortKey).mem_iff, mem_firsts_keys, List.mem_map]
    constructor
    · rintro ⟨r, hr, rfl⟩
      obtain ⟨leaf, hleaf, hread⟩ := mapM_eq_ok_mem h r hr
      exact ⟨leaf, hleaf, r, hread, rfl⟩
    · rintro ⟨leaf, hleaf, r, hread, rfl⟩
      obtain ⟨r', hr', hread'⟩ := exists_mem_of_mapM_eq_ok h leaf hleaf
      exact ⟨r', hr', by rw [Except.ok.inj (hread.symm.trans hread')]⟩
  · exact exists_first_of_mem_firsts h r (hperm.mem_iff.mp hr)

/-- There is one first leaf of a kind and name. -/
theorem first_unique {before after before' after' : List Fields} {leaf leaf' : Fields} {r r' : Resource}
    (heq : before ++ leaf :: after = before' ++ leaf' :: after') (hleaf : Resource.ofFields leaf = .ok r)
    (hleaf' : Resource.ofFields leaf' = .ok r') (hkey : r.sortKey = r'.sortKey)
    (hbefore : ∀ other ∈ before, ∀ s, Resource.ofFields other = .ok s → s.sortKey ≠ r.sortKey)
    (hbefore' : ∀ other ∈ before', ∀ s, Resource.ofFields other = .ok s → s.sortKey ≠ r'.sortKey) : r = r' := by
  rcases List.append_eq_append_iff.mp heq with ⟨mid, rfl, hmid⟩ | ⟨mid, rfl, hmid⟩
  · cases mid with
    | nil =>
      obtain ⟨rfl, -⟩ := List.cons.inj hmid
      exact Except.ok.inj (hleaf.symm.trans hleaf')
    | cons first mid =>
      obtain ⟨rfl, -⟩ := List.cons.inj hmid
      exact absurd hkey (hbefore' leaf (by simp) r hleaf)
  · cases mid with
    | nil =>
      obtain ⟨rfl, -⟩ := List.cons.inj hmid
      exact Except.ok.inj (hleaf.symm.trans hleaf')
    | cons first mid =>
      obtain ⟨rfl, -⟩ := List.cons.inj hmid
      exact absurd hkey.symm (hbefore leaf' (by simp) r' hleaf')

namespace FirstOfEach

theorem mem_of_mem (h : FirstOfEach found rs) (h' : FirstOfEach found rs') {r : Resource} (hr : r ∈ rs) : r ∈ rs' := by
  have hkey : r.sortKey ∈ rs'.map Resource.sortKey := (h'.keys _).mpr ((h.keys _).mp (List.mem_map_of_mem hr))
  obtain ⟨r', hr', hkey⟩ := List.mem_map.mp hkey
  obtain ⟨before, leaf, after, rfl, hleaf, hbefore⟩ := h.first r hr
  obtain ⟨before', leaf', after', heq, hleaf', hbefore'⟩ := h'.first r' hr'
  rwa [first_unique heq hleaf hleaf' hkey.symm hbefore hbefore']

/-- There is one list of resources for some leaves. -/
theorem unique (h : FirstOfEach found rs) (h' : FirstOfEach found rs') : rs = rs' := by
  have hnodup : ∀ {rs}, FirstOfEach found rs → (rs.map Resource.sortKey).Nodup := fun h =>
    h.sorted.imp fun hlt heq => (congrArg toLex heq ▸ hlt).ne rfl
  have hle : ∀ {rs}, FirstOfEach found rs → rs.Pairwise fun a b => Collection.pairLE a.sortKey b.sortKey = true :=
    fun h => (List.pairwise_map.mp h.sorted).imp fun hlt => Collection.pairLE_iff.mpr hlt.le
  have hperm : rs.Perm rs' := by
    rw [List.perm_ext_iff_of_nodup (hnodup h).of_map (hnodup h').of_map]
    exact fun r => ⟨h.mem_of_mem h', h'.mem_of_mem h⟩
  exact Collection.eq_of_perm_of_pairwise hperm (hnodup h) (hle h) (hle h')

theorem iff_exists : FirstOfEach found rs ↔ ∃ all, found.mapM Resource.ofFields = .ok all ∧
    rs = (firsts all).mergeSort fun a b => Collection.pairLE a.sortKey b.sortKey := by
  constructor
  · intro h
    obtain ⟨all, hall⟩ := exists_mapM_ok_iff.mpr h.converted
    exact ⟨all, hall, h.unique (firstOfEach_firsts hall)⟩
  · rintro ⟨all, hall, rfl⟩
    exact firstOfEach_firsts hall

end FirstOfEach

theorem resourcesOf_eq_ok_iff : resourcesOf processor docs = .ok rs ↔
    ∃ found, Expands processor maxDepth docs found ∧ FirstOfEach found rs := by
  rw [resourcesOf, bind_eq_ok]
  simp only [mapM_resourceOf_eq_ok_iff, FirstOfEach.iff_exists, ← flatMap_leaves_iff]
  constructor
  · rintro ⟨all, ⟨found, hfound, hall⟩, h⟩
    exact ⟨found, hfound, all, hall, (Except.ok.inj h).symm⟩
  · rintro ⟨found, hfound, all, hall, rfl⟩
    exact ⟨all, ⟨found, hfound, hall⟩, rfl⟩

/-- **The resources of a file are the first of each kind and name among its leaves, sorted.** The leaves are what is
left when templates and lists are replaced by what they contain, however they stand in one another; they are neither
themselves. -/
theorem load_eq_ok_iff (processor : Option Processor) :
    (∀ docs rs, resourcesOf processor docs = .ok rs ↔ ∃ found, Expands processor maxDepth docs found ∧
      (∀ leaf ∈ found, ¬IsTemplate leaf ∧ ¬IsList leaf) ∧ FirstOfEach found rs) ∧
    ∀ files path rs, load files path processor = .ok rs ↔ ∃ docs found, documentsOf files path = .ok docs ∧
      Expands processor maxDepth docs found ∧ (∀ leaf ∈ found, ¬IsTemplate leaf ∧ ¬IsList leaf) ∧
      FirstOfEach found rs := by
  have hresources : ∀ docs rs, resourcesOf processor docs = .ok rs ↔ ∃ found, Expands processor maxDepth docs found ∧
      (∀ leaf ∈ found, ¬IsTemplate leaf ∧ ¬IsList leaf) ∧ FirstOfEach found rs := by
    intro docs rs
    rw [resourcesOf_eq_ok_iff]
    refine exists_congr fun found => and_congr_right fun h => (and_iff_right fun leaf hleaf => ?_).symm
    exact ⟨(h.isLeaf leaf hleaf).notTemplate, (h.isLeaf leaf hleaf).notList⟩
  refine ⟨hresources, fun files path rs => ?_⟩
  rw [load, bind_eq_ok]
  simp only [hresources, ← exists_and_left]

end Manifest

end KubeManifest
