import KubeManifest.Collection.Selector
import KubeManifest.Proofs.Results
import KubeManifest.Proofs.Value.Same
import Mathlib.Data.Option.Basic

/-!
# The selector that all controllers agree on

Only selectors that follow one another are compared, and the last one is kept. Equality by value is an equivalence, so
all of them are equal where these are, and none of this depends on the order of the resources.

* `Collection.selectors` : the selectors of the controllers;
* `Consensus`, `Resource.consensus_agreedSelector` : what asking for the one selector can come to;
* `SameOutcome`, `Consensus.sameOutcome` : it comes to the same in any order;
* `Collection.podSelector_consensus` : the selectors are refused exactly if two of them differ.
-/

namespace KubeManifest

/-! ## Selectors -/

theorem Value.orElse_eq_map {v : Value} (h : v.isMap ∨ v.isNull) :
    ∃ fs mark, v.orElse (.ofFields []) = .map fs mark := by
  rcases h with hmap | hnull
  · cases v with
    | map fs mark =>
      unfold orElse
      split
      · exact ⟨fs, mark, rfl⟩
      · exact ⟨[], none, rfl⟩
    | _ => cases hmap
  · obtain ⟨mark, rfl⟩ := isNull_iff.mp hnull
    exact ⟨[], none, rfl⟩

namespace LabelSelector

/-- A selector without what is not a number. -/
def Comparable (s : LabelSelector) : Prop :=
  s.parts.Comparable

variable {a b c : LabelSelector}

theorem same_refl (ha : a.Comparable) : a.same a = true :=
  ha.lawful.refl

theorem same_symm (ha : a.Comparable) (hb : b.Comparable) : a.same b = b.same a :=
  ha.lawful.symm _ hb

theorem same_congr (ha : a.Comparable) (hb : b.Comparable) (hc : c.Comparable) (h : a.same b = true) :
    a.same c = b.same c :=
  ha.lawful.congr _ _ hb hc h

end LabelSelector

/-- A resource whose specification is a mapping or null, if it is a controller. -/
def Resource.Specified (r : Resource) : Prop :=
  r.workload?.isSome → (Fields.get r.body "spec").isMap ∨ (Fields.get r.body "spec").isNull

/-- The selectors of the controllers among some resources, as their kinds write them. -/
def Resource.selectors (rs : List Resource) : List LabelSelector :=
  rs.filterMap fun r => r.podSelector.toOption.join

/-- The selectors of the controllers, as their kinds write them. -/
def Collection.selectors (c : Collection) : List LabelSelector :=
  Resource.selectors c.items

namespace Resource

variable {r : Resource} {rs : List Resource} {s : LabelSelector}

theorem mem_selectors : s ∈ selectors rs ↔ ∃ r ∈ rs, r.podSelector = .ok (some s) := by
  simp only [selectors, List.mem_filterMap, Option.join_eq_some_iff, toOption_eq_some]

/-- Asking a resource with such a specification for its selector does not fail. -/
theorem Specified.exists_podSelector (h : r.Specified) : ∃ selector, r.podSelector = .ok selector := by
  unfold podSelector
  split
  · exact ⟨none, rfl⟩
  · rename_i w hw
    have hspec : ∃ fs mark, r.spec = .map fs mark := Value.orElse_eq_map (h (by rw [hw]; rfl))
    obtain ⟨fs, mark, hspec⟩ := hspec
    rw [hspec]
    exact ⟨_, rfl⟩

end Resource

/-! ## What they come to -/

/-- What asking some selectors for the one that all agree on can come to. -/
inductive Consensus (selectors : List LabelSelector) : Except Failure (Option LabelSelector) → Prop
  | empty (h : selectors = []) : Consensus selectors (.ok none)
  | agreed {s : LabelSelector} (hmem : s ∈ selectors) (h : ∀ s' ∈ selectors, s.same s' = true) :
      Consensus selectors (.ok (some s))
  | differ {a b : LabelSelector} (ha : a ∈ selectors) (hb : b ∈ selectors) (h : a.same b = false) :
      Consensus selectors (.error (.selectorsDiffer a b))

/-- Two outcomes of asking for a selector that are both refusals, or equal selectors. -/
inductive SameOutcome : Except Failure (Option LabelSelector) → Except Failure (Option LabelSelector) → Prop
  | differ {a b a' b' : LabelSelector} : SameOutcome (.error (.selectorsDiffer a b)) (.error (.selectorsDiffer a' b'))
  | agreed {chosen chosen' : Option LabelSelector} (h : Option.Rel (fun s s' => s.same s' = true) chosen chosen') :
      SameOutcome (.ok chosen) (.ok chosen')

namespace Consensus

variable {selectors selectors' : List LabelSelector} {outcome outcome' : Except Failure (Option LabelSelector)}
  {first s : LabelSelector}

/-- A selector that is equal to the first one changes nothing. -/
theorem cons_same (hfirst : first.Comparable) (hall : ∀ s' ∈ s :: selectors, s'.Comparable)
    (hsame : first.same s = true) (h : Consensus (s :: selectors) outcome) :
    Consensus (first :: s :: selectors) outcome := by
  have hs : s.Comparable := hall s List.mem_cons_self
  cases h with
  | empty h => cases h
  | agreed hmem h =>
    rename_i t
    have ht : t.Comparable := hall t hmem
    refine .agreed (List.mem_cons_of_mem _ hmem) (List.forall_mem_cons.mpr ⟨?_, h⟩)
    rw [LabelSelector.same_symm ht hfirst, LabelSelector.same_congr hfirst hs ht hsame, ← LabelSelector.same_symm ht hs]
    exact h s List.mem_cons_self
  | differ ha hb h => exact .differ (List.mem_cons_of_mem _ ha) (List.mem_cons_of_mem _ hb) h

/-- Selectors are refused exactly if two of them differ. -/
theorem refused_iff (hall : ∀ s ∈ selectors, s.Comparable) (h : Consensus selectors outcome) :
    (∃ a b, outcome = .error (.selectorsDiffer a b)) ↔ ∃ a ∈ selectors, ∃ b ∈ selectors, a.same b = false := by
  constructor
  · rintro ⟨a, b, rfl⟩
    cases h with
    | differ ha hb h => exact ⟨a, ha, b, hb, h⟩
  · rintro ⟨a, ha, b, hb, hne⟩
    cases h with
    | empty h => simp [h] at ha
    | agreed hmem h =>
      have hsame := LabelSelector.same_congr (hall _ hmem) (hall a ha) (hall b hb) (h a ha)
      rw [h b hb, hne] at hsame
      cases hsame
    | differ _ _ _ => exact ⟨_, _, rfl⟩

theorem exists_chosen (h : Consensus selectors outcome) (hsame : ∀ a ∈ selectors, ∀ b ∈ selectors, a.same b = true) :
    ∃ chosen, outcome = .ok chosen ∧ (chosen = none ↔ selectors = []) ∧
      ∀ s ∈ chosen, ∀ s' ∈ selectors, s.same s' = true := by
  cases h with
  | empty hnil => exact ⟨none, rfl, iff_of_true rfl hnil, nofun⟩
  | agreed hs h =>
    refine ⟨_, rfl, iff_of_false nofun (List.ne_nil_of_mem hs), fun s' hs' => ?_⟩
    rwa [← Option.some.inj hs']
  | differ ha hb hne => exact absurd (hsame _ ha _ hb) (by simp [hne])

/-- It comes to the same in any order. -/
theorem sameOutcome (hall : ∀ s ∈ selectors, s.Comparable) (hmem : ∀ s, s ∈ selectors ↔ s ∈ selectors')
    (h : Consensus selectors outcome) (h' : Consensus selectors' outcome') : SameOutcome outcome outcome' := by
  have hagreed : ∀ {t a b : LabelSelector}, t ∈ selectors → (∀ s' ∈ selectors, t.same s' = true) → a ∈ selectors →
      b ∈ selectors → a.same b ≠ false := by
    intro t a b ht h ha hb hne
    obtain ⟨_, _, h⟩ := (refused_iff hall (.agreed ht h)).mpr ⟨a, ha, b, hb, hne⟩
    cases h
  cases h with
  | empty hnil =>
    have hnil' : selectors' = [] := List.eq_nil_iff_forall_not_mem.mpr fun s hs => by simp [← hmem, hnil] at hs
    cases h' with
    | empty _ => exact .agreed .none
    | agreed hs _ => simp [hnil'] at hs
    | differ ha _ _ => simp [hnil'] at ha
  | agreed hs h =>
    cases h' with
    | empty hnil' => simp [hmem, hnil'] at hs
    | agreed hs' _ => exact .agreed (.some (h _ ((hmem _).mpr hs')))
    | differ ha hb hne => exact (hagreed hs h ((hmem _).mpr ha) ((hmem _).mpr hb) hne).elim
  | differ ha hb hne =>
    cases h' with
    | empty hnil' => simp [hmem, hnil'] at ha
    | agreed hs h => exact (hagreed ((hmem _).mpr hs) (fun s' hs' => h s' ((hmem _).mp hs')) ha hb hne).elim
    | differ _ _ _ => exact .differ

end Consensus

namespace Resource

variable {r : Resource} {rs : List Resource} {s : LabelSelector} {chosen : Option LabelSelector}

theorem agreedSelector_cons_none (h : r.podSelector = .ok none) :
    agreedSelector chosen (r :: rs) = agreedSelector chosen rs := by
  rw [agreedSelector, h]
  cases chosen <;> rfl

theorem agreedSelector_cons_first (h : r.podSelector = .ok (some s)) :
    agreedSelector none (r :: rs) = agreedSelector (some s) rs := by
  rw [agreedSelector, h]
  rfl

theorem agreedSelector_cons_next {first : LabelSelector} (h : r.podSelector = .ok (some s)) :
    agreedSelector (some first) (r :: rs) =
      if first.same s then agreedSelector (some s) rs else .error (.selectorsDiffer first s) := by
  rw [agreedSelector, h]
  rfl

theorem selectors_cons_none (h : r.podSelector = .ok none) : selectors (r :: rs) = selectors rs := by
  simp [selectors, h]

theorem selectors_cons_some (h : r.podSelector = .ok (some s)) : selectors (r :: rs) = s :: selectors rs := by
  simp [selectors, h]

/-- The resources that are left come to a consensus with the selector that was chosen before. -/
theorem consensus_chosen {first : LabelSelector} (hrs : ∀ r ∈ rs, r.Specified)
    (hall : ∀ s ∈ first :: selectors rs, s.Comparable) :
    Consensus (first :: selectors rs) (agreedSelector (some first) rs) := by
  induction rs generalizing first with
  | nil =>
    have hfirst : first.same first = true := LabelSelector.same_refl (hall first List.mem_cons_self)
    exact .agreed List.mem_cons_self fun s' hs' => List.mem_singleton.mp hs' ▸ hfirst
  | cons r rs ih =>
    obtain ⟨hr, hrs⟩ := List.forall_mem_cons.mp hrs
    obtain ⟨selector, hselector⟩ := hr.exists_podSelector
    cases selector with
    | none =>
      rw [selectors_cons_none hselector] at hall ⊢
      rw [agreedSelector_cons_none hselector]
      exact ih hrs hall
    | some s =>
      rw [selectors_cons_some hselector] at hall ⊢
      obtain ⟨hfirst, hrest⟩ := List.forall_mem_cons.mp hall
      rw [agreedSelector_cons_next hselector]
      split
      · rename_i hsame
        exact (ih hrs hrest).cons_same hfirst hrest hsame
      · rename_i hne
        exact .differ (by simp) (by simp) (by simpa using hne)

theorem consensus_agreedSelector (hrs : ∀ r ∈ rs, r.Specified) (hall : ∀ s ∈ selectors rs, s.Comparable) :
    Consensus (selectors rs) (agreedSelector none rs) := by
  induction rs with
  | nil => exact .empty rfl
  | cons r rs ih =>
    obtain ⟨hr, hrs⟩ := List.forall_mem_cons.mp hrs
    obtain ⟨selector, hselector⟩ := hr.exists_podSelector
    cases selector with
    | none =>
      rw [selectors_cons_none hselector] at hall ⊢
      rw [agreedSelector_cons_none hselector]
      exact ih hrs hall
    | some s =>
      rw [selectors_cons_some hselector] at hall ⊢
      rw [agreedSelector_cons_first hselector]
      exact consensus_chosen hrs hall

end Resource

namespace Collection

variable {c : Collection}

theorem consensus_podSelector (hspec : ∀ r ∈ c.items, r.Specified) (hall : ∀ s ∈ c.selectors, s.Comparable) :
    Consensus c.selectors c.podSelector :=
  Resource.consensus_agreedSelector hspec hall

/-- **Whether all controllers agree on a selector does not depend on their order.** The selectors are refused exactly if
two of them differ. Else there is none exactly if no controller has one, and one that is equal to all of them. -/
theorem podSelector_consensus (c : Collection) (hspec : ∀ r ∈ c.items, r.Specified)
    (hall : ∀ s ∈ c.selectors, s.Comparable) :
    ((∃ a b, c.podSelector = .error (.selectorsDiffer a b)) ↔
      ∃ a ∈ c.selectors, ∃ b ∈ c.selectors, a.same b = false) ∧
    ((∀ a ∈ c.selectors, ∀ b ∈ c.selectors, a.same b = true) → ∃ chosen, c.podSelector = .ok chosen ∧
      (chosen = none ↔ c.selectors = []) ∧ ∀ s ∈ chosen, ∀ s' ∈ c.selectors, s.same s' = true) ∧
    ∀ c' : Collection, c'.items.Perm c.items → SameOutcome c.podSelector c'.podSelector := by
  have hconsensus := consensus_podSelector hspec hall
  refine ⟨hconsensus.refused_iff hall, hconsensus.exists_chosen, fun c' hperm => ?_⟩
  · have hmem : ∀ s, s ∈ c.selectors ↔ s ∈ c'.selectors := by
      simp only [selectors, Resource.mem_selectors, hperm.mem_iff, implies_true]
    have hspec' : ∀ r ∈ c'.items, r.Specified := fun r hr => hspec r (hperm.mem_iff.mp hr)
    have hall' : ∀ s ∈ c'.selectors, s.Comparable := fun s hs => hall s ((hmem s).mpr hs)
    exact hconsensus.sameOutcome hall hmem (consensus_podSelector hspec' hall')

/-- Two controllers that write one selector in different ways, with one that has none between them. -/
theorem podSelector_consensus_web :
    let app : Value × Value := (.ofString "app", .ofString "web")
    let tier (s : Scalar) : Value × Value := (.ofString "tier", .scalar s none)
    let web : Resource := { kind := .ofString "Deployment", apiVersion := .ofString "apps/v1", body :=
      [(.ofString "spec", .ofFields [(.ofString "selector",
        .ofFields [(.ofString "matchLabels", .ofFields [app, tier (.int 1 none)])])])] }
    let job : Resource := { kind := .ofString "Job", apiVersion := .ofString "batch/v1" }
    let config : Resource := { kind := .ofString "DeploymentConfig", apiVersion := .ofString "v1", body :=
      [(.ofString "spec", .ofFields [(.ofString "selector",
        .ofFields [tier (.float (Binary64.ofInt 1) none), app])])] }
    let c : Collection := ⟨[web, job, config]⟩
    let c' : Collection := ⟨[config, web, job]⟩
    (∀ r ∈ c.items, r.Specified) ∧ (∀ s ∈ c.selectors, s.Comparable) ∧
      (¬∃ a b, c.podSelector = .error (.selectorsDiffer a b)) ∧
      (∃ s, c.podSelector = .ok (some s) ∧ ∀ s' ∈ c.selectors, s.same s' = true) ∧
      SameOutcome c.podSelector c'.podSelector := by
  intro app tier web job config c c'
  have hspec : ∀ r ∈ c.items, r.Specified :=
    List.forall_mem_cons.mpr ⟨fun _ => .inl rfl, List.forall_mem_cons.mpr ⟨fun _ => .inr rfl,
      List.forall_mem_singleton.mpr fun _ => .inl rfl⟩⟩
  have happ : Value.ComparableEntry app := ⟨.scalar trivial, .scalar trivial⟩
  have htier : ∀ s : Scalar, s.Comparable → Value.ComparableEntry (tier s) := fun s hs => ⟨.scalar trivial, .scalar hs⟩
  have hlabels : ∀ e e' : Value × Value, Value.ComparableEntry e → Value.ComparableEntry e' → e.1.same e'.1 = false →
      LabelSelector.Comparable { matchLabels := .ofFields [e, e'] } := by
    intro e e' he he' hne
    have hmap : (Value.ofFields [e, e']).Comparable :=
      .map (List.forall_mem_cons.mpr ⟨he.1, List.forall_mem_singleton.mpr he'.1⟩)
        (List.forall_mem_cons.mpr ⟨he.2, List.forall_mem_singleton.mpr he'.2⟩) (List.pairwise_pair.mpr hne)
    refine .list (List.forall_mem_cons.mpr ⟨hmap, List.forall_mem_cons.mpr ⟨.list nofun, ?_⟩⟩)
    exact List.forall_mem_singleton.mpr (.map nofun nofun .nil)
  have hselectors : c.selectors = [{ matchLabels := .ofFields [app, tier (.int 1 none)] },
      { matchLabels := .ofFields [tier (.float (Binary64.ofInt 1) none), app] }] := rfl
  have hall : ∀ s ∈ c.selectors, s.Comparable := by
    rw [hselectors]
    have hint : Scalar.Comparable (.int 1 none) := trivial
    have hfloat : Scalar.Comparable (.float (Binary64.ofInt 1) none) := Binary64.canonical_ofInt 1
    exact List.forall_mem_cons.mpr ⟨hlabels _ _ happ (htier _ hint) rfl,
      List.forall_mem_singleton.mpr (hlabels _ _ (htier _ hfloat) happ rfl)⟩
  have hagree : ∀ a ∈ c.selectors, ∀ b ∈ c.selectors, a.same b = true := by
    rw [hselectors]
    decide
  obtain ⟨hrefused, hchosen, hperm⟩ := podSelector_consensus c hspec hall
  obtain ⟨chosen, hok, hnone, hsame⟩ := hchosen hagree
  have hmoved : ([config] ++ [web, job]).Perm ([web, job] ++ [config]) := List.perm_append_comm
  refine ⟨hspec, hall, fun h => ?_, ?_, hperm c' hmoved⟩
  · obtain ⟨a, ha, b, hb, hne⟩ := hrefused.mp h
    simp [hagree a ha b hb] at hne
  · cases chosen with
    | none => simp [hselectors] at hnone
    | some s => exact ⟨s, hok, hsame s rfl⟩

end Collection

end KubeManifest
