import KubeManifest.Kind.Table
import KubeManifest.Proofs.Text.Case
import Mathlib.Data.Finset.Card
import Mathlib.Data.List.Sort

/-!
# Tables of kinds work both ways

A table is entered mapping by mapping. For a token the last mention counts and for a kind the first one. Where no token
is listed with two kinds, the two directions agree nevertheless.

* `FirstMentions`, `firstMentions_iff` : the members of a list, each once, in the order of their first mention;
* `KindTable.add`, `KindTable.add_induction` : one more mapping, from which all tables come about;
* `KindTable.kindFor?_add`, `KindTable.tokenFor?_add` : what one more mapping changes;
* `KindTable.Consistent.kindFor?_iff`, `KindTable.exists_standsFor` : the look-ups in whole tables;
* `KindTable.twoWay` : the two directions agree.
-/

namespace KubeManifest

/-! ## The order of first mention -/

section

variable {α : Type} [DecidableEq α] {all once once' : List α} {x : α}

/-- The members of a list, each once, in the order in which the list first mentions them. -/
structure FirstMentions (all once : List α) : Prop where
  mem_iff : ∀ x, x ∈ once ↔ x ∈ all
  inOrder : once.Pairwise fun x y => all.idxOf x < all.idxOf y

namespace FirstMentions

theorem nodup (h : FirstMentions all once) : once.Nodup := by
  refine h.inOrder.imp fun hlt heq => ?_
  rw [heq] at hlt
  exact Nat.lt_irrefl _ hlt

theorem inOrder_append (h : FirstMentions all once) (rest : List α) :
    once.Pairwise fun x y => (all ++ rest).idxOf x < (all ++ rest).idxOf y := by
  refine h.inOrder.imp_of_mem fun hx hy hlt => ?_
  rwa [List.idxOf_append_of_mem ((h.mem_iff _).mp hx), List.idxOf_append_of_mem ((h.mem_iff _).mp hy)]

/-- A member that is mentioned again changes nothing. -/
theorem again (h : FirstMentions all once) (hx : x ∈ all) : FirstMentions (all ++ [x]) once where
  mem_iff y := by
    rw [h.mem_iff, List.mem_append, List.mem_singleton]
    exact ⟨.inl, fun hy => hy.elim id fun heq => heq ▸ hx⟩
  inOrder := h.inOrder_append [x]

/-- A new member comes last. -/
theorem fresh (h : FirstMentions all once) (hx : x ∉ all) : FirstMentions (all ++ [x]) (once ++ [x]) where
  mem_iff y := by rw [List.mem_append, List.mem_append, h.mem_iff]
  inOrder := by
    refine List.pairwise_append.mpr ⟨h.inOrder_append [x], List.pairwise_singleton _ _, fun y hy z hz => ?_⟩
    obtain rfl := List.mem_singleton.mp hz
    have hmem : y ∈ all := (h.mem_iff y).mp hy
    rw [List.idxOf_append_of_mem hmem, List.idxOf_append_of_notMem hx]
    exact Nat.lt_add_right _ (List.idxOf_lt_length_of_mem hmem)

theorem unique (h : FirstMentions all once) (h' : FirstMentions all once') : once = once' := by
  let before : α → α → Prop := fun x y => all.idxOf x < all.idxOf y
  have : Std.Irrefl before := ⟨fun _ => Nat.lt_irrefl _⟩
  have : Std.Antisymm before := ⟨fun _ _ hlt hgt => absurd hgt (Nat.lt_asymm hlt)⟩
  exact List.Pairwise.eq_of_mem_iff (r := before) h.inOrder h'.inOrder fun x => (h.mem_iff x).trans (h'.mem_iff x).symm

theorem length_eq (h : FirstMentions all once) : once.length = all.toFinset.card := by
  have hset : once.toFinset = all.toFinset := by
    ext x
    rw [List.mem_toFinset, List.mem_toFinset, h.mem_iff]
  rw [← hset, List.toFinset_card_of_nodup h.nodup]

end FirstMentions

theorem eraseDups_concat (all : List α) (x : α) :
    (all ++ [x]).eraseDups = if x ∈ all then all.eraseDups else all.eraseDups ++ [x] := by
  rw [List.eraseDups_append]
  by_cases hx : x ∈ all
  · simp [List.removeAll, hx]
  · simp [List.removeAll, hx, List.eraseDups_cons]

theorem firstMentions_eraseDups (all : List α) : FirstMentions all all.eraseDups := by
  induction all using List.reverseRecOn with
  | nil => exact ⟨fun _ => .rfl, .nil⟩
  | append_singleton all x ih =>
    rw [eraseDups_concat]
    split
    · exact ih.again ‹_›
    · exact ih.fresh ‹_›

/-- The first mentions are there, and there is one list of them only. -/
theorem firstMentions_iff : FirstMentions all once ↔ all.eraseDups = once :=
  ⟨(firstMentions_eraseDups all).unique, fun h => h ▸ firstMentions_eraseDups all⟩

end

namespace KindTable

variable {t : KindTable} {token kind other : String}

/-! ## One more mapping -/

def add (t : KindTable) (token kind : String) : KindTable :=
  ⟨t.mappings ++ [(token, kind)]⟩

/-- Every table comes about by adding its mappings in turn. -/
theorem add_induction {P : KindTable → Prop} (empty : P ⟨[]⟩)
    (add : ∀ t token kind, P t → P (t.add token kind)) (t : KindTable) : P t := by
  obtain ⟨mappings⟩ := t
  induction mappings using List.reverseRecOn with
  | nil => exact empty
  | append_singleton mappings m ih => exact add ⟨mappings⟩ m.1 m.2 ih

theorem mem_mappings_add {m : String × String} :
    m ∈ (t.add token kind).mappings ↔ m ∈ t.mappings ∨ m = (token, kind) := by
  rw [add, List.mem_append, List.mem_singleton]

/-- A new mapping of a token hides the earlier ones. -/
theorem kindFor?_add (hne : other ≠ "") : (t.add token kind).kindFor? other =
    if Text.lower token = Text.lower other then some kind else t.kindFor? other := by
  have hbeq : ¬(other == "") = true := by simpa using hne
  rw [kindFor?, kindFor?, if_neg hbeq, if_neg hbeq, add, List.reverse_append, List.reverse_singleton,
    List.singleton_append]
  split
  · rw [List.find?_cons_of_pos (by simpa), Option.map_some]
  · rw [List.find?_cons_of_neg (by simpa)]

/-- A new mapping of a kind counts if there is no earlier one. -/
theorem tokenFor?_add (hne : other ≠ "") : (t.add token kind).tokenFor? other =
    (t.tokenFor? other).or (if kind = other then some (Text.lower token) else none) := by
  have hbeq : ¬(other == "") = true := by simpa using hne
  rw [tokenFor?, tokenFor?, if_neg hbeq, if_neg hbeq, add, List.find?_append, List.find?_singleton, Option.map_or]
  by_cases h : kind = other
  · rw [if_pos (beq_iff_eq.mpr h), if_pos h, Option.map_some]
  · rw [if_neg (by simpa using h), if_neg h, Option.map_none]

/-! ## Kinds of tokens -/

/-- Tables of tokens and kinds that are not empty. No token is listed with two kinds, whatever its case. -/
structure Consistent (t : KindTable) : Prop where
  kind_ne : ∀ m ∈ t.mappings, m.2 ≠ ""
  token_ne : ∀ m ∈ t.mappings, m.1 ≠ ""
  agree : ∀ m ∈ t.mappings, ∀ m' ∈ t.mappings, Text.lower m.1 = Text.lower m'.1 → m.2 = m'.2

namespace Consistent

theorem of_add (h : (t.add token kind).Consistent) : t.Consistent where
  kind_ne m hm := h.kind_ne m (mem_mappings_add.mpr (.inl hm))
  token_ne m hm := h.token_ne m (mem_mappings_add.mpr (.inl hm))
  agree m hm m' hm' := h.agree m (mem_mappings_add.mpr (.inl hm)) m' (mem_mappings_add.mpr (.inl hm'))

theorem kind_ne_of_mem (h : t.Consistent) (hkind : kind ∈ t.mappings.map Prod.snd) : kind ≠ "" := by
  obtain ⟨m, hm, rfl⟩ := List.mem_map.mp hkind
  exact h.kind_ne m hm

/-- A token names the kind of any of its mentions, in any case. -/
theorem kindFor?_iff (h : t.Consistent) :
    t.kindFor? token = some kind ↔ ∃ m ∈ t.mappings, m.2 = kind ∧ Text.lower m.1 = Text.lower token := by
  by_cases hne : token = ""
  · subst hne
    refine ⟨nofun, fun ⟨m, hm, _, heq⟩ => ?_⟩
    exact absurd heq (Text.lower_ne_empty (h.token_ne m hm))
  · induction t using add_induction with
    | empty => simp [kindFor?, hne]
    | add t last lastKind ih =>
      rw [kindFor?_add hne]
      by_cases hlast : Text.lower last = Text.lower token
      · -- The new mapping hides the mentions before it, which agree with it.
        have hmem : (last, lastKind) ∈ (t.add last lastKind).mappings := mem_mappings_add.mpr (.inr rfl)
        rw [if_pos hlast, Option.some_inj]
        constructor
        · rintro rfl
          exact ⟨_, hmem, rfl, hlast⟩
        · rintro ⟨m, hm, rfl, heq⟩
          exact h.agree _ hmem m hm (hlast.trans heq.symm)
      · rw [if_neg hlast, ih h.of_add]
        simp only [mem_mappings_add, or_and_right, exists_or, exists_eq_left, hlast, and_false, or_false]

/-- The tokens of a table in lower case are those that name a kind. -/
theorem contains_iff (h : t.Consistent) : t.contains token = true ↔ Text.lower token ∈ t.tokens := by
  simp only [contains, Option.isSome_iff_exists, h.kindFor?_iff, tokens, List.mem_eraseDups, List.mem_map]
  constructor
  · rintro ⟨_, m, hm, -, heq⟩
    exact ⟨m, hm, heq⟩
  · rintro ⟨m, hm, heq⟩
    exact ⟨m.2, m, hm, rfl, heq⟩

end Consistent

/-! ## Tokens of kinds -/

/-- A token stands for a kind if their mapping is the first one of the kind. -/
def StandsFor (t : KindTable) (token kind : String) : Prop :=
  ∃ before after, t.mappings = before ++ (token, kind) :: after ∧ ∀ m ∈ before, m.2 ≠ kind

theorem StandsFor.mem (h : t.StandsFor token kind) : (token, kind) ∈ t.mappings := by
  obtain ⟨before, after, hsplit, -⟩ := h
  rw [hsplit]
  exact List.mem_append_right _ List.mem_cons_self

theorem StandsFor.add (h : t.StandsFor token kind) (other otherKind : String) :
    (t.add other otherKind).StandsFor token kind := by
  obtain ⟨before, after, hsplit, hbefore⟩ := h
  exact ⟨before, after ++ [(other, otherKind)], by simp [KindTable.add, hsplit], hbefore⟩

theorem tokenFor?_eq_none (h : kind ∉ t.mappings.map Prod.snd) : t.tokenFor? kind = none := by
  have hfind : t.mappings.find? (fun m => m.2 == kind) = none := by
    rw [List.find?_eq_none]
    intro m hm heq
    exact h (beq_iff_eq.mp heq ▸ List.mem_map_of_mem hm)
  rw [tokenFor?, hfind, Option.map_none, ite_self]

/-- A kind that is listed is given the token that stands for it, in lower case. -/
theorem exists_standsFor (hne : kind ≠ "") (hkind : kind ∈ t.mappings.map Prod.snd) :
    ∃ token, t.StandsFor token kind ∧ t.tokenFor? kind = some (Text.lower token) := by
  induction t using add_induction with
  | empty => cases hkind
  | add t last lastKind ih =>
    rw [tokenFor?_add hne]
    by_cases hmem : kind ∈ t.mappings.map Prod.snd
    · obtain ⟨token, hstands, htoken⟩ := ih hmem
      exact ⟨token, hstands.add last lastKind, by rw [htoken, Option.some_or]⟩
    · have heq : lastKind = kind := by
        rw [add, List.map_append, List.mem_append] at hkind
        exact (List.mem_singleton.mp (hkind.resolve_left hmem)).symm
      subst heq
      refine ⟨last, ⟨t.mappings, [], rfl, fun m hm hm' => hmem (hm' ▸ List.mem_map_of_mem hm)⟩, ?_⟩
      rw [tokenFor?_eq_none hmem, Option.none_or, if_pos rfl]

/-! ## Both ways -/

/-- **A consistent table of kinds works both ways.** A kind is given the first token that it is listed with, in lower
case, and this token leads back to the kind. A token names a kind exactly if they are listed together, whatever the case
of the token, and it is in the table exactly if it names one. The tokens in lower case and the kinds are given once
each, in the order of their first mention, and the size of the table is the number of its tokens. -/
theorem twoWay (h : t.Consistent) :
    (∀ kind ∈ t.mappings.map Prod.snd, ∃ token, t.StandsFor token kind ∧
      t.tokenFor? kind = some (Text.lower token) ∧ (t.tokenFor? kind).bind t.kindFor? = some kind) ∧
    (∀ token kind, t.kindFor? token = some kind ↔
      ∃ m ∈ t.mappings, m.2 = kind ∧ Text.lower m.1 = Text.lower token) ∧
    (∀ token, (t.contains token = true ↔ t.kindFor? token ≠ none) ∧
      (t.contains token = true ↔ Text.lower token ∈ t.tokens)) ∧
    (∀ tokens, FirstMentions (t.mappings.map fun m => Text.lower m.1) tokens ↔ t.tokens = tokens) ∧
    (∀ kinds, FirstMentions (t.mappings.map Prod.snd) kinds ↔ t.kinds = kinds) ∧
    t.size = (t.mappings.map fun m => Text.lower m.1).toFinset.card := by
  refine ⟨fun kind hkind => ?_, fun _ _ => h.kindFor?_iff, fun token => ⟨Option.isSome_iff_ne_none, h.contains_iff⟩,
    fun _ => firstMentions_iff, fun _ => firstMentions_iff, (firstMentions_eraseDups _).length_eq⟩
  obtain ⟨token, hstands, htoken⟩ := exists_standsFor (h.kind_ne_of_mem hkind) hkind
  have hback : t.kindFor? (Text.lower token) = some kind :=
    h.kindFor?_iff.mpr ⟨_, hstands.mem, rfl, (Text.lower_lower token).symm⟩
  exact ⟨token, hstands, htoken, by rw [htoken, Option.bind_some, hback]⟩

/-- A kind with two tokens, one of which is listed again in another case. -/
theorem twoWay_repeated :
    let t : KindTable := ⟨[("Svc", "Service"), ("service", "Service"), ("cm", "ConfigMap"), ("SVC", "Service")]⟩
    t.Consistent ∧ "Service" ∈ t.mappings.map Prod.snd ∧
      (∃ token, t.StandsFor token "Service" ∧ t.tokenFor? "Service" = some (Text.lower token) ∧
        (t.tokenFor? "Service").bind t.kindFor? = some "Service") ∧
      t.kindFor? "sVc" = some "Service" ∧ t.contains "sVc" = true ∧ Text.lower "sVc" ∈ t.tokens ∧
      FirstMentions ["svc", "service", "cm", "svc"] t.tokens ∧ t.tokens = ["svc", "service", "cm"] ∧
      FirstMentions ["Service", "Service", "ConfigMap", "Service"] t.kinds ∧ t.kinds = ["Service", "ConfigMap"] ∧
      t.size = 3 := by
  intro t
  have ht : t.Consistent := ⟨by decide +kernel, by decide +kernel, by decide +kernel⟩
  have hkind : "Service" ∈ t.mappings.map Prod.snd := by decide +kernel
  have hlower : (t.mappings.map fun m => Text.lower m.1) = ["svc", "service", "cm", "svc"] := by decide +kernel
  obtain ⟨hkinds, hnames, hcontains, htokens, hlisted, hsize⟩ := twoWay ht
  rw [hlower] at htokens hsize
  have hnamed : t.kindFor? "sVc" = some "Service" :=
    (hnames _ _).mpr ⟨("SVC", "Service"), by decide +kernel, rfl, by decide +kernel⟩
  have hmem : t.contains "sVc" = true := (hcontains _).1.mpr (by rw [hnamed]; nofun)
  exact ⟨ht, hkind, hkinds _ hkind, hnamed, hmem, (hcontains _).2.mp hmem, (htokens _).mpr rfl, by decide +kernel,
    (hlisted _).mpr rfl, by decide +kernel, hsize⟩

end KindTable

end KubeManifest
