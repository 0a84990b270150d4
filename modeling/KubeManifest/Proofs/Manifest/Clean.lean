import KubeManifest.Proofs.Value.Order
import KubeManifest.Proofs.Value.Paths

/-!
# Clean manifests

A manifest is what remains of some entries, the best known names first. Two relations say so without the functions
that make it: `Value.RemainEntries` takes away what vanishes and nothing else, and `Manifest.Arrangement` moves entries
by the rank of their keys and leaves those of one rank in their order.

* `Value.Clean` : values without nulls and empty lists;
* `Value.remainEntries_iff` : pruning takes away what vanishes, and nothing else;
* `Manifest.arrangement_iff` : there is one arrangement of some entries;
* `Value.prune_eq_unmarked`, `Manifest.order_eq_self` : what is clean and in order stays as it is;
* `Manifest.arrange_characterized` : what a manifest is, and which entries are one already.
-/

namespace KubeManifest

/-! ## Values -/

namespace Value

/-- A value other than null in which no null stands and no empty list. -/
inductive Clean : Value → Prop
  | scalar {s : Scalar} {mark : Option Mark} (h : s ≠ .null) : Clean (.scalar s mark)
  | list {items : List Value} {mark : Option Mark} (hne : items ≠ []) (h : ∀ x ∈ items, Clean x) :
      Clean (.list items mark)
  | map {fs : Fields} {mark : Option Mark} (h : ∀ e ∈ fs, Clean e.2) : Clean (.map fs mark)

mutual

/-- What remains of a value: a scalar as it is, a list of what remains of its items if anything does, and a mapping in
any case. -/
inductive Remains : Value → Value → Prop
  | scalar {s : Scalar} {mark : Option Mark} (h : s ≠ .null) : Remains (.scalar s mark) (.scalar s mark)
  | list {items kept : List Value} {mark : Option Mark} (hne : kept ≠ []) (h : RemainItems items kept) :
      Remains (.list items mark) (.ofList kept)
  | map {fs kept : List (Value × Value)} {mark : Option Mark} (h : RemainEntries fs kept) :
      Remains (.map fs mark) (.ofFields kept)

inductive RemainItems : List Value → List Value → Prop
  | nil : RemainItems [] []
  | drop {x : Value} {xs ys : List Value} (h : x.survives = false) (rest : RemainItems xs ys) :
      RemainItems (x :: xs) ys
  | keep {x y : Value} {xs ys : List Value} (h : Remains x y) (rest : RemainItems xs ys) :
      RemainItems (x :: xs) (y :: ys)

/-- What remains of the entries of a mapping, in their order and under their keys. -/
inductive RemainEntries : List (Value × Value) → List (Value × Value) → Prop
  | nil : RemainEntries [] []
  | drop {k v : Value} {fs gs : List (Value × Value)} (h : v.survives = false) (rest : RemainEntries fs gs) :
      RemainEntries ((k, v) :: fs) gs
  | keep {k v w : Value} {fs gs : List (Value × Value)} (h : Remains v w) (rest : RemainEntries fs gs) :
      RemainEntries ((k, v) :: fs) ((k, w) :: gs)

end

mutual

/-- A value whose lists and mappings were not read from a document. -/
def unmarked : Value → Value
  | scalar s mark => scalar s mark
  | list items _ => ofList (unmarkedItems items)
  | map fs _ => ofFields (unmarkedEntries fs)

/-- Items whose lists and mappings were not read from a document. -/
def unmarkedItems : List Value → List Value
  | [] => []
  | x :: xs => unmarked x :: unmarkedItems xs

/-- Entries whose lists and mappings were not read from a document. -/
def unmarkedEntries : List (Value × Value) → List (Value × Value)
  | [] => []
  | (k, v) :: fs => (k, unmarked v) :: unmarkedEntries fs

end

variable {v w : Value} {xs ys : List Value} {fs gs : Fields}

/-! ### Pruning -/

theorem pruneItems_cons_of_survives {x : Value} (h : x.survives = true) :
    pruneItems (x :: xs) = x.prune :: pruneItems xs := by
  rw [pruneItems, isNull_prune, h]
  rfl

theorem pruneItems_cons_of_not_survives {x : Value} (h : x.survives = false) :
    pruneItems (x :: xs) = pruneItems xs := by
  rw [pruneItems, isNull_prune, h]
  rfl

theorem pruneEntries_cons_of_survives {k : Value} (h : v.survives = true) :
    pruneEntries ((k, v) :: fs) = (k, v.prune) :: pruneEntries fs := by
  rw [pruneEntries, isNull_prune, h]
  rfl

theorem pruneEntries_cons_of_not_survives {k : Value} (h : v.survives = false) :
    pruneEntries ((k, v) :: fs) = pruneEntries fs := by
  rw [pruneEntries, isNull_prune, h]
  rfl

theorem remainItems_pruneItems (h : ∀ x ∈ xs, x.survives = true → Remains x x.prune) :
    RemainItems xs (pruneItems xs) := by
  induction xs with
  | nil => exact .nil
  | cons x xs ih =>
    obtain ⟨hx, hxs⟩ := List.forall_mem_cons.mp h
    cases hs : x.survives with
    | true =>
      rw [pruneItems_cons_of_survives hs]
      exact .keep (hx hs) (ih hxs)
    | false =>
      rw [pruneItems_cons_of_not_survives hs]
      exact .drop hs (ih hxs)

theorem remainEntries_pruneEntries_of (h : ∀ e ∈ fs, e.2.survives = true → Remains e.2 e.2.prune) :
    RemainEntries fs (pruneEntries fs) := by
  induction fs with
  | nil => exact .nil
  | cons e fs ih =>
    obtain ⟨k, v⟩ := e
    obtain ⟨hv, hfs⟩ := List.forall_mem_cons.mp h
    cases hs : v.survives with
    | true =>
      rw [pruneEntries_cons_of_survives hs]
      exact .keep (hv hs) (ih hfs)
    | false =>
      rw [pruneEntries_cons_of_not_survives hs]
      exact .drop hs (ih hfs)

theorem survives_list_iff {mark : Option Mark} : survives (.list xs mark) = true ↔ pruneItems xs ≠ [] := by
  have hnull := isNull_prune (.list xs mark)
  rw [prune] at hnull
  split at hnull <;> rename_i h
  · exact iff_of_false (by simpa using hnull.symm) (by simpa using h)
  · exact iff_of_true (by simpa using hnull.symm) (by simpa using h)

theorem prune_list {mark : Option Mark} (h : pruneItems xs ≠ []) :
    prune (.list xs mark) = .ofList (pruneItems xs) := by
  rw [prune, if_neg (by simpa using h)]

theorem remains_prune (h : v.survives = true) : Remains v v.prune := by
  induction v using induct with
  | scalar s mark => exact .scalar (by simpa [survives] using h)
  | list items mark ih =>
    have hne := survives_list_iff.mp h
    rw [prune_list hne]
    exact .list hne (remainItems_pruneItems ih)
  | map fs mark ih => exact .map (remainEntries_pruneEntries_of ih)

mutual

theorem Remains.prune_eq : ∀ {v w : Value}, Remains v w → v.survives = true ∧ v.prune = w
  | _, _, .scalar h => ⟨by simpa [survives] using h, rfl⟩
  | _, _, .list hne h => by
    obtain rfl := h.pruneItems_eq
    exact ⟨survives_list_iff.mpr hne, prune_list hne⟩
  | _, _, .map h => ⟨rfl, by rw [prune, h.pruneEntries_eq]⟩

theorem RemainItems.pruneItems_eq : ∀ {xs ys : List Value}, RemainItems xs ys → pruneItems xs = ys
  | _, _, .nil => rfl
  | _, _, .drop h rest => by rw [pruneItems_cons_of_not_survives h, rest.pruneItems_eq]
  | _, _, .keep h rest => by rw [pruneItems_cons_of_survives h.prune_eq.1, h.prune_eq.2, rest.pruneItems_eq]

theorem RemainEntries.pruneEntries_eq : ∀ {fs gs : List (Value × Value)}, RemainEntries fs gs →
    pruneEntries fs = gs
  | _, _, .nil => rfl
  | _, _, .drop h rest => by rw [pruneEntries_cons_of_not_survives h, rest.pruneEntries_eq]
  | _, _, .keep h rest => by rw [pruneEntries_cons_of_survives h.prune_eq.1, h.prune_eq.2, rest.pruneEntries_eq]

end

/-- Pruning leaves what remains of some entries. -/
theorem remainEntries_iff : RemainEntries fs gs ↔ pruneEntries fs = gs := by
  constructor
  · exact RemainEntries.pruneEntries_eq
  · rintro rfl
    exact remainEntries_pruneEntries_of fun e _ => remains_prune

/-! ### Clean values -/

theorem Clean.survives (h : v.Clean) : v.survives = true := by
  induction h with
  | scalar h => simpa [Value.survives] using h
  | list hne h ih =>
    obtain ⟨x, hx⟩ := List.exists_mem_of_ne_nil _ hne
    rw [Value.survives, anySurvives_eq]
    exact List.any_eq_true.mpr ⟨x, hx, ih x hx⟩
  | map h ih => rfl

theorem clean_prune (h : v.survives = true) : v.prune.Clean := by
  induction v using induct with
  | scalar s mark => exact .scalar (by simpa [Value.survives] using h)
  | list items mark ih =>
    have hne := survives_list_iff.mp h
    rw [prune_list hne]
    refine .list hne fun y hy => ?_
    obtain ⟨x, hx, rfl, hn⟩ := mem_pruneItems.mp hy
    exact ih x hx (by simpa [isNull_prune] using hn)
  | map fs mark ih =>
    refine .map fun e he => ?_
    obtain ⟨v, hv, heq, hn⟩ := mem_pruneEntries.mp he
    rw [← heq] at hn ⊢
    exact ih _ hv (by simpa [isNull_prune] using hn)

theorem clean_of_mem_pruneEntries {e : Value × Value} (h : e ∈ pruneEntries fs) : e.2.Clean := by
  obtain ⟨v, -, heq, hn⟩ := mem_pruneEntries.mp h
  rw [← heq] at hn ⊢
  exact clean_prune (by simpa [isNull_prune] using hn)

theorem unmarkedItems_eq (xs : List Value) : unmarkedItems xs = xs.map unmarked := by
  induction xs with
  | nil => rfl
  | cons x xs ih => rw [unmarkedItems, List.map_cons, ih]

theorem unmarkedEntries_eq (fs : Fields) : unmarkedEntries fs = fs.map fun e => (e.1, e.2.unmarked) := by
  induction fs with
  | nil => rfl
  | cons e fs ih =>
    obtain ⟨k, v⟩ := e
    rw [unmarkedEntries, List.map_cons, ih]

theorem clean_of_unmarked (h : v.unmarked.Clean) : v.Clean := by
  induction v using induct with
  | scalar s mark => exact h
  | list items mark ih =>
    rw [unmarked, unmarkedItems_eq] at h
    cases h with
    | list hne h =>
      refine .list (by simpa using hne) fun x hx => ih x hx (h _ (List.mem_map_of_mem hx))
  | map fs mark ih =>
    rw [unmarked, unmarkedEntries_eq] at h
    cases h with
    | map h => exact .map fun e he => ih e he (h _ (List.mem_map_of_mem he))

/-- Nothing vanishes from what is clean. -/
theorem prune_eq_unmarked (h : v.Clean) : v.prune = v.unmarked := by
  induction h with
  | scalar h => rfl
  | @list items mark hne h ih =>
    have hitems : pruneItems items = unmarkedItems items := by
      clear hne
      induction items with
      | nil => rfl
      | cons x xs ihx =>
        obtain ⟨hx, hxs⟩ := List.forall_mem_cons.mp h
        obtain ⟨ihhead, ihtail⟩ := List.forall_mem_cons.mp ih
        rw [pruneItems_cons_of_survives hx.survives, unmarkedItems, ihhead, ihx hxs ihtail]
    have hclean : (Value.list items mark).Clean := .list hne h
    rw [prune_list (survives_list_iff.mp hclean.survives), unmarked, hitems]
  | @map fs mark h ih =>
    have hentries : pruneEntries fs = unmarkedEntries fs := by
      induction fs with
      | nil => rfl
      | cons e fs ihe =>
        obtain ⟨k, v⟩ := e
        obtain ⟨hv, hfs⟩ := List.forall_mem_cons.mp h
        obtain ⟨ihhead, ihtail⟩ := List.forall_mem_cons.mp ih
        rw [pruneEntries_cons_of_survives hv.survives, unmarkedEntries, ihhead, ihe hfs ihtail]
    rw [prune, unmarked, hentries]

theorem pruneEntries_eq_unmarkedEntries (h : ∀ e ∈ fs, e.2.Clean) : pruneEntries fs = unmarkedEntries fs := by
  have hclean : (Value.ofFields fs).Clean := .map h
  have heq := prune_eq_unmarked hclean
  rw [prune, unmarked] at heq
  exact (map.inj heq).1

end Value

/-! ## Order -/

theorem mem_iff_of_filter {α : Type} {rank : α → Nat} {xs ys : List α}
    (h : ∀ n, xs.filter (rank · == n) = ys.filter (rank · == n)) (x : α) : x ∈ xs ↔ x ∈ ys := by
  have hx := congrArg (x ∈ ·) (h (rank x))
  simpa using hx

/-- Lists in the order of a rank are equal if their items of every rank are. -/
theorem eq_of_pairwise_of_filter {α : Type} {rank : α → Nat} {xs ys : List α}
    (hxs : xs.Pairwise fun x x' => rank x ≤ rank x') (hys : ys.Pairwise fun y y' => rank y ≤ rank y')
    (h : ∀ n, xs.filter (rank · == n) = ys.filter (rank · == n)) : xs = ys := by
  induction xs generalizing ys with
  | nil =>
    exact (List.eq_nil_iff_forall_not_mem.mpr fun y hy => by simpa using (mem_iff_of_filter h y).mpr hy).symm
  | cons x xs ih =>
    have hmem := mem_iff_of_filter h
    cases ys with
    | nil => simpa using (hmem x).mp List.mem_cons_self
    | cons y ys =>
      obtain ⟨hx, hxs⟩ := List.pairwise_cons.mp hxs
      obtain ⟨hy, hrest⟩ := List.pairwise_cons.mp hys
      have hxy : rank x ≤ rank y := by
        rcases List.mem_cons.mp ((hmem y).mpr List.mem_cons_self) with rfl | hmem
        · exact Nat.le_refl _
        · exact hx y hmem
      have hyx : rank y ≤ rank x := by
        rcases List.mem_cons.mp ((hmem x).mp List.mem_cons_self) with rfl | hmem
        · exact Nat.le_refl _
        · exact hy x hmem
      -- both first items have the least rank, so each is the first one of that rank
      have hfirst := h (rank x)
      rw [List.filter_cons_of_pos (by simp), List.filter_cons_of_pos (by simp [Nat.le_antisymm hxy hyx])] at hfirst
      obtain rfl := (List.cons.inj hfirst).1
      have hothers : ∀ n, xs.filter (rank · == n) = ys.filter (rank · == n) := by
        intro n
        have hn := h n
        rw [List.filter_cons, List.filter_cons] at hn
        split at hn
        · exact (List.cons.inj hn).2
        · exact hn
      rw [ih hxs hrest hothers]

namespace Manifest

/-- The rank of a key among some names. All other keys come after them. -/
def rank (names : List String) (k : Value) : Nat :=
  names.findIdx k.isText

/-- Entries with those of some names first, in the order of the names. -/
def Ordered (names : List String) (fs : Fields) : Prop :=
  fs.Pairwise fun e e' => rank names e.1 ≤ rank names e'.1

/-- Entries that are moved until they are in order, where those of one rank stay in theirs. -/
structure Arrangement (names : List String) (fs out : Fields) : Prop where
  ordered : Ordered names out
  stable : ∀ n, out.filter (rank names ·.1 == n) = fs.filter (rank names ·.1 == n)

variable {names : List String} {fs gs out : Fields}

theorem Arrangement.mem_iff (h : Arrangement names fs out) (e : Value × Value) : e ∈ out ↔ e ∈ fs :=
  mem_iff_of_filter h.stable e

theorem Arrangement.unique (h : Arrangement names fs out) (h' : Arrangement names fs gs) : out = gs :=
  eq_of_pairwise_of_filter h.ordered h'.ordered fun n => (h.stable n).trans (h'.stable n).symm

theorem Ordered.arrangement (h : Ordered names fs) : Arrangement names fs fs :=
  ⟨h, fun _ => rfl⟩

theorem rank_cons (name : String) (k : Value) :
    rank (name :: names) k = if k.isText name then 0 else rank names k + 1 := by
  rw [rank, List.findIdx_cons]
  cases k.isText name <;> rfl

theorem filter_rank_zero (name : String) (fs : Fields) :
    fs.filter (rank (name :: names) ·.1 == 0) = entriesOf fs name := by
  refine List.filter_congr fun e _ => ?_
  rw [rank_cons]
  cases e.1.isText name <;> rfl

theorem filter_rank_succ (name : String) (fs : Fields) (n : Nat) :
    fs.filter (rank (name :: names) ·.1 == n + 1) =
      (fs.filter fun e => !e.1.isText name).filter (rank names ·.1 == n) := by
  rw [List.filter_filter]
  refine List.filter_congr fun e _ => ?_
  rw [rank_cons]
  cases e.1.isText name <;> simp

/-- Entries of a name before the arranged other ones. -/
theorem Arrangement.cons {name : String} {rest : Fields}
    (h : Arrangement names (fs.filter fun e => !e.1.isText name) rest) :
    Arrangement (name :: names) fs (entriesOf fs name ++ rest) := by
  have hfirst : ∀ e ∈ entriesOf fs name, e.1.isText name = true := fun e he => (List.mem_filter.mp he).2
  have hrest : ∀ e ∈ rest, e.1.isText name = false := by
    intro e he
    simpa using (List.mem_filter.mp ((h.mem_iff e).mp he)).2
  have hzero : ∀ e ∈ entriesOf fs name, rank (name :: names) e.1 = 0 :=
    fun e he => by rw [rank_cons, if_pos (hfirst e he)]
  have hsucc : ∀ e ∈ rest, rank (name :: names) e.1 = rank names e.1 + 1 :=
    fun e he => by rw [rank_cons, if_neg (by simp [hrest e he])]
  constructor
  · refine List.pairwise_append.mpr ⟨?_, ?_, fun e he e' _ => ?_⟩
    · refine List.Pairwise.imp_of_mem (fun he _ _ => ?_) (List.pairwise_of_forall fun _ _ => trivial)
      rw [hzero _ he]
      exact Nat.zero_le _
    · refine h.ordered.imp_of_mem fun he he' hle => ?_
      rw [hsucc _ he, hsucc _ he']
      exact Nat.succ_le_succ hle
    · rw [hzero e he]
      exact Nat.zero_le _
  · intro n
    cases n with
    | zero =>
      have hnone : entriesOf rest name = [] := List.filter_eq_nil_iff.mpr fun e he => by simp [hrest e he]
      have hall : entriesOf (entriesOf fs name) name = entriesOf fs name := List.filter_eq_self.mpr hfirst
      have happend : entriesOf (entriesOf fs name ++ rest) name =
          entriesOf (entriesOf fs name) name ++ entriesOf rest name := List.filter_append _ _
      rw [filter_rank_zero, filter_rank_zero, happend, hall, hnone, List.append_nil]
    | succ n =>
      have hnone : (entriesOf fs name).filter (fun e => !e.1.isText name) = [] :=
        List.filter_eq_nil_iff.mpr fun e he => by simp [hfirst e he]
      have hall : rest.filter (fun e => !e.1.isText name) = rest :=
        List.filter_eq_self.mpr fun e he => by simp [hrest e he]
      rw [filter_rank_succ, filter_rank_succ, List.filter_append, hnone, hall, List.nil_append, h.stable]

/-- Entries by the names one after the other, and then the others. -/
theorem arrangement_flatMap (h : names.Nodup) (fs : Fields) :
    Arrangement names fs (names.flatMap (entriesOf fs) ++ others names fs) := by
  induction names generalizing fs with
  | nil =>
    have hothers : others [] fs = fs := List.filter_eq_self.mpr fun e _ => rfl
    rw [List.flatMap_nil, List.nil_append, hothers]
    exact Ordered.arrangement (List.pairwise_of_forall fun _ _ => Nat.le_refl _)
  | cons name names ih =>
    obtain ⟨hname, hnames⟩ := List.nodup_cons.mp h
    have hcongr : names.flatMap (entriesOf (fs.filter fun e => !e.1.isText name)) = names.flatMap (entriesOf fs) :=
      flatMap_entriesOf_congr fun other hother => entriesOf_filter_ne fun heq => hname (heq ▸ hother)
    have hrest := ih hnames (fs.filter fun e => !e.1.isText name)
    rw [hcongr, ← others_cons] at hrest
    rw [List.flatMap_cons, List.append_assoc]
    exact hrest.cons

/-- There is one arrangement of some entries. -/
theorem arrangement_iff : Arrangement leadingNames fs out ↔ out = order fs := by
  have horder : Arrangement leadingNames fs (order fs) := arrangement_flatMap (by decide) fs
  constructor
  · exact fun h => h.unique horder
  · rintro rfl
    exact horder

/-- What is in order stays as it is. -/
theorem order_eq_self (h : Ordered leadingNames fs) : order fs = fs :=
  (arrangement_iff.mp h.arrangement).symm

theorem ordered_order (fs : Fields) : Ordered leadingNames (order fs) :=
  (arrangement_iff.mpr rfl).ordered

theorem ordered_unmarkedEntries : Ordered names (Value.unmarkedEntries fs) ↔ Ordered names fs := by
  rw [Value.unmarkedEntries_eq]
  exact List.pairwise_map

/-! ## Manifests -/

theorem clean_of_mem_arrange {e : Value × Value} (h : e ∈ arrange fs) : e.2.Clean :=
  Value.clean_of_mem_pruneEntries ((order_perm _).mem_iff.mp h)

/-- Entries are a manifest already exactly if they are clean and in order. -/
theorem arrange_eq_unmarkedEntries_iff :
    arrange fs = Value.unmarkedEntries fs ↔ (∀ e ∈ fs, e.2.Clean) ∧ Ordered leadingNames fs := by
  constructor
  · intro h
    refine ⟨fun e he => Value.clean_of_unmarked ?_, ?_⟩
    · have hmem : (e.1, e.2.unmarked) ∈ arrange fs := by
        rw [h, Value.unmarkedEntries_eq]
        exact List.mem_map_of_mem he
      exact clean_of_mem_arrange hmem
    · rw [← ordered_unmarkedEntries, ← h]
      exact ordered_order _
  · rintro ⟨hclean, hordered⟩
    rw [arrange, Value.pruneEntries_eq_unmarkedEntries hclean, order_eq_self (ordered_unmarkedEntries.mpr hordered)]

/-- **A manifest is what remains of some entries, the best known names first.** It is clean, nothing else has these
properties, it is equal to the entries exactly if they are clean and in order already, and it is its own manifest. -/
theorem arrange_characterized (fs : Fields) :
    (∀ e ∈ arrange fs, e.2.Clean) ∧
    (∀ out, out = arrange fs ↔ ∃ kept, Value.RemainEntries fs kept ∧ Arrangement leadingNames kept out) ∧
    (arrange fs = Value.unmarkedEntries fs ↔ (∀ e ∈ fs, e.2.Clean) ∧ Ordered leadingNames fs) ∧
    arrange (arrange fs) = arrange fs := by
  refine ⟨fun e => clean_of_mem_arrange, fun out => ?_, arrange_eq_unmarkedEntries_iff, ?_⟩
  · simp only [Value.remainEntries_iff, exists_eq_left', arrangement_iff, arrange]
  · rw [arrange, arrange, pruneEntries_order, Value.pruneEntries_pruneEntries, order_eq_self (ordered_order _)]

/-- A list that becomes empty goes, and a mapping that becomes empty stays. -/
example :
    arrange [(.ofString "x", .ofList [.null, .ofList []]), (.ofString "metadata", .ofFields [(.ofString "a", .null)]),
        (.ofString "kind", .ofString "Pod")] =
      [(.ofString "kind", .ofString "Pod"), (.ofString "metadata", .ofFields [])] := rfl

end Manifest

end KubeManifest
