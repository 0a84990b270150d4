import KubeManifest.Proofs.Value.Prune
import KubeManifest.Value.Plain

/-!
# Plain values

* `Value.isText_of_displayKey` : a key that shows as one of the well known names is the text of that name;
* `Value.IsPlain`, `Fields.IsPlain` : values as copies leave them, and their entries;
* `Value.plain_isPlain`, `Value.IsPlain.plain_eq` : a copy is plain, and what is plain is its own copy;
* `Value.IsPlain.prune`, `Fields.IsPlain.set` : what is plain stays so when it is pruned or a plain entry is set;
* `Fields.find?_plain` : look-up in the copies of entries.
-/

namespace KubeManifest

/-! ## Keys as text -/

namespace Value

/-- The letters of which every well known name has one, and no other scalar than a text shows any. -/
def isNameLetter (c : Char) : Bool :=
  c == 'k' || c == 'm' || c == 'p'

def Letterless (cs : List Char) : Prop :=
  ∀ c ∈ cs, isNameLetter c = false

instance (cs : List Char) : Decidable (Letterless cs) :=
  List.decidableBAll _ cs

theorem Letterless.append {as bs : List Char} (ha : Letterless as) (hb : Letterless bs) :
    Letterless (as ++ bs) := by
  intro c hc
  rcases List.mem_append.mp hc with hc | hc
  · exact ha c hc
  · exact hb c hc

theorem Letterless.cons {c : Char} {cs : List Char} (hc : isNameLetter c = false) (h : Letterless cs) :
    Letterless (c :: cs) := by
  intro d hd
  rcases List.mem_cons.mp hd with rfl | hd
  · exact hc
  · exact h d hd

theorem Letterless.of_subset {as bs : List Char} (h : Letterless bs) (hsub : ∀ c ∈ as, c ∈ bs) :
    Letterless as :=
  fun c hc => h c (hsub c hc)

theorem letterless_replicate (n : Nat) : Letterless (List.replicate n '0') := by
  intro c hc
  obtain rfl := List.eq_of_mem_replicate hc
  rfl

theorem isNameLetter_of_isDigit {c : Char} (h : c.isDigit = true) : isNameLetter c = false := by
  rw [isNameLetter, Bool.or_eq_false_iff, Bool.or_eq_false_iff]
  refine ⟨⟨?_, ?_⟩, ?_⟩ <;> rw [beq_eq_false_iff_ne] <;> rintro rfl <;> exact absurd h (by decide)

theorem letterless_toDigits (n : Nat) : Letterless (Nat.toDigits 10 n) :=
  fun _ hc => isNameLetter_of_isDigit (Nat.isDigit_of_mem_toDigits (by decide) (by decide) hc)

theorem letterless_nat (n : Nat) : Letterless (toString n).toList := by
  change Letterless n.repr.toList
  rw [Nat.toList_repr]
  exact letterless_toDigits n

theorem letterless_int (n : Int) : Letterless (toString n).toList := by
  cases n with
  | ofNat n => exact letterless_nat n
  | negSucc n =>
    change Letterless ("-" ++ (n + 1).repr).toList
    rw [String.toList_append]
    exact Letterless.append (by decide) (letterless_nat (n + 1))

theorem letterless_exponentText (e : Int) : Letterless (Binary64.exponentText e) := by
  unfold Binary64.exponentText
  refine Letterless.cons (by split <;> rfl) ?_
  exact (letterless_replicate _).append (letterless_toDigits _)

theorem letterless_decimalText {digits : List Char} (h : Letterless digits) (point : Int) :
    Letterless (Binary64.decimalText digits point) := by
  have htake : ∀ n, Letterless (digits.take n) := fun n => h.of_subset fun c hc => List.mem_of_mem_take hc
  have hdrop : ∀ n, Letterless (digits.drop n) := fun n => h.of_subset fun c hc => List.mem_of_mem_drop hc
  unfold Binary64.decimalText
  split
  · refine ((htake 1).append ?_).append (Letterless.cons rfl (letterless_exponentText _))
    split
    · exact fun c hc => by simp at hc
    · exact Letterless.cons rfl (hdrop 1)
  · split
    · exact Letterless.cons rfl (Letterless.cons rfl ((letterless_replicate _).append h))
    · refine ((htake _).append (letterless_replicate _)).append (Letterless.cons rfl ?_)
      split
      · exact Letterless.cons rfl fun c hc => by simp at hc
      · exact hdrop _

theorem letterless_float (x : Binary64) : Letterless x.text.toList := by
  cases x with
  | notANumber => decide
  | infinite negative => cases negative <;> decide
  | finite negative m e =>
    have hdigits : Letterless (Binary64.shortestDigits m e).1 := by
      refine (letterless_toDigits (Binary64.shortest m e).1).of_subset fun c hc => ?_
      have hc := List.mem_reverse.mp hc
      exact List.mem_reverse.mp ((List.dropWhile_sublist _).subset hc)
    have hbody : Letterless (if m == 0 then ['0', '.', '0']
        else Binary64.decimalText (Binary64.shortestDigits m e).1 (Binary64.shortestDigits m e).2) := by
      split
      · decide
      · exact letterless_decimalText hdigits _
    rw [Binary64.text]
    simp only [String.toList_ofList]
    split
    · exact Letterless.cons rfl hbody
    · exact hbody

theorem letterless_padded (width n : Nat) : Letterless (Moment.padded width n).toList := by
  unfold Moment.padded
  rw [String.toList_append, String.toList_ofList]
  exact (letterless_replicate _).append (letterless_nat n)

theorem letterless_dateText (d : Date) : Letterless (Moment.dateText d).toList := by
  unfold Moment.dateText
  simp only [String.toList_append]
  have hyear := (letterless_padded 4 d.year).append (show Letterless "-".toList by decide)
  exact ((hyear.append (letterless_padded _ _)).append (by decide)).append (letterless_padded _ _)

/-- The part of a second, after its point. -/
theorem letterless_fraction (n : Nat) :
    Letterless (if n == 0 then "" else "." ++ Moment.padded 6 n).toList := by
  split
  · decide
  · rw [String.toList_append]
    exact Letterless.append (by decide) (letterless_padded _ _)

theorem letterless_clockText (c : Clock) : Letterless (Moment.clockText c).toList := by
  unfold Moment.clockText
  simp only [String.toList_append]
  have hhour := (letterless_padded 2 c.hour).append (show Letterless ":".toList by decide)
  have hminute := (hhour.append (letterless_padded 2 c.minute)).append (show Letterless ":".toList by decide)
  exact (hminute.append (letterless_padded _ _)).append (letterless_fraction _)

theorem letterless_offsetText (o : Int) : Letterless (Moment.offsetText o).toList := by
  unfold Moment.offsetText
  simp only [String.toList_append]
  refine (((((Letterless.append ?_ (letterless_padded _ _)).append (by decide)).append
    (letterless_padded _ _)).append ?_).append (letterless_fraction _))
  · split <;> decide
  · split
    · decide
    · rw [String.toList_append]
      exact Letterless.append (by decide) (letterless_padded _ _)

theorem letterless_moment (m : Moment) (style : Option MomentStyle) : Letterless (m.display style).toList := by
  unfold Moment.display
  cases m with
  | date d => exact letterless_dateText d
  | instant d c offset =>
    rw [Moment.isoText]
    simp only [String.toList_append]
    refine (((letterless_dateText d).append ?_).append (letterless_clockText c)).append ?_
    · split <;> decide
    · cases offset with
      | none => decide
      | some o => exact letterless_offsetText o

/-- The names of the entries that a resource is read from and written to. -/
def wellKnown : List String := ["apiVersion", "kind", "metadata", "spec"]

/-- A key that shows as a well known name is its text. -/
theorem isText_of_displayKey {k : Value} {name : String} (hname : name ∈ wellKnown)
    (h : k.displayKey = name) : k.isText name = true := by
  have hletter : ¬ Letterless name.toList := by
    simp only [wellKnown, List.mem_cons, List.not_mem_nil, or_false] at hname
    rcases hname with rfl | rfl | rfl | rfl <;> decide
  have hfirst : name.toList.head? ≠ some '(' ∧ name.toList.head? ≠ some '\x7b' := by
    simp only [wellKnown, List.mem_cons, List.not_mem_nil, or_false] at hname
    rcases hname with rfl | rfl | rfl | rfl <;> decide
  cases k with
  | list items mark =>
    rw [displayKey, quotedKey] at h
    refine absurd ?_ hfirst.1
    rw [← h]
    simp only [String.toList_append]
    rfl
  | map fs mark =>
    rw [displayKey, display, quoted] at h
    · refine absurd ?_ hfirst.2
      rw [← h]
      simp only [String.toList_append]
      rfl
    all_goals simp
  | scalar s mark =>
    cases s with
    | text s style =>
      obtain rfl : s = name := h
      simp [isText, text?]
    | null => exact absurd (h ▸ (by decide : Letterless "None".toList)) hletter
    | bool b =>
      obtain rfl : truthText b mark = name := h
      refine absurd ?_ hletter
      unfold truthText
      split <;> split <;> decide
    | int n style => exact absurd (h ▸ letterless_int n) hletter
    | float x style => exact absurd (h ▸ letterless_float x) hletter
    | moment m style => exact absurd (h ▸ letterless_moment m style) hletter

end Value

/-! ## Entries from pairs -/

namespace Fields

theorem set_named_of_new {pairs : List (String × Value)} {name : String} (h : name ∉ pairs.map Prod.fst)
    (v : Value) :
    set (named pairs) name v = named (pairs ++ [(name, v)]) := by
  induction pairs with
  | nil => rfl
  | cons p pairs ih =>
    obtain ⟨n, w⟩ := p
    simp only [List.map_cons, List.mem_cons, not_or] at h
    rw [named_cons, set, if_neg (by simpa using Ne.symm h.1), ih h.2]
    rfl

theorem set_named_of_mem {pairs : List (String × Value)} {name : String} (h : name ∈ pairs.map Prod.fst)
    (v : Value) :
    ∃ qs, set (named pairs) name v = named qs ∧ qs.map Prod.fst = pairs.map Prod.fst ∧
      ∀ q ∈ qs, q ∈ pairs ∨ q = (name, v) := by
  induction pairs with
  | nil => simp at h
  | cons p pairs ih =>
    obtain ⟨n, w⟩ := p
    by_cases hn : n = name
    · subst hn
      refine ⟨(n, v) :: pairs, by simp [set], rfl, fun q hq => ?_⟩
      rcases List.mem_cons.mp hq with rfl | hq
      · exact Or.inr rfl
      · exact Or.inl (List.mem_cons_of_mem _ hq)
    · obtain ⟨qs, hqs, hkeys, hmem⟩ := ih (by simpa [Ne.symm hn] using h)
      refine ⟨(n, w) :: qs, by simp [set, hn, hqs], by simp [hkeys], fun q hq => ?_⟩
      rcases List.mem_cons.mp hq with rfl | hq
      · exact Or.inl List.mem_cons_self
      · exact (hmem q hq).imp_left (List.mem_cons_of_mem _)

theorem foldl_set_named (pairs acc : List (String × Value)) (hacc : (acc.map Prod.fst).Nodup) :
    ∃ qs, pairs.foldl (fun fs p => set fs p.1 p.2) (named acc) = named qs ∧ (qs.map Prod.fst).Nodup ∧
      ∀ q ∈ qs, q ∈ acc ∨ q ∈ pairs := by
  induction pairs generalizing acc with
  | nil => exact ⟨acc, rfl, hacc, fun q hq => Or.inl hq⟩
  | cons p pairs ih =>
    obtain ⟨name, v⟩ := p
    by_cases h : name ∈ acc.map Prod.fst
    · obtain ⟨mid, hmid, hkeys, hmem⟩ := set_named_of_mem h v
      obtain ⟨qs, hqs, hnodup, hsub⟩ := ih mid (hkeys ▸ hacc)
      refine ⟨qs, by rw [List.foldl_cons, hmid, hqs], hnodup, fun q hq => ?_⟩
      rcases hsub q hq with hq | hq
      · rcases hmem q hq with hq | rfl
        · exact Or.inl hq
        · exact Or.inr List.mem_cons_self
      · exact Or.inr (List.mem_cons_of_mem _ hq)
    · have hnew : ((acc ++ [(name, v)]).map Prod.fst).Nodup := by
        rw [List.map_append, List.nodup_append]
        refine ⟨hacc, by simp, fun a ha b hb => ?_⟩
        obtain rfl : b = name := by simpa using hb
        rintro rfl
        exact h ha
      obtain ⟨qs, hqs, hnodup, hsub⟩ := ih (acc ++ [(name, v)]) hnew
      refine ⟨qs, by rw [List.foldl_cons, set_named_of_new h, hqs], hnodup, fun q hq => ?_⟩
      rcases hsub q hq with hq | hq
      · rcases List.mem_append.mp hq with hq | hq
        · exact Or.inl hq
        · exact Or.inr (List.mem_singleton.mp hq ▸ List.mem_cons_self)
      · exact Or.inr (List.mem_cons_of_mem _ hq)

/-- Entries from pairs have different texts as keys. -/
theorem exists_named_ofPairs (pairs : List (String × Value)) :
    ∃ qs, ofPairs pairs = named qs ∧ (qs.map Prod.fst).Nodup ∧ ∀ q ∈ qs, q ∈ pairs := by
  obtain ⟨qs, hqs, hnodup, hsub⟩ := foldl_set_named pairs [] (by simp)
  exact ⟨qs, hqs, hnodup, fun q hq => (hsub q hq).resolve_left (by simp)⟩

theorem foldl_set_append (acc : List (String × Value)) {pairs : List (String × Value)}
    (h : ((acc ++ pairs).map Prod.fst).Nodup) :
    pairs.foldl (fun fs p => set fs p.1 p.2) (named acc) = named (acc ++ pairs) := by
  induction pairs generalizing acc with
  | nil => simp
  | cons p pairs ih =>
    obtain ⟨name, v⟩ := p
    have hnew : name ∉ acc.map Prod.fst := by
      intro hmem
      rw [List.map_append, List.nodup_append] at h
      exact h.2.2 name hmem name List.mem_cons_self rfl
    rw [List.foldl_cons, set_named_of_new hnew, ih _ (by simpa using h), List.append_assoc]
    rfl

theorem ofPairs_eq_named {pairs : List (String × Value)} (h : (pairs.map Prod.fst).Nodup) :
    ofPairs pairs = named pairs :=
  foldl_set_append [] h

end Fields

/-! ## Plain values -/

theorem map_eq_self {α : Type} {f : α → α} {xs : List α} (h : ∀ x ∈ xs, f x = x) : xs.map f = xs := by
  rw [List.map_congr_left h]
  exact List.map_id' xs

namespace Value

theorem plainItems_eq (xs : List Value) : plainItems xs = xs.map plain := by
  induction xs with
  | nil => rfl
  | cons x xs ih => rw [plainItems, List.map_cons, ih]

theorem plainEntries_eq (fs : Fields) : plainEntries fs = fs.map fun e => (displayKey e.1, plain e.2) := by
  induction fs with
  | nil => rfl
  | cons e fs ih =>
    obtain ⟨k, v⟩ := e
    rw [plainEntries, List.map_cons, ih]

/-- A value as copies leave it: without marks on its lists and mappings, and with different texts without a style
as keys. -/
inductive IsPlain : Value → Prop
  | scalar (s : Scalar) (mark : Option Mark) : IsPlain (.scalar s mark)
  | list {items : List Value} (h : ∀ x ∈ items, IsPlain x) : IsPlain (.ofList items)
  | map {fs : Fields} (keys : ∀ e ∈ fs, ∃ s, e.1 = .ofString s) (distinct : Fields.Distinct fs)
      (values : ∀ e ∈ fs, IsPlain e.2) : IsPlain (.ofFields fs)

end Value

namespace Fields

/-- Entries with different texts without a style as keys. -/
structure Named (fs : Fields) : Prop where
  keys : ∀ e ∈ fs, ∃ s, e.1 = .ofString s
  distinct : Distinct fs

/-- The entries of a plain mapping. -/
structure IsPlain (fs : Fields) : Prop extends Named fs where
  values : ∀ e ∈ fs, e.2.IsPlain

namespace Named

variable {fs : Fields}

theorem of_pairs {pairs : List (String × Value)} (h : (pairs.map Prod.fst).Nodup) : Named (named pairs) := by
  refine ⟨fun e he => ?_, distinct_named h⟩
  obtain ⟨p, -, rfl⟩ := List.mem_map.mp he
  exact ⟨p.1, rfl⟩

/-- The entries as pairs of names and values. -/
theorem exists_pairs (h : Named fs) : ∃ pairs, fs = named pairs ∧ (pairs.map Prod.fst).Nodup := by
  refine ⟨fs.map fun e => (e.1.text?.getD "", e.2), ?_, ?_⟩
  · rw [named, List.map_map]
    symm
    refine map_eq_self fun e he => ?_
    obtain ⟨s, hs⟩ := h.keys e he
    obtain ⟨k, v⟩ := e
    obtain rfl : k = .ofString s := hs
    rfl
  · have hkeys : (fs.map fun e => (e.1.text?.getD "", e.2)).map Prod.fst = fs.filterMap fun e => e.1.text? := by
      rw [List.map_map]
      have hall := h.keys
      clear h
      induction fs with
      | nil => rfl
      | cons e fs ih =>
        obtain ⟨s, hs⟩ := hall e List.mem_cons_self
        rw [List.map_cons, List.filterMap_cons_some (b := s) (by rw [hs]; rfl),
          ih fun e he => hall e (List.mem_cons_of_mem _ he)]
        simp [hs]
    rw [hkeys]
    exact h.distinct

theorem filter (h : Named fs) (p : Value × Value → Bool) : Named (fs.filter p) :=
  ⟨fun e he => h.keys e (List.mem_filter.mp he).1, h.distinct.filter p⟩

theorem perm {gs : Fields} (h : Named fs) (hp : gs.Perm fs) : Named gs :=
  ⟨fun e he => h.keys e (hp.subset he), ((hp.filterMap _).nodup_iff).mpr h.distinct⟩

theorem prune (h : Named fs) : Named (Value.pruneEntries fs) := by
  refine ⟨fun e he => ?_, distinct_pruneEntries h.distinct⟩
  obtain ⟨v, hmem, -⟩ := Value.mem_pruneEntries.mp he
  exact h.keys (e.1, v) hmem

/-- Entries that are put in front of those of other names. -/
theorem cons (h : Named fs) {name : String} (hname : find? fs name = none) (v : Value) :
    Named ((.ofString name, v) :: fs) := by
  refine ⟨fun e he => ?_, ?_⟩
  · rcases List.mem_cons.mp he with rfl | he
    · exact ⟨name, rfl⟩
    · exact h.keys e he
  · rw [Distinct, List.filterMap_cons_some (f := fun e : Value × Value => e.1.text?) (b := name) rfl, List.nodup_cons]
    refine ⟨fun hmem => ?_, h.distinct⟩
    obtain ⟨e, he, hk⟩ := List.mem_filterMap.mp hmem
    have hno := find?_eq_none_iff.mp hname e he
    rw [Value.isText_iff.mpr hk] at hno
    cases hno

theorem set (h : Named fs) (name : String) (v : Value) : Named (set fs name v) := by
  obtain ⟨pairs, rfl, hnodup⟩ := h.exists_pairs
  by_cases hname : name ∈ pairs.map Prod.fst
  · obtain ⟨qs, hqs, hkeys, -⟩ := set_named_of_mem hname v
    rw [hqs]
    exact of_pairs (hkeys ▸ hnodup)
  · rw [set_named_of_new hname]
    refine of_pairs ?_
    rw [List.map_append, List.nodup_append]
    refine ⟨hnodup, by simp, fun a ha b hb => ?_⟩
    obtain rfl : b = name := by simpa using hb
    rintro rfl
    exact hname ha

end Named

theorem mem_set {fs : Fields} {name : String} {v : Value} {e : Value × Value} (h : e ∈ set fs name v) :
    e ∈ fs ∨ e.2 = v := by
  induction fs with
  | nil => exact Or.inr (congrArg Prod.snd (List.mem_singleton.mp h))
  | cons e' fs ih =>
    obtain ⟨k, old⟩ := e'
    rw [set] at h
    split at h <;> rcases List.mem_cons.mp h with rfl | h
    · exact Or.inr rfl
    · exact Or.inl (List.mem_cons_of_mem _ h)
    · exact Or.inl List.mem_cons_self
    · exact (ih h).imp_left (List.mem_cons_of_mem _)

namespace IsPlain

variable {fs : Fields}

theorem of_map {mark : Option Mark} (h : Value.IsPlain (.map fs mark)) : IsPlain fs := by
  cases h with
  | map keys distinct values => exact ⟨⟨keys, distinct⟩, values⟩

theorem ofFields (h : IsPlain fs) : Value.IsPlain (.ofFields fs) :=
  .map h.keys h.distinct h.values

theorem of_find? (h : IsPlain fs) {name : String} {v : Value} (hv : find? fs name = some v) : v.IsPlain := by
  obtain ⟨k, hmem, -⟩ := mem_of_find? hv
  exact h.values _ hmem

theorem filter (h : IsPlain fs) (p : Value × Value → Bool) : IsPlain (fs.filter p) :=
  ⟨h.toNamed.filter p, fun e he => h.values e (List.mem_filter.mp he).1⟩

theorem perm {gs : Fields} (h : IsPlain fs) (hp : gs.Perm fs) : IsPlain gs :=
  ⟨h.toNamed.perm hp, fun e he => h.values e (hp.subset he)⟩

theorem set (h : IsPlain fs) (name : String) {v : Value} (hv : v.IsPlain) : IsPlain (set fs name v) := by
  refine ⟨h.toNamed.set name v, fun e he => ?_⟩
  rcases mem_set he with he | he
  · exact h.values e he
  · exact he ▸ hv

end IsPlain

end Fields

namespace Value

/-- A copy is plain. -/
theorem plain_isPlain (v : Value) : (plain v).IsPlain := by
  induction v using induct with
  | scalar s mark => exact .scalar s mark
  | list items mark ih =>
    rw [plain, plainItems_eq]
    refine .list fun y hy => ?_
    obtain ⟨x, hx, rfl⟩ := List.mem_map.mp hy
    exact ih x hx
  | map fs mark ih =>
    rw [plain]
    obtain ⟨qs, hqs, hnodup, hmem⟩ := Fields.exists_named_ofPairs (plainEntries fs)
    rw [hqs]
    have hnamed := Fields.Named.of_pairs hnodup
    refine .map hnamed.keys hnamed.distinct fun e he => ?_
    obtain ⟨q, hq, rfl⟩ := List.mem_map.mp he
    have hq := hmem q hq
    rw [plainEntries_eq, List.mem_map] at hq
    obtain ⟨e', he', rfl⟩ := hq
    exact ih e' he'

/-- What is plain is its own copy. -/
theorem IsPlain.plain_eq {v : Value} (h : v.IsPlain) : v.plain = v := by
  induction v using induct with
  | scalar s mark => rfl
  | list items mark ih =>
    cases h with
    | list h =>
      rw [plain, plainItems_eq]
      congr 1
      exact map_eq_self fun x hx => ih x hx (h x hx)
  | map fs mark ih =>
    cases h with
    | map keys distinct values =>
      obtain ⟨pairs, rfl, hnodup⟩ := Fields.Named.exists_pairs ⟨keys, distinct⟩
      have hpairs : plainEntries (Fields.named pairs) = pairs := by
        rw [plainEntries_eq, Fields.named, List.map_map]
        refine map_eq_self fun p hp => ?_
        have hmem : (ofString p.1, p.2) ∈ Fields.named pairs := List.mem_map.mpr ⟨p, hp, rfl⟩
        exact Prod.ext rfl (ih _ hmem (values _ hmem))
      rw [plain, hpairs, Fields.ofPairs_eq_named hnodup]

theorem IsPlain.prune {v : Value} (h : v.IsPlain) : v.prune.IsPlain := by
  induction v using induct with
  | scalar s mark => exact h
  | list items mark ih =>
    cases h with
    | list h =>
      rw [Value.prune]
      split
      · exact .scalar _ _
      · refine .list fun y hy => ?_
        obtain ⟨x, hx, rfl, -⟩ := mem_pruneItems.mp hy
        exact ih x hx (h x hx)
  | map fs mark ih =>
    cases h with
    | map keys distinct values =>
      refine .map (fun e he => ?_) (Fields.distinct_pruneEntries distinct) fun e he => ?_ <;>
        obtain ⟨v, hmem, hv, -⟩ := mem_pruneEntries.mp he
      · exact keys (e.1, v) hmem
      · exact hv ▸ ih _ hmem (values _ hmem)

end Value

namespace Fields.IsPlain

variable {fs : Fields}

theorem plainValues_eq (h : IsPlain fs) : plainValues fs = fs :=
  map_eq_self fun e he => Prod.ext rfl (h.values e he).plain_eq

theorem plain_eq (h : IsPlain fs) : Fields.plain fs = fs := by
  have hv := h.ofFields.plain_eq
  rw [Value.plain] at hv
  exact (Value.map.inj hv).1

theorem prune (h : IsPlain fs) : IsPlain (Value.pruneEntries fs) :=
  of_map h.ofFields.prune

end Fields.IsPlain

namespace Fields

theorem plain_isPlain (fs : Fields) : IsPlain (plain fs) :=
  IsPlain.of_map (Value.plain_isPlain (.ofFields fs))

theorem plainValues_values (fs : Fields) : ∀ e ∈ plainValues fs, e.2.IsPlain := by
  intro e he
  obtain ⟨e, -, rfl⟩ := List.mem_map.mp he
  exact Value.plain_isPlain e.2

theorem find?_foldl_set {fs acc : Fields} {name : String} (h : Distinct fs)
    (hkeys : ∀ e ∈ fs, e.1.displayKey = name → e.1.isText name = true) :
    find? ((Value.plainEntries fs).foldl (fun fs p => set fs p.1 p.2) acc) name =
      ((find? fs name).map Value.plain).or (find? acc name) := by
  induction fs generalizing acc with
  | nil => rfl
  | cons e fs ih =>
    obtain ⟨k, v⟩ := e
    rw [Value.plainEntries, List.foldl_cons, ih h.tail fun e he => hkeys e (List.mem_cons_of_mem _ he), find?_cons]
    by_cases hk : k.displayKey = name
    · have hkt := hkeys _ List.mem_cons_self hk
      rw [h.find?_tail hkt, hk, find?_set_self, if_pos hkt]
      rfl
    · rw [find?_set_ne _ _ hk, if_neg]
      intro hkt
      rw [Value.isText_iff] at hkt
      cases k with
      | scalar s mark =>
        cases s with
        | text s style => exact hk (Option.some.inj hkt)
        | _ => simp [Value.text?] at hkt
      | _ => simp [Value.text?] at hkt

/-- Look-up in the copies of entries, under a name that only texts show as. -/
theorem find?_plain {fs : Fields} {name : String} (h : Distinct fs)
    (hkeys : ∀ e ∈ fs, e.1.displayKey = name → e.1.isText name = true) :
    find? (plain fs) name = (find? fs name).map Value.plain := by
  rw [plain, ofPairs]
  exact (find?_foldl_set h hkeys).trans (Option.or_none ..)

/-- Copies have no entries of other names than those that they are copied from. -/
theorem find?_plain_eq_none {fs : Fields} {name : String} (hname : name ∈ Value.wellKnown)
    (h : find? fs name = none) : find? (plain fs) name = none := by
  obtain ⟨qs, hqs, -, hmem⟩ := exists_named_ofPairs (Value.plainEntries fs)
  rw [plain, hqs, find?_eq_none_iff]
  intro e he
  obtain ⟨q, hq, rfl⟩ := List.mem_map.mp he
  have hq := hmem q hq
  rw [Value.plainEntries_eq] at hq
  obtain ⟨e', he', rfl⟩ := List.mem_map.mp hq
  rw [Value.isText_ofString, beq_eq_false_iff_ne]
  intro heq
  have hk := Value.isText_of_displayKey hname heq
  rw [find?_eq_none_iff.mp h e' he'] at hk
  cases hk

theorem find?_plain_of_mem {fs : Fields} {name : String} (h : Distinct fs) (hname : name ∈ Value.wellKnown) :
    find? (plain fs) name = (find? fs name).map Value.plain :=
  find?_plain h fun _ _ hk => Value.isText_of_displayKey hname hk

end Fields

end KubeManifest
