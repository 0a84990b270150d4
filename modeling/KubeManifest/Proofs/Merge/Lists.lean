import KubeManifest.Merge.Env
import KubeManifest.Merge.Port
import KubeManifest.Proofs.Results

/-!
# Lists of variables and ports that grow

A default list is added item by item: an item goes to the end of the list, or is passed over because it is known
there, or ends the work. So what was there stays in front, and what is added is a part of the default list in its
order. An item that was added or passed over is known from then on, however much is added after it.

* `Merged.Adds` : what the two ways of adding have in common;
* `Merged.Adds.result_eq_append`, `Merged.Adds.misfit_eq_none` : what was there and what is added, and when
  nothing ends the work;
* `Merged.Adds.exists_added`, `Merged.Adds.exists_taken` : what is added differs from all before it, and what is passed
  over does not;
* `Merged.Adds.add_add`, `Merged.Adds.add_self` : a list that took in another one takes in nothing more of it,
  and none of itself;
* `Merged.addTo` : the same for lists that may be missing, as those of a container are;
* `EnvVar.adds`, `ContainerPort.adds` : variables are known by name, and ports by a conflict.
-/

namespace KubeManifest

namespace Merged

def itemsAt {α : Type} (taken : Nat → Bool) : List α → List α
  | [] => []
  | x :: xs =>
    if taken 0 then x :: itemsAt (fun i => taken (i + 1)) xs else itemsAt (fun i => taken (i + 1)) xs

/-- The places that are taken behind a first one. -/
def behind (first : Bool) (taken : Nat → Bool) : Nat → Bool
  | 0 => first
  | i + 1 => taken i

theorem itemsAt_behind_true {α : Type} (taken : Nat → Bool) (x : α) (xs : List α) :
    itemsAt (behind true taken) (x :: xs) = x :: itemsAt taken xs := rfl

theorem itemsAt_behind_false {α : Type} (taken : Nat → Bool) (x : α) (xs : List α) :
    itemsAt (behind false taken) (x :: xs) = itemsAt taken xs := rfl

/-- A way to add the items of a list to another one. An item is known when some item is the same, which may be
impossible to tell; what is known is passed over. -/
structure Adds {α : Type} (same : α → α → Except Misfit Bool) (known : List α → α → Except Misfit Bool)
    (add : List α → List α → Merged (List α)) : Prop where
  known_nil : ∀ a, known [] a = .ok false
  known_cons : ∀ x xs a, known (x :: xs) a = do if ← same x a then return true else known xs a
  add_nil : ∀ xs, add xs [] = ⟨xs, none⟩
  add_cons : ∀ xs a rest, add xs (a :: rest) =
    match known xs a with
    | .ok true => add xs rest
    | .ok false => add (xs ++ [a]) rest
    | .error misfit => ⟨xs, some misfit⟩

namespace Adds

variable {α : Type} {same : α → α → Except Misfit Bool} {known : List α → α → Except Misfit Bool}
  {add : List α → List α → Merged (List α)}

/-! ### What is known -/

/-- The first item is the same, or it is not and the others decide. -/
theorem known_cons_cases (h : Adds same known add) {x : α} {xs : List α} {a : α} {b : Bool}
    (hx : known (x :: xs) a = .ok b) :
    (same x a = .ok true ∧ b = true) ∨ (same x a = .ok false ∧ known xs a = .ok b) := by
  rw [h.known_cons] at hx
  obtain ⟨b', hs, hx⟩ := bind_eq_ok.mp hx
  cases b' with
  | true => exact .inl ⟨hs, (Except.ok.inj hx).symm⟩
  | false => exact .inr ⟨hs, hx⟩

theorem known_cons_of_same (h : Adds same known add) {x : α} {a : α} (hs : same x a = .ok true) (xs : List α) :
    known (x :: xs) a = .ok true := by
  rw [h.known_cons, hs]
  rfl

theorem known_cons_of_not_same (h : Adds same known add) {x : α} {a : α} (hs : same x a = .ok false) (xs : List α) :
    known (x :: xs) a = known xs a := by
  rw [h.known_cons, hs]
  rfl

theorem known_append_of_true (h : Adds same known add) {xs : List α} {a : α} (hx : known xs a = .ok true)
    (ys : List α) : known (xs ++ ys) a = .ok true := by
  induction xs with
  | nil =>
    rw [h.known_nil] at hx
    simp at hx
  | cons x xs ih =>
    rw [List.cons_append]
    rcases h.known_cons_cases hx with ⟨hs, -⟩ | ⟨hs, hx⟩
    · exact h.known_cons_of_same hs _
    · rw [h.known_cons_of_not_same hs, ih hx]

theorem known_append_of_false (h : Adds same known add) {xs : List α} {a : α} (hx : known xs a = .ok false)
    (ys : List α) : known (xs ++ ys) a = known ys a := by
  induction xs with
  | nil => rfl
  | cons x xs ih =>
    rw [List.cons_append]
    rcases h.known_cons_cases hx with ⟨-, hb⟩ | ⟨hs, hx⟩
    · cases hb
    · rw [h.known_cons_of_not_same hs, ih hx]

theorem known_of_prefix (h : Adds same known add) {xs ys : List α} {a : α} (hpre : xs <+: ys)
    (hx : known xs a = .ok true) : known ys a = .ok true := by
  obtain ⟨rest, rfl⟩ := hpre
  exact h.known_append_of_true hx rest

/-- What was new is known once it has been added. -/
theorem known_append_self (h : Adds same known add) {xs : List α} {a : α} (hx : known xs a = .ok false)
    (ha : same a a = .ok true) : known (xs ++ [a]) a = .ok true := by
  rw [h.known_append_of_false hx, h.known_cons_of_same ha]

/-- It can be told whether an item is known when it can be compared with every other one. -/
theorem exists_known (h : Adds same known add) {xs : List α} {a : α} (hs : ∀ x ∈ xs, ∃ b, same x a = .ok b) :
    ∃ b, known xs a = .ok b := by
  induction xs with
  | nil => exact ⟨false, h.known_nil a⟩
  | cons x xs ih =>
    obtain ⟨b, hb⟩ := hs x List.mem_cons_self
    cases b with
    | true => exact ⟨true, h.known_cons_of_same hb xs⟩
    | false =>
      rw [h.known_cons_of_not_same hb]
      exact ih fun y hy => hs y (List.mem_cons_of_mem _ hy)

theorem known_eq_any (h : Adds same known add) {xs : List α} {a : α} {f : α → Bool}
    (hs : ∀ x ∈ xs, same x a = .ok (f x)) : known xs a = .ok (xs.any f) := by
  induction xs with
  | nil => exact h.known_nil a
  | cons x xs ih =>
    obtain ⟨hx, hxs⟩ := List.forall_mem_cons.mp hs
    rw [List.any_cons]
    cases hb : f x with
    | true => exact h.known_cons_of_same (hx.trans (congrArg _ hb)) xs
    | false => rw [h.known_cons_of_not_same (hx.trans (congrArg _ hb)), ih hxs, Bool.false_or]

theorem known_of_mem (h : Adds same known add) {xs : List α} {a : α} (hs : ∀ x ∈ xs, ∃ b, same x a = .ok b)
    (ha : same a a = .ok true) (hmem : a ∈ xs) : known xs a = .ok true := by
  obtain ⟨before, after, rfl⟩ := List.append_of_mem hmem
  obtain ⟨b, hb⟩ := h.exists_known fun x hx => hs x (List.mem_append_left _ hx)
  cases b with
  | true => exact h.known_append_of_true hb _
  | false =>
    rw [h.known_append_of_false hb, h.known_cons_of_same ha]

theorem same_of_known (h : Adds same known add) {xs : List α} {a : α} (hx : known xs a = .ok true) :
    ∃ x ∈ xs, same x a = .ok true := by
  induction xs with
  | nil =>
    rw [h.known_nil] at hx
    simp at hx
  | cons x xs ih =>
    rcases h.known_cons_cases hx with ⟨hs, -⟩ | ⟨-, hx⟩
    · exact ⟨x, List.mem_cons_self, hs⟩
    · obtain ⟨y, hy, hsame⟩ := ih hx
      exact ⟨y, List.mem_cons_of_mem _ hy, hsame⟩

theorem same_of_not_known (h : Adds same known add) {xs : List α} {a : α} (hx : known xs a = .ok false) :
    ∀ x ∈ xs, same x a = .ok false := by
  induction xs with
  | nil => simp
  | cons x xs ih =>
    rcases h.known_cons_cases hx with ⟨-, hb⟩ | ⟨hs, hx⟩
    · cases hb
    · exact List.forall_mem_cons.mpr ⟨hs, ih hx⟩

/-! ### What is added -/

/-- What is added differs from what was there and from what was added before it, even if something ends the work. -/
theorem exists_added (h : Adds same known add) (xs others : List α) :
    ∃ added, (add xs others).result = xs ++ added ∧ added.Sublist others ∧
      (added.Pairwise fun x a => same x a = .ok false) ∧ ∀ x ∈ xs, ∀ a ∈ added, same x a = .ok false := by
  induction others generalizing xs with
  | nil =>
    refine ⟨[], ?_, List.Sublist.refl _, .nil, by simp⟩
    rw [h.add_nil, List.append_nil]
  | cons a others ih =>
    rw [h.add_cons]
    split
    · obtain ⟨added, heq, hsub, hpair, hdiffer⟩ := ih xs
      exact ⟨added, heq, hsub.cons _, hpair, hdiffer⟩
    · rename_i hk
      obtain ⟨added, heq, hsub, hpair, hdiffer⟩ := ih (xs ++ [a])
      refine ⟨a :: added, ?_, hsub.cons_cons _, List.pairwise_cons.mpr ⟨hdiffer a (by simp), hpair⟩, fun x hx => ?_⟩
      · rw [heq, List.append_assoc]
        rfl
      · refine List.forall_mem_cons.mpr ⟨h.same_of_not_known hk x hx, hdiffer x ?_⟩
        exact List.mem_append_left _ hx
    · exact ⟨[], (List.append_nil xs).symm, List.nil_sublist _, .nil, by simp⟩

theorem result_eq_append (h : Adds same known add) (xs others : List α) :
    ∃ added, (add xs others).result = xs ++ added ∧ added.Sublist others := by
  obtain ⟨added, heq, hsub, -, -⟩ := h.exists_added xs others
  exact ⟨added, heq, hsub⟩

/-- Items that differ go on to differ. -/
theorem pairwise_add (h : Adds same known add) {xs : List α} (hxs : xs.Pairwise fun x a => same x a = .ok false)
    (others : List α) : (add xs others).result.Pairwise fun x a => same x a = .ok false := by
  obtain ⟨added, heq, -, hpair, hdiffer⟩ := h.exists_added xs others
  rw [heq]
  exact List.pairwise_append.mpr ⟨hxs, hpair, hdiffer⟩

/-- The places of what is added: an item is passed over exactly if it is known from what was there and what was added
before it. -/
theorem exists_taken (h : Adds same known add) {xs others ys : List α} (hadd : add xs others = ⟨ys, none⟩) :
    ∃ taken, ys = xs ++ itemsAt taken others ∧ ∀ (i : Nat) (a : α), others[i]? = some a →
      known (xs ++ itemsAt taken (others.take i)) a = .ok (!taken i) := by
  induction others generalizing xs with
  | nil =>
    rw [h.add_nil] at hadd
    obtain rfl : xs = ys := congrArg Merged.result hadd
    exact ⟨fun _ => false, (List.append_nil xs).symm, by simp⟩
  | cons a others ih =>
    rw [h.add_cons] at hadd
    split at hadd
    · rename_i hk
      obtain ⟨taken, heq, htaken⟩ := ih hadd
      refine ⟨behind false taken, heq, fun i b hb => ?_⟩
      cases i with
      | zero =>
        obtain rfl : a = b := by simpa using hb
        rw [List.take_zero, itemsAt, List.append_nil]
        exact hk
      | succ i =>
        rw [List.take_succ_cons, itemsAt_behind_false]
        exact htaken i b (by simpa using hb)
    · rename_i hk
      obtain ⟨taken, heq, htaken⟩ := ih hadd
      refine ⟨behind true taken, ?_, fun i b hb => ?_⟩
      · rw [itemsAt_behind_true, heq, List.append_assoc, List.singleton_append]
      · cases i with
        | zero =>
          obtain rfl : a = b := by simpa using hb
          rw [List.take_zero, itemsAt, List.append_nil]
          exact hk
        | succ i =>
          have hrest := htaken i b (by simpa using hb)
          rw [List.append_assoc, List.singleton_append] at hrest
          rw [List.take_succ_cons, itemsAt_behind_true]
          exact hrest
    · simp at hadd

/-- Nothing ends the work where every two items can be compared. -/
theorem misfit_eq_none (h : Adds same known add) {xs others : List α}
    (hs : ∀ x ∈ xs ++ others, ∀ a ∈ others, ∃ b, same x a = .ok b) : (add xs others).misfit = none := by
  induction others generalizing xs with
  | nil => rw [h.add_nil]
  | cons a others ih =>
    obtain ⟨b, hb⟩ := h.exists_known fun x hx => hs x (List.mem_append_left _ hx) a List.mem_cons_self
    have hrest : ∀ x ∈ xs ++ a :: others, ∀ y ∈ others, ∃ b, same x y = .ok b :=
      fun x hx y hy => hs x hx y (List.mem_cons_of_mem _ hy)
    rw [h.add_cons, hb]
    cases b with
    | true =>
      refine ih fun x hx => hrest x ?_
      rw [List.mem_append] at hx ⊢
      exact hx.imp_right (List.mem_cons_of_mem _)
    | false =>
      refine ih fun x hx => hrest x ?_
      rwa [List.append_assoc] at hx

/-! ### Adding again -/

theorem add_eq_of_known (h : Adds same known add) {xs others : List α}
    (hk : ∀ a ∈ others, known xs a = .ok true) : add xs others = ⟨xs, none⟩ := by
  induction others with
  | nil => exact h.add_nil xs
  | cons a others ih =>
    rw [h.add_cons, hk a List.mem_cons_self]
    exact ih fun b hb => hk b (List.mem_cons_of_mem _ hb)

/-- In the end all that was to be added is known. -/
theorem known_of_add (h : Adds same known add) {xs others ys : List α} (hadd : add xs others = ⟨ys, none⟩)
    (hself : ∀ a ∈ others, same a a = .ok true) : ∀ a ∈ others, known ys a = .ok true := by
  induction others generalizing xs with
  | nil => simp
  | cons a others ih =>
    have hrest : ∀ b ∈ others, same b b = .ok true := fun b hb => hself b (List.mem_cons_of_mem _ hb)
    have hpre : ∀ zs, add zs others = ⟨ys, none⟩ → zs <+: ys := by
      intro zs hzs
      obtain ⟨added, heq, -⟩ := h.result_eq_append zs others
      rw [hzs] at heq
      exact ⟨added, heq.symm⟩
    rw [h.add_cons] at hadd
    intro b hb
    split at hadd
    · rename_i hk
      rcases List.mem_cons.mp hb with rfl | hb
      · exact h.known_of_prefix (hpre _ hadd) hk
      · exact ih hadd hrest b hb
    · rename_i hk
      rcases List.mem_cons.mp hb with rfl | hb
      · exact h.known_of_prefix (hpre _ hadd) (h.known_append_self hk (hself b List.mem_cons_self))
      · exact ih hadd hrest b hb
    · simp at hadd

theorem add_add (h : Adds same known add) {xs others ys : List α} (hadd : add xs others = ⟨ys, none⟩)
    (hself : ∀ a ∈ others, same a a = .ok true) : add ys others = ⟨ys, none⟩ :=
  h.add_eq_of_known (h.known_of_add hadd hself)

theorem add_self (h : Adds same known add) {xs : List α} (hs : ∀ x ∈ xs, ∀ a ∈ xs, ∃ b, same x a = .ok b)
    (hself : ∀ a ∈ xs, same a a = .ok true) : add xs xs = ⟨xs, none⟩ :=
  h.add_eq_of_known fun a ha => h.known_of_mem (fun x hx => hs x hx a ha) (hself a ha) ha

end Adds

/-! ### Lists that may be missing -/

/-- Adds a list that may be missing to another one that may be. Only items to add bring a list about. -/
def addTo {α : Type} (add : List α → List α → Merged (List α)) (xs others : Option (List α)) :
    Merged (Option (List α)) :=
  match others with
  | none | some [] => ⟨xs, none⟩
  | some others => (add (xs.getD []) others).within some

namespace Adds

variable {α : Type} {same : α → α → Except Misfit Bool} {known : List α → α → Except Misfit Bool}
  {add : List α → List α → Merged (List α)}

theorem result_addTo (h : Adds same known add) (xs others : Option (List α)) :
    (addTo add xs others).result.getD [] = (add (xs.getD []) (others.getD [])).result := by
  unfold addTo
  split
  · exact (congrArg Merged.result (h.add_nil _)).symm
  · exact (congrArg Merged.result (h.add_nil _)).symm
  · rfl

theorem add_of_addTo (h : Adds same known add) {xs others ys : Option (List α)}
    (hadd : addTo add xs others = ⟨ys, none⟩) : add (xs.getD []) (others.getD []) = ⟨ys.getD [], none⟩ := by
  unfold addTo at hadd
  split at hadd
  · obtain rfl : xs = ys := congrArg Merged.result hadd
    exact h.add_nil _
  · obtain rfl : xs = ys := congrArg Merged.result hadd
    exact h.add_nil _
  · rename_i others _
    rcases hr : add (xs.getD []) others with ⟨zs, misfit⟩
    rw [hr, within_mk, mk.injEq] at hadd
    obtain ⟨rfl, rfl⟩ := hadd
    exact hr

theorem prefix_addTo (h : Adds same known add) (xs others : Option (List α)) :
    xs.getD [] <+: (addTo add xs others).result.getD [] := by
  rw [h.result_addTo]
  obtain ⟨added, heq, -⟩ := h.result_eq_append (xs.getD []) (others.getD [])
  exact ⟨added, heq.symm⟩

theorem mem_addTo (h : Adds same known add) {xs others : Option (List α)} {x : α}
    (hx : x ∈ (addTo add xs others).result.getD []) : x ∈ xs.getD [] ∨ x ∈ others.getD [] := by
  obtain ⟨added, heq, hsub⟩ := h.result_eq_append (xs.getD []) (others.getD [])
  rw [h.result_addTo, heq, List.mem_append] at hx
  exact hx.imp_right fun hx => hsub.subset hx

theorem addTo_misfit (h : Adds same known add) {xs others : Option (List α)}
    (hs : ∀ x ∈ xs.getD [] ++ others.getD [], ∀ a ∈ others.getD [], ∃ b, same x a = .ok b) :
    (addTo add xs others).misfit = none := by
  unfold addTo
  split
  · rfl
  · rfl
  · exact h.misfit_eq_none hs

theorem addTo_addTo (h : Adds same known add) {xs others ys : Option (List α)}
    (hadd : addTo add xs others = ⟨ys, none⟩) (hself : ∀ a ∈ others.getD [], same a a = .ok true) :
    addTo add ys others = ⟨ys, none⟩ := by
  unfold addTo at hadd ⊢
  split at hadd
  · rfl
  · rfl
  · rename_i others _
    cases hr : add (xs.getD []) others with
    | mk zs misfit =>
      rw [hr] at hadd
      simp only [within, mk.injEq] at hadd
      obtain ⟨rfl, rfl⟩ := hadd
      simp [h.add_add hr hself, within]

theorem addTo_self (h : Adds same known add) {xs : Option (List α)}
    (hs : ∀ x ∈ xs.getD [], ∀ a ∈ xs.getD [], ∃ b, same x a = .ok b)
    (hself : ∀ a ∈ xs.getD [], same a a = .ok true) : addTo add xs xs = ⟨xs, none⟩ := by
  unfold addTo
  split
  · rfl
  · rfl
  · rw [Option.getD_some] at *
    rw [h.add_self hs hself]
    rfl

end Adds

end Merged

/-! ## Variables -/

namespace EnvVar

theorem adds : Merged.Adds hasNameOf anyNamed addMissing where
  known_nil _ := rfl
  known_cons _ _ _ := rfl
  add_nil _ := rfl
  add_cons _ _ _ := rfl

theorem exists_hasNameOf {e a : Option EnvVar} (he : e.isSome) (ha : a.isSome) :
    ∃ b, hasNameOf e a = .ok b := by
  obtain ⟨e, rfl⟩ := Option.isSome_iff_exists.mp he
  obtain ⟨a, rfl⟩ := Option.isSome_iff_exists.mp ha
  exact ⟨_, rfl⟩

end EnvVar

/-! ## Ports -/

namespace ContainerPort

theorem adds : Merged.Adds conflicts? anyConflict addMissing where
  known_nil _ := rfl
  known_cons _ _ _ := rfl
  add_nil _ := rfl
  add_cons _ _ _ := rfl

theorem exists_conflicts? {e a : Option ContainerPort} (he : e.isSome) (ha : a.isSome) :
    ∃ b, conflicts? e a = .ok b := by
  obtain ⟨e, rfl⟩ := Option.isSome_iff_exists.mp he
  obtain ⟨a, rfl⟩ := Option.isSome_iff_exists.mp ha
  exact ⟨_, rfl⟩

end ContainerPort

end KubeManifest
