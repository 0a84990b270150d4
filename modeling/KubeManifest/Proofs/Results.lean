import KubeManifest.Failure

/-!
# Results of calculations that may fail

* `bind_eq_ok` : a calculation of two parts that comes to its end;
* `map_bind_map`, `mapM_map_of_map` : calculations whose parts have other results, that are others in the same way;
* `toOption_eq_some`, `toOption_bind` : calculations whose faults do not count;
* `mapM_ok_getElem?`, `mapM_ok_of_getElem?`, `mapM_ok_of_perm`, `exists_mapM_ok_iff` : calculations for all items of a
  list;
* `mapM_eq_of_item` : calculations for lists that differ in one item;
* `mapM_eq_error` : the first item for which there is no result;
* `Failure.lift_eq_ok`, `Failure.mapM_lift` : calculations whose misfits are failures.
-/

namespace KubeManifest

/-! ## One after the other -/

@[simp] theorem toOption_ok {ε β : Type} (y : β) : (Except.ok y : Except ε β).toOption = some y := rfl

@[simp] theorem toOption_error {ε β : Type} (e : ε) : (Except.error e : Except ε β).toOption = none := rfl

@[simp] theorem toOption_map {ε β γ : Type} (x : Except ε β) (f : β → γ) :
    (x.map f).toOption = x.toOption.map f := by
  cases x <;> rfl

theorem ok_bind {ε β γ : Type} (y : β) (f : β → Except ε γ) : (Except.ok y >>= f) = f y := rfl

theorem bind_eq_ok {ε β γ : Type} {x : Except ε β} {f : β → Except ε γ} {z : γ} :
    (x >>= f) = .ok z ↔ ∃ y, x = .ok y ∧ f y = .ok z := by
  cases x with
  | error e =>
    refine iff_of_false (fun h => ?_) ?_
    · cases h
    · rintro ⟨y, h, -⟩
      cases h
  | ok y =>
    refine ⟨fun h => ⟨y, rfl, h⟩, ?_⟩
    rintro ⟨_, h, h'⟩
    exact Except.ok.inj h ▸ h'

theorem mapError_map {ε ε' β γ : Type} (x : Except ε β) (g : β → γ) (e : ε → ε') :
    (x.map g).mapError e = (x.mapError e).map g := by
  cases x <;> rfl

/-- Parts of a calculation whose results go into one another. -/
theorem map_bind_map {ε β β' γ γ' : Type} {x : Except ε β} {g : β → β'} {k : β → Except ε γ} {k' : β' → Except ε γ'}
    {h : γ → γ'} (hk : ∀ y, k' (g y) = (k y).map h) : (x.map g >>= k') = (x >>= k).map h := by
  cases x with
  | error e => rfl
  | ok y => exact hk y

theorem toOption_bind {ε β γ : Type} (x : Except ε β) (f : β → Except ε γ) :
    (x >>= f).toOption = x.toOption.bind fun y => (f y).toOption := by
  cases x <;> rfl

theorem toOption_eq_some {ε β : Type} {x : Except ε β} {y : β} : x.toOption = some y ↔ x = .ok y := by
  cases x <;> simp [Except.toOption]

/-! ## For all items -/

section mapM

variable {α β ε : Type}

theorem mapM_cons_eq_some {f : α → Option β} {x : α} {xs : List α} {ys : List β} :
    (x :: xs).mapM f = some ys ↔ ∃ y ys', f x = some y ∧ xs.mapM f = some ys' ∧ ys = y :: ys' := by
  rw [List.mapM_cons, Option.bind_eq_bind, Option.bind_eq_some_iff]
  simp only [Option.bind_eq_bind, Option.bind_eq_some_iff]
  constructor
  · rintro ⟨y, hy, ys', hys, h⟩
    exact ⟨y, ys', hy, hys, (Option.some.inj h).symm⟩
  · rintro ⟨y, ys', hy, hys, rfl⟩
    exact ⟨y, hy, ys', hys, rfl⟩

theorem mapM_eq_some_of_imp {f g : α → Option β} (hfg : ∀ x y, f x = some y → g x = some y) {xs : List α}
    {ys : List β} (h : xs.mapM f = some ys) : xs.mapM g = some ys := by
  induction xs generalizing ys with
  | nil => exact h
  | cons x xs ih =>
    obtain ⟨y, ys', hy, hys, rfl⟩ := mapM_cons_eq_some.mp h
    exact mapM_cons_eq_some.mpr ⟨y, ys', hfg x y hy, ih hys, rfl⟩

/-- The results for two lists, one after the other. -/
theorem mapM_append_eq_some {f : α → Option β} {xs xs' : List α} {ys : List β} (h : (xs ++ xs').mapM f = some ys) :
    ∃ zs zs', xs.mapM f = some zs ∧ xs'.mapM f = some zs' ∧ ys = zs ++ zs' := by
  rw [List.mapM_append, Option.bind_eq_bind, Option.bind_eq_some_iff] at h
  obtain ⟨zs, hzs, h⟩ := h
  obtain ⟨zs', hzs', h⟩ := Option.bind_eq_some_iff.mp h
  exact ⟨zs, zs', hzs, hzs', (Option.some.inj h).symm⟩

theorem exists_mapM_eq_some {f : α → Option β} {xs : List α} (h : ∀ x ∈ xs, ∃ y, f x = some y) :
    ∃ ys, xs.mapM f = some ys := by
  induction xs with
  | nil => exact ⟨[], rfl⟩
  | cons x xs ih =>
    obtain ⟨⟨y, hy⟩, hxs⟩ := List.forall_mem_cons.mp h
    obtain ⟨ys, hys⟩ := ih hxs
    exact ⟨y :: ys, mapM_cons_eq_some.mpr ⟨y, ys, hy, hys, rfl⟩⟩

theorem mapM_eq_some_mem {f : α → Option β} {xs : List α} {ys : List β} (h : xs.mapM f = some ys) :
    ∀ y ∈ ys, ∃ x ∈ xs, f x = some y := by
  induction xs generalizing ys with
  | nil =>
    obtain rfl : [] = ys := Option.some.inj h
    simp
  | cons x xs ih =>
    obtain ⟨y, ys', hy, hys, rfl⟩ := mapM_cons_eq_some.mp h
    intro z hz
    rcases List.mem_cons.mp hz with rfl | hz
    · exact ⟨x, List.mem_cons_self, hy⟩
    · obtain ⟨x', hx', hz⟩ := ih hys z hz
      exact ⟨x', List.mem_cons_of_mem _ hx', hz⟩

theorem exists_mem_of_mapM_eq_some {f : α → Option β} {xs : List α} {ys : List β} (h : xs.mapM f = some ys) :
    ∀ x ∈ xs, ∃ y ∈ ys, f x = some y := by
  induction xs generalizing ys with
  | nil => simp
  | cons x xs ih =>
    obtain ⟨y, ys', hy, hys, rfl⟩ := mapM_cons_eq_some.mp h
    refine List.forall_mem_cons.mpr ⟨⟨y, List.mem_cons_self, hy⟩, fun z hz => ?_⟩
    obtain ⟨w, hw, hz⟩ := ih hys z hz
    exact ⟨w, List.mem_cons_of_mem _ hw, hz⟩

theorem map_eq_map_of_mapM_eq_some {γ : Type} {f : α → Option β} {xs : List α} {ys : List β} (h : xs.mapM f = some ys)
    {g : β → γ} {g' : α → γ} (hg : ∀ x ∈ xs, ∀ y, f x = some y → g y = g' x) : ys.map g = xs.map g' := by
  induction xs generalizing ys with
  | nil =>
    obtain rfl : [] = ys := Option.some.inj h
    rfl
  | cons x xs ih =>
    obtain ⟨y, ys', hy, hys, rfl⟩ := mapM_cons_eq_some.mp h
    rw [List.map_cons, List.map_cons, hg x List.mem_cons_self y hy,
      ih hys fun z hz => hg z (List.mem_cons_of_mem _ hz)]

theorem mapM_eq_some_length {f : α → Option β} {xs : List α} {ys : List β} (h : xs.mapM f = some ys) :
    ys.length = xs.length := by
  induction xs generalizing ys with
  | nil =>
    obtain rfl : [] = ys := Option.some.inj h
    rfl
  | cons x xs ih =>
    obtain ⟨y, ys', -, hys, rfl⟩ := mapM_cons_eq_some.mp h
    rw [List.length_cons, List.length_cons, ih hys]

theorem getElem?_mapM {f : α → Option β} {xs : List α} {ys : List β} (h : xs.mapM f = some ys) {i : Nat} {x : α}
    (hx : xs[i]? = some x) : ∃ y, ys[i]? = some y ∧ f x = some y := by
  induction xs generalizing ys i with
  | nil => simp at hx
  | cons x' xs ih =>
    obtain ⟨y, ys', hy, hys, rfl⟩ := mapM_cons_eq_some.mp h
    cases i with
    | zero =>
      obtain rfl : x' = x := by simpa using hx
      exact ⟨y, rfl, hy⟩
    | succ i => simpa using ih hys (by simpa using hx)

theorem mapM_cons_eq_ok {f : α → Except ε β} {x : α} {xs : List α} {ys : List β} :
    (x :: xs).mapM f = .ok ys ↔ ∃ y ys', f x = .ok y ∧ xs.mapM f = .ok ys' ∧ ys = y :: ys' := by
  rw [List.mapM_cons, bind_eq_ok]
  simp only [bind_eq_ok]
  constructor
  · rintro ⟨y, hy, ys', hys, h⟩
    exact ⟨y, ys', hy, hys, (Except.ok.inj h).symm⟩
  · rintro ⟨y, ys', hy, hys, rfl⟩
    exact ⟨y, hy, ys', hys, rfl⟩

/-- The same calculations, whose faults do not count. -/
theorem mapM_toOption {f : α → Except ε β} {xs : List α} {ys : List β} (h : xs.mapM f = .ok ys) :
    (xs.mapM fun x => (f x).toOption) = some ys := by
  induction xs generalizing ys with
  | nil =>
    obtain rfl : [] = ys := Except.ok.inj h
    rfl
  | cons x xs ih =>
    obtain ⟨y, ys', hy, hys, rfl⟩ := mapM_cons_eq_ok.mp h
    exact mapM_cons_eq_some.mpr ⟨y, ys', toOption_eq_some.mpr hy, ih hys, rfl⟩

theorem mapM_ok_length {f : α → Except ε β} {xs : List α} {ys : List β} (h : xs.mapM f = .ok ys) :
    ys.length = xs.length :=
  mapM_eq_some_length (mapM_toOption h)

/-- The result for an item of a list. -/
theorem mapM_ok_getElem? {f : α → Except ε β} {xs : List α} {ys : List β} (h : xs.mapM f = .ok ys) {i : Nat} {x : α}
    (hx : xs[i]? = some x) : ∃ y, ys[i]? = some y ∧ f x = .ok y := by
  obtain ⟨y, hy, hfx⟩ := getElem?_mapM (mapM_toOption h) hx
  exact ⟨y, hy, toOption_eq_some.mp hfx⟩

/-- The item of a list that a result is for. -/
theorem mapM_ok_of_getElem? {f : α → Except ε β} {xs : List α} {ys : List β} (h : xs.mapM f = .ok ys) {i : Nat}
    {y : β} (hy : ys[i]? = some y) : ∃ x, xs[i]? = some x ∧ f x = .ok y := by
  have hlt : i < xs.length := mapM_ok_length h ▸ (List.getElem?_eq_some_iff.mp hy).1
  obtain ⟨y', hy', hx⟩ := mapM_ok_getElem? h (List.getElem?_eq_getElem hlt)
  obtain rfl : y = y' := Option.some.inj (hy.symm.trans hy')
  exact ⟨xs[i], List.getElem?_eq_getElem hlt, hx⟩

theorem mapM_eq_ok_mem {f : α → Except ε β} {xs : List α} {ys : List β} (h : xs.mapM f = .ok ys) :
    ∀ y ∈ ys, ∃ x ∈ xs, f x = .ok y := by
  intro y hy
  obtain ⟨x, hx, hfx⟩ := mapM_eq_some_mem (mapM_toOption h) y hy
  exact ⟨x, hx, toOption_eq_some.mp hfx⟩

theorem exists_mem_of_mapM_eq_ok {f : α → Except ε β} {xs : List α} {ys : List β} (h : xs.mapM f = .ok ys) :
    ∀ x ∈ xs, ∃ y ∈ ys, f x = .ok y := by
  intro x hx
  obtain ⟨y, hy, hfx⟩ := exists_mem_of_mapM_eq_some (mapM_toOption h) x hx
  exact ⟨y, hy, toOption_eq_some.mp hfx⟩

theorem map_eq_map_of_mapM_eq_ok {γ : Type} {f : α → Except ε β} {xs : List α} {ys : List β} (h : xs.mapM f = .ok ys)
    {g : β → γ} {g' : α → γ} (hg : ∀ x ∈ xs, ∀ y, f x = .ok y → g y = g' x) : ys.map g = xs.map g' :=
  map_eq_map_of_mapM_eq_some (mapM_toOption h) fun x hx y hy => hg x hx y (toOption_eq_some.mp hy)

theorem mapM_eq_ok_map {f : α → Except ε β} {g : α → β} {xs : List α} (h : ∀ x ∈ xs, f x = .ok (g x)) :
    xs.mapM f = .ok (xs.map g) := by
  induction xs with
  | nil => rfl
  | cons x xs ih =>
    obtain ⟨hx, hxs⟩ := List.forall_mem_cons.mp h
    exact mapM_cons_eq_ok.mpr ⟨g x, xs.map g, hx, ih hxs, rfl⟩

/-- The same calculations for other items, whose results are others in the same way. -/
theorem mapM_map_of_map {α' β' : Type} {f : α → Except ε β} {f' : α' → Except ε β'} {a : α → α'} {b : β → β'}
    (h : ∀ x, f' (a x) = (f x).map b) (xs : List α) : (xs.map a).mapM f' = (xs.mapM f).map (List.map b) := by
  induction xs with
  | nil => rfl
  | cons x xs ih =>
    rw [List.map_cons, List.mapM_cons, List.mapM_cons, h, ih]
    exact map_bind_map fun y => map_bind_map fun ys => rfl

/-- The same calculations in another order. -/
theorem mapM_ok_of_perm {f : α → Except ε β} {xs xs' : List α} {ys : List β} (h : xs.Perm xs')
    (hys : xs.mapM f = .ok ys) : ∃ ys', xs'.mapM f = .ok ys' ∧ ys.Perm ys' := by
  induction h generalizing ys with
  | nil => exact ⟨ys, hys, .refl ys⟩
  | cons x _ ih =>
    obtain ⟨y, rest, hy, hrest, rfl⟩ := mapM_cons_eq_ok.mp hys
    obtain ⟨rest', hrest', hperm⟩ := ih hrest
    exact ⟨y :: rest', mapM_cons_eq_ok.mpr ⟨y, rest', hy, hrest', rfl⟩, hperm.cons y⟩
  | swap x x' _ =>
    obtain ⟨y', _, hy', htail, rfl⟩ := mapM_cons_eq_ok.mp hys
    obtain ⟨y, rest, hy, hrest, rfl⟩ := mapM_cons_eq_ok.mp htail
    have hswapped := mapM_cons_eq_ok.mpr ⟨y', rest, hy', hrest, rfl⟩
    exact ⟨y :: y' :: rest, mapM_cons_eq_ok.mpr ⟨y, y' :: rest, hy, hswapped, rfl⟩, .swap y y' rest⟩
  | trans _ _ ih ih' =>
    obtain ⟨mid, hmid, hperm⟩ := ih hys
    obtain ⟨ys', hys', hperm'⟩ := ih' hmid
    exact ⟨ys', hys', hperm.trans hperm'⟩

/-- Calculations for lists that differ in one item, for which the result is the same. -/
theorem mapM_eq_of_item {f : α → Except ε β} {before after : List α} {x y : α} (h : f y = f x) :
    (before ++ x :: after).mapM f = (before ++ y :: after).mapM f := by
  rw [List.mapM_append, List.mapM_append, List.mapM_cons, List.mapM_cons, h]

/-- A calculation for all items comes to its end exactly if it does for each of them. -/
theorem exists_mapM_ok_iff {f : α → Except ε β} {xs : List α} :
    (∃ ys, xs.mapM f = .ok ys) ↔ ∀ x ∈ xs, ∃ y, f x = .ok y := by
  induction xs with
  | nil => simp [pure, Except.pure]
  | cons x xs ih =>
    rw [List.forall_mem_cons, ← ih]
    simp only [mapM_cons_eq_ok]
    constructor
    · rintro ⟨_, y, ys, hy, hys, -⟩
      exact ⟨⟨y, hy⟩, ys, hys⟩
    · rintro ⟨⟨y, hy⟩, ys, hys⟩
      exact ⟨_, y, ys, hy, hys, rfl⟩

/-- A calculation for all items fails as it does for the first item that has no result. -/
theorem mapM_eq_error {f : α → Except ε β} {xs : List α} {e : ε} (h : xs.mapM f = .error e) :
    ∃ before x after, xs = before ++ x :: after ∧ (∀ x' ∈ before, ∃ y, f x' = .ok y) ∧ f x = .error e := by
  induction xs with
  | nil => cases h
  | cons x xs ih =>
    cases hx : f x with
    | error e' =>
      rw [List.mapM_cons, hx] at h
      obtain rfl : e' = e := Except.error.inj h
      exact ⟨[], x, xs, rfl, by simp, hx⟩
    | ok y =>
      rw [List.mapM_cons, hx, ok_bind] at h
      cases hxs : xs.mapM f with
      | ok ys =>
        rw [hxs] at h
        cases h
      | error e' =>
        rw [hxs] at h
        obtain rfl : e' = e := Except.error.inj h
        obtain ⟨before, x', after, rfl, hbefore, hx'⟩ := ih hxs
        exact ⟨x :: before, x', after, rfl, List.forall_mem_cons.mpr ⟨⟨y, hx⟩, hbefore⟩, hx'⟩

end mapM

/-! ## Misfits as failures -/

theorem Failure.lift_ok {α : Type} (x : α) : (liftM (Except.ok x : Except Misfit α) : Except Failure α) = .ok x := rfl

/-- What fits is passed on, and a misfit is a failure. -/
theorem Failure.lift_eq_ok {α : Type} {x : Except Misfit α} {y : α} :
    (liftM x : Except Failure α) = .ok y ↔ x = .ok y := by
  cases x with
  | error m => exact iff_of_false (fun h => by cases h) fun h => by cases h
  | ok z => exact ⟨fun h => by cases h; rfl, fun h => by cases h; rfl⟩

theorem Failure.mapM_lift {α β : Type} {f : α → Except Misfit β} (xs : List α) :
    (xs.mapM fun x => (liftM (f x) : Except Failure β)) = liftM (xs.mapM f) := by
  induction xs with
  | nil => rfl
  | cons x xs ih =>
    rw [List.mapM_cons, List.mapM_cons, ih]
    cases f x with
    | error m => rfl
    | ok y => cases xs.mapM f <;> rfl

end KubeManifest
