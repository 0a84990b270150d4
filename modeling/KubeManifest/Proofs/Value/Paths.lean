import KubeManifest.Proofs.Value.Order

/-!
# Places in a value

* `Value.at?` : what stands at the end of a path of keys and indices;
* `Value.firm?` : the same, for paths on which pruning moves no index;
* `Value.Keeps` : every scalar that stands at a firm path stands there in another value, too;
* `Value.keeps_map`, `Value.keeps_list`, `Value.keeps_plain` : mappings, lists and copies keep what their parts keep;
* `Value.at?_prune` : pruning leaves what stands at a firm path.
-/

namespace KubeManifest

namespace Value

inductive Step
  | key (name : String)
  | item (i : Nat)
deriving DecidableEq, Repr

/-- What stands at the end of a path. -/
def at? : Value → List Step → Option Value
  | v, [] => some v
  | .map fs _, .key name :: path => (Fields.find? fs name).bind fun v => at? v path
  | .list items _, .item i :: path => items[i]?.bind fun v => at? v path
  | _, _ :: _ => none

mutual

/-- Whether anything remains of a value after pruning. -/
def survives : Value → Bool
  | .scalar s _ => s != .null
  | .list items _ => anySurvives items
  | .map _ _ => true

def anySurvives : List Value → Bool
  | [] => false
  | x :: xs => survives x || anySurvives xs

end

/-- What stands at the end of a path, if all items before its indices remain after pruning. -/
def firm? : Value → List Step → Option Value
  | v, [] => some v
  | .map fs _, .key name :: path => (Fields.find? fs name).bind fun v => firm? v path
  | .list items _, .item i :: path =>
    if (items.take i).all survives then items[i]?.bind fun v => firm? v path else none
  | _, _ :: _ => none

theorem at?_nil (v : Value) : v.at? [] = some v := by
  cases v <;> rfl

theorem at?_key (fs : Fields) (mark : Option Mark) (name : String) (path : List Step) :
    at? (.map fs mark) (.key name :: path) = (Fields.find? fs name).bind fun v => v.at? path := rfl

theorem at?_item (items : List Value) (mark : Option Mark) (i : Nat) (path : List Step) :
    at? (.list items mark) (.item i :: path) = items[i]?.bind fun v => v.at? path := rfl

theorem at?_of_find? {fs : Fields} {name : String} {v : Value} (h : Fields.find? fs name = some v)
    (mark : Option Mark) (path : List Step) : at? (.map fs mark) (.key name :: path) = v.at? path := by
  rw [at?_key, h, Option.bind_some]

theorem at?_singleton_key (fs : Fields) (mark : Option Mark) (name : String) :
    at? (.map fs mark) [.key name] = Fields.find? fs name := by
  simp only [at?_key, at?_nil, Option.bind_fun_some]

theorem at?_of_getElem? {items : List Value} {i : Nat} {v : Value} (h : items[i]? = some v) (mark : Option Mark)
    (path : List Step) : at? (.list items mark) (.item i :: path) = v.at? path := by
  rw [at?_item, h, Option.bind_some]

theorem at?_append (v : Value) (path rest : List Step) :
    v.at? (path ++ rest) = (v.at? path).bind fun w => w.at? rest := by
  induction path generalizing v with
  | nil => cases v <;> rfl
  | cons step path ih =>
    cases v <;> cases step <;> try rfl
    · rename_i items mark i
      rw [List.cons_append, at?_item, at?_item, Option.bind_assoc]
      exact congrArg _ (funext ih)
    · rename_i fs mark name
      rw [List.cons_append, at?_key, at?_key, Option.bind_assoc]
      exact congrArg _ (funext ih)

theorem exists_map_of_at?_key {v w : Value} {name : String} {path : List Step}
    (h : v.at? (.key name :: path) = some w) :
    ∃ fs mark x, v = .map fs mark ∧ Fields.find? fs name = some x ∧ x.at? path = some w := by
  cases v with
  | scalar s mark => cases h
  | list items mark => cases h
  | map fs mark =>
    obtain ⟨x, hx, h⟩ := Option.bind_eq_some_iff.mp h
    exact ⟨fs, mark, x, rfl, hx, h⟩

theorem anySurvives_eq (xs : List Value) : anySurvives xs = xs.any survives := by
  induction xs with
  | nil => rfl
  | cons x xs ih => rw [anySurvives, List.any_cons, ih]

theorem isNull_prune (v : Value) : v.prune.isNull = !v.survives := by
  induction v using induct with
  | scalar s mark => cases s <;> rfl
  | map fs mark _ => rfl
  | list items mark ih =>
    have hkept : (pruneItems items).isEmpty = !items.any survives := by
      clear mark
      induction items with
      | nil => rfl
      | cons x xs ihx =>
        have hx := ih x List.mem_cons_self
        have hxs := ihx fun y hy => ih y (List.mem_cons_of_mem _ hy)
        rw [pruneItems, List.any_cons, Bool.not_or, ← hxs, ← hx]
        cases x.prune.isNull <;> rfl
    rw [prune, survives, anySurvives_eq, ← hkept]
    split <;> rename_i h
    · rw [h]
      rfl
    · rw [eq_false_of_ne_true h]
      rfl

theorem survives_plain (v : Value) : v.plain.survives = v.survives := by
  induction v using induct with
  | scalar s mark => rfl
  | map fs mark _ => rfl
  | list items mark ih =>
    rw [plain, survives, survives, anySurvives_eq, anySurvives_eq, plainItems_eq, List.any_map]
    clear mark
    induction items with
    | nil => rfl
    | cons x xs ihx =>
      rw [List.any_cons, List.any_cons, ihx fun y hy => ih y (List.mem_cons_of_mem _ hy)]
      exact congrArg (· || _) (ih x List.mem_cons_self)

theorem survives_of_firm? {v w : Value} {path : List Step} (h : v.firm? path = some w) (hw : w.survives = true) :
    v.survives = true := by
  induction path generalizing v with
  | nil =>
    obtain rfl : v = w := Option.some.inj h
    exact hw
  | cons step path ih =>
    cases v with
    | scalar s mark => cases step <;> cases h
    | map fs mark => rfl
    | list items mark =>
      cases step with
      | key name => cases h
      | item i =>
        rw [firm?] at h
        split at h
        · obtain ⟨x, hx, h⟩ := Option.bind_eq_some_iff.mp h
          rw [survives, anySurvives_eq, List.any_eq_true]
          exact ⟨x, List.mem_of_getElem? hx, ih h⟩
        · cases h

/-! ## Pruning -/

theorem find?_pruneEntries_of_survives {fs : Fields} {name : String} {v : Value} (h : Fields.find? fs name = some v)
    (hv : v.survives = true) : Fields.find? (pruneEntries fs) name = some v.prune := by
  induction fs with
  | nil => cases h
  | cons e fs ih =>
    obtain ⟨k, w⟩ := e
    rw [Fields.find?_cons] at h
    rw [pruneEntries]
    split at h <;> rename_i hk
    · obtain rfl : w = v := Option.some.inj h
      rw [isNull_prune, hv]
      simp [Fields.find?_cons, hk]
    · cases w.prune.isNull <;> simp [Fields.find?_cons, hk, ih h]

theorem getElem?_pruneItems {xs : List Value} {i : Nat} {x : Value} (hx : xs[i]? = some x) (hs : x.survives = true)
    (hbefore : (xs.take i).all survives = true) : (pruneItems xs)[i]? = some x.prune := by
  induction xs generalizing i with
  | nil => simp at hx
  | cons y ys ih =>
    rw [pruneItems, isNull_prune]
    cases i with
    | zero =>
      obtain rfl : y = x := by simpa using hx
      rw [hs]
      rfl
    | succ i =>
      rw [List.take_succ_cons, List.all_cons, Bool.and_eq_true] at hbefore
      rw [hbefore.1]
      exact ih (by simpa using hx) hbefore.2

/-- Pruning leaves what stands at a firm path. -/
theorem at?_prune {v w : Value} {path : List Step} (h : v.firm? path = some w) (hw : w.survives = true) :
    v.prune.at? path = some w.prune := by
  induction path generalizing v with
  | nil =>
    obtain rfl : v = w := Option.some.inj h
    cases v.prune <;> rfl
  | cons step path ih =>
    cases v with
    | scalar s mark => cases step <;> cases h
    | map fs mark =>
      cases step with
      | item i => cases h
      | key name =>
        obtain ⟨x, hx, h⟩ := Option.bind_eq_some_iff.mp h
        rw [prune, at?, find?_pruneEntries_of_survives hx (survives_of_firm? h hw)]
        exact ih h
    | list items mark =>
      cases step with
      | key name => cases h
      | item i =>
        rw [firm?] at h
        split at h
        · rename_i hbefore
          obtain ⟨x, hx, h⟩ := Option.bind_eq_some_iff.mp h
          have hkept := getElem?_pruneItems hx (survives_of_firm? h hw) hbefore
          have hne : (pruneItems items).isEmpty = false := by
            cases hp : pruneItems items with
            | nil => simp [hp] at hkept
            | cons y ys => rfl
          rw [prune, hne]
          change (pruneItems items)[i]?.bind (fun v => at? v path) = _
          rw [hkept]
          exact ih h
        · cases h

/-! ## Keeping scalars -/

/-- Every scalar of a value other than null that stands at a firm path stands there in another value, except for
those that count as lost. -/
def Keeps (lost : List Step → Scalar → Prop) (v w : Value) : Prop :=
  ∀ path s mark, s ≠ .null → v.firm? path = some (.scalar s mark) → ¬ lost path s →
    w.firm? path = some (.scalar s mark)

def nothing : List Step → Scalar → Prop :=
  fun _ _ => False

def lostBelow (place : List Step) (lost : List Step → Scalar → Prop) : List Step → Scalar → Prop :=
  fun path s => ∃ rest, path = place ++ rest ∧ lost rest s

variable {lost lost' : List Step → Scalar → Prop} {u v w : Value}

theorem lostBelow_cons {step : Step} {place path : List Step} {s : Scalar} (h : lostBelow place lost path s) :
    lostBelow (step :: place) lost (step :: path) s := by
  obtain ⟨rest, rfl, hl⟩ := h
  exact ⟨rest, rfl, hl⟩

theorem lostBelow_nil {path : List Step} {s : Scalar} (h : lost path s) : lostBelow [] lost path s :=
  ⟨path, rfl, h⟩

theorem Keeps.refl (lost : List Step → Scalar → Prop) (v : Value) : Keeps lost v v :=
  fun _ _ _ _ h _ => h

theorem Keeps.trans (h : Keeps lost u v) (h' : Keeps lost' v w) :
    Keeps (fun path s => lost path s ∨ lost' path s) u w := by
  intro path s mark hs hu hl
  exact h' path s mark hs (h path s mark hs hu fun hl' => hl (Or.inl hl')) fun hl' => hl (Or.inr hl')

theorem Keeps.mono (h : Keeps lost v w) (hl : ∀ path s, lost path s → lost' path s) : Keeps lost' v w :=
  fun path s mark hs hv hno => h path s mark hs hv fun hl' => hno (hl path s hl')

theorem keeps_null (lost : List Step → Scalar → Prop) {v : Value} (h : v.isNull = true) (w : Value) :
    Keeps lost v w := by
  intro path s mark hs hv
  obtain ⟨m, rfl⟩ := isNull_iff.mp h
  cases path with
  | nil =>
    obtain ⟨rfl, -⟩ := Value.scalar.inj (Option.some.inj hv)
    exact absurd rfl hs
  | cons step path => cases step <;> cases hv

/-- What is not written holds no scalar. -/
theorem keeps_of_not_isWritten (lost : List Step → Scalar → Prop) {v : Value} (h : Model.isWritten v = false)
    (w : Value) :
    Keeps lost v w := by
  cases v with
  | scalar s mark =>
    cases s with
    | null => exact keeps_null lost rfl w
    | _ => cases h
  | list items mark =>
    cases items with
    | cons x xs => cases h
    | nil =>
      intro path s m hs hv
      cases path with
      | nil => cases hv
      | cons step path => cases step <;> simp [firm?] at hv
  | map fs mark =>
    cases fs with
    | cons e fs => cases h
    | nil =>
      intro path s m hs hv
      cases path with
      | nil => cases hv
      | cons step path => cases step <;> simp [firm?] at hv

theorem firm?_key {fs : Fields} {mark : Option Mark} {name : String} {path : List Step} {s : Scalar}
    {m : Option Mark}
    (hs : s ≠ .null) : firm? (.map fs mark) (.key name :: path) = some (.scalar s m) ↔
      (Fields.get fs name).firm? path = some (.scalar s m) := by
  rw [firm?, Fields.get]
  cases Fields.find? fs name with
  | some v => rfl
  | none =>
    refine iff_of_false (by simp) fun h => ?_
    exact absurd (keeps_null nothing (v := .null) rfl (.ofFields []) path s m hs h id) (by
      cases path with
      | nil => simp [firm?]
      | cons step path => cases step <;> simp [firm?])

theorem Keeps.get {fs gs : Fields} {mark mark' : Option Mark} (h : Keeps lost (.map fs mark) (.map gs mark'))
    (name : String) :
    Keeps (fun path s => lost (.key name :: path) s) (Fields.get fs name) (Fields.get gs name) := by
  intro path s m hs hv hl
  rw [← firm?_key hs] at hv ⊢
  exact h (.key name :: path) s m hs hv hl

/-- A mapping keeps what its entries keep. -/
theorem keeps_map {fs gs : Fields} {mark mark' : Option Mark}
    (h : ∀ name, Keeps (fun path s => lost (.key name :: path) s) (Fields.get fs name) (Fields.get gs name)) :
    Keeps lost (.map fs mark) (.map gs mark') := by
  intro path s m hs hv hl
  cases path with
  | nil => cases hv
  | cons step path =>
    cases step with
    | item i => cases hv
    | key name =>
      rw [firm?_key hs] at hv ⊢
      exact h name path s m hs hv hl

/-- Setting an entry keeps what the new value keeps of the old one. -/
theorem keeps_set {fs : Fields} {name : String} {v : Value} {mark mark' : Option Mark}
    (h : Keeps (fun path s => lost (.key name :: path) s) (Fields.get fs name) v) :
    Keeps lost (.map fs mark) (.map (Fields.set fs name v) mark') := by
  refine keeps_map fun other => ?_
  by_cases hne : name = other
  · subst hne
    rw [Fields.get_set_self]
    exact h
  · rw [Fields.get_set_ne fs v hne]
    exact Keeps.refl _ _

/-- A list keeps what its items keep, if they remain. -/
theorem keeps_list {xs ys : List Value} {mark mark' : Option Mark}
    (h : ∀ i x, xs[i]? = some x → ∃ y, ys[i]? = some y ∧ Keeps (fun path s => lost (.item i :: path) s) x y ∧
      (x.survives = true → y.survives = true)) :
    Keeps lost (.list xs mark) (.list ys mark') := by
  intro path s m hs hv hl
  cases path with
  | nil => cases hv
  | cons step path =>
    cases step with
    | key name => cases hv
    | item i =>
      rw [firm?] at hv ⊢
      split at hv
      · rename_i hbefore
        obtain ⟨x, hx, hv⟩ := Option.bind_eq_some_iff.mp hv
        obtain ⟨y, hy, hkeeps, -⟩ := h i x hx
        have hbefore' : (ys.take i).all survives = true := by
          rw [List.all_eq_true] at hbefore ⊢
          intro z hz
          obtain ⟨j, hj⟩ := List.mem_iff_getElem?.mp hz
          rw [List.getElem?_take] at hj
          split at hj
          · rename_i hji
            have hlt : j < xs.length := by
              have := (List.getElem?_eq_some_iff.mp hx).1
              omega
            obtain ⟨y', hy', -, hsurv⟩ := h j xs[j] (List.getElem?_eq_getElem hlt)
            obtain rfl : z = y' := Option.some.inj (hj.symm.trans hy')
            refine hsurv (hbefore _ ?_)
            exact List.mem_iff_getElem?.mpr ⟨j, by rw [List.getElem?_take, if_pos hji, List.getElem?_eq_getElem hlt]⟩
          · cases hj
        rw [if_pos hbefore', hy]
        exact hkeeps path s m hs hv hl
      · cases hv

/-! ## Copies -/

end Value

namespace Fields

/-- Entries with different texts as keys. -/
structure Keyed (fs : Fields) : Prop where
  texts : ∀ e ∈ fs, e.1.text?.isSome
  distinct : Distinct fs

namespace Keyed

variable {fs gs : Fields}

theorem filter (h : Keyed fs) (p : Value × Value → Bool) : Keyed (fs.filter p) :=
  ⟨fun e he => h.texts e (List.mem_filter.mp he).1, h.distinct.filter p⟩

theorem of_map_fst (h : Keyed fs) (hkeys : gs.map Prod.fst = fs.map Prod.fst) : Keyed gs := by
  refine ⟨fun e he => ?_, ?_⟩
  · have hmem : e.1 ∈ gs.map Prod.fst := List.mem_map_of_mem he
    rw [hkeys] at hmem
    obtain ⟨e', he', heq⟩ := List.mem_map.mp hmem
    exact heq ▸ h.texts e' he'
  · rw [distinct_iff_map_fst, hkeys, ← distinct_iff_map_fst]
    exact h.distinct

theorem set (h : Keyed fs) (name : String) (v : Value) : Keyed (set fs name v) := by
  refine ⟨fun e he => ?_, h.distinct.set name v⟩
  rcases fst_of_mem_set he with ⟨e', he', heq⟩ | heq
  · exact heq ▸ h.texts e' he'
  · rw [heq]
    rfl

theorem isText_of_displayKey (h : Keyed fs) {name : String} :
    ∀ e ∈ fs, e.1.displayKey = name → e.1.isText name = true := by
  rintro ⟨k, v⟩ he rfl
  have hk := h.texts _ he
  cases k with
  | scalar s mark =>
    cases s with
    | text s style => simp [Value.isText, Value.text?, Value.displayKey, Value.display]
    | _ => cases hk
  | list items mark => cases hk
  | map fs mark => cases hk

/-- Look-up in the copy of entries with texts as keys. -/
theorem find?_plain (h : Keyed fs) (name : String) : find? (plain fs) name = (find? fs name).map Value.plain :=
  Fields.find?_plain h.distinct h.isText_of_displayKey

theorem get_plain (h : Keyed fs) (name : String) : get (plain fs) name = (get fs name).plain := by
  rw [get, get, h.find?_plain]
  cases find? fs name <;> rfl

/-- Keys that are different texts are different values. -/
theorem pairwise_same (h : Keyed fs) : fs.Pairwise fun e e' => e.1.same e'.1 = false := by
  have hnodup : fs.Pairwise fun e e' => ∀ a, e.1.text? = some a → ∀ b, e'.1.text? = some b → a ≠ b :=
    List.pairwise_filterMap.mp h.distinct
  refine hnodup.imp_of_mem fun {e e'} he he' hne => ?_
  obtain ⟨a, ha⟩ := Option.isSome_iff_exists.mp (h.texts e he)
  obtain ⟨b, hb⟩ := Option.isSome_iff_exists.mp (h.texts e' he')
  have hab : a ≠ b := hne a ha b hb
  obtain ⟨_, _, ha⟩ := Value.text?_eq_some_iff.mp ha
  obtain ⟨_, _, hb⟩ := Value.text?_eq_some_iff.mp hb
  rw [ha, hb]
  simpa [Value.same, Scalar.same, Scalar.whole?] using hab

end Keyed

end Fields

namespace Value

variable {lost : List Step → Scalar → Prop}

/-- A value with different texts as the keys of all its mappings. -/
inductive Textual : Value → Prop
  | scalar (s : Scalar) (mark : Option Mark) : Textual (.scalar s mark)
  | list {items : List Value} {mark : Option Mark} (h : ∀ x ∈ items, Textual x) : Textual (.list items mark)
  | map {fs : Fields} {mark : Option Mark} (keyed : fs.Keyed) (values : ∀ e ∈ fs, Textual e.2) :
      Textual (.map fs mark)

theorem Textual.of_get {fs : Fields} {mark : Option Mark} (h : Textual (.map fs mark)) (name : String) :
    Textual (Fields.get fs name) := by
  cases h with
  | map keyed values =>
    unfold Fields.get
    cases hv : Fields.find? fs name with
    | none => exact .scalar _ _
    | some v =>
      obtain ⟨k, hmem, -⟩ := Fields.mem_of_find? hv
      exact values _ hmem

theorem IsPlain.textual {v : Value} (h : v.IsPlain) : v.Textual := by
  induction v using induct with
  | scalar s mark => exact .scalar s mark
  | list items mark ih =>
    cases h with
    | list h => exact .list fun x hx => ih x hx (h x hx)
  | map fs mark ih =>
    cases h with
    | map keys distinct values =>
      refine .map ⟨fun e he => ?_, distinct⟩ fun e he => ih e he (values e he)
      obtain ⟨s, hs⟩ := keys e he
      rw [hs]
      rfl

/-- A copy keeps everything. -/
theorem keeps_plain (lost : List Step → Scalar → Prop) {v : Value} (h : v.Textual) : Keeps lost v v.plain := by
  induction v using induct generalizing lost with
  | scalar s mark => exact Keeps.refl lost _
  | list items mark ih =>
    cases h with
    | list h =>
      rw [plain, plainItems_eq]
      refine keeps_list fun i x hx => ⟨x.plain, by rw [List.getElem?_map, hx]; rfl, ?_, ?_⟩
      · have hmem := List.mem_of_getElem? hx
        exact ih x hmem _ (h x hmem)
      · rw [survives_plain]
        exact id
  | map fs mark ih =>
    change Keeps lost _ (.ofFields (Fields.plain fs))
    cases h with
    | map keyed values =>
      refine keeps_map fun name => ?_
      rw [keyed.get_plain]
      unfold Fields.get
      cases hv : Fields.find? fs name with
      | none => exact keeps_null _ rfl _
      | some v =>
        obtain ⟨k, hmem, -⟩ := Fields.mem_of_find? hv
        exact ih _ hmem _ (values _ hmem)

/-- What stands at a place of a copy. -/
theorem Textual.at?_plain {v : Value} (h : v.Textual) (path : List Step) :
    v.plain.at? path = (v.at? path).map plain := by
  induction path generalizing v with
  | nil => cases v <;> rfl
  | cons step path ih =>
    cases h with
    | scalar s mark => cases step <;> rfl
    | @list items mark h =>
      cases step with
      | key name => rfl
      | item i =>
        rw [plain, plainItems_eq]
        change ((items.map plain)[i]?.bind fun v => v.at? path) = (items[i]?.bind fun v => v.at? path).map plain
        rw [List.getElem?_map]
        cases hx : items[i]? with
        | none => rfl
        | some x => exact ih (h x (List.mem_of_getElem? hx))
    | @map fs mark keyed values =>
      cases step with
      | item i => rfl
      | key name =>
        rw [plain, at?_key, at?_key]
        change ((Fields.find? (Fields.plain fs) name).bind _) = _
        rw [keyed.find?_plain]
        cases hv : Fields.find? fs name with
        | none => rfl
        | some v =>
          obtain ⟨k, hmem, -⟩ := Fields.mem_of_find? hv
          exact ih (values _ hmem)

/-! ## Values without gaps -/

/-- A value none of whose lists holds a null or an empty list. -/
inductive Solid : Value → Prop
  | scalar (s : Scalar) (mark : Option Mark) : Solid (.scalar s mark)
  | list {items : List Value} {mark : Option Mark} (written : ∀ x ∈ items, x.isNull = false ∧ ∀ m, x ≠ .list [] m)
      (h : ∀ x ∈ items, Solid x) : Solid (.list items mark)
  | map {fs : Fields} {mark : Option Mark} (values : ∀ e ∈ fs, Solid e.2) : Solid (.map fs mark)

theorem Solid.survives {v : Value} (h : v.Solid) (hn : v.isNull = false) (he : ∀ m, v ≠ .list [] m) :
    v.survives = true := by
  induction v using induct with
  | scalar s mark => cases s <;> first | (cases hn; done) | rfl
  | map fs mark _ => rfl
  | list items mark ih =>
    cases items with
    | nil => exact absurd rfl (he mark)
    | cons x xs =>
      cases h with
      | list written h =>
        obtain ⟨hn, he⟩ := written x List.mem_cons_self
        rw [Value.survives, anySurvives, ih x List.mem_cons_self (h x List.mem_cons_self) hn he]
        rfl

/-- All places of a value without gaps are firm. -/
theorem Solid.firm?_eq {v : Value} (h : v.Solid) (path : List Step) : v.firm? path = v.at? path := by
  induction path generalizing v with
  | nil => cases v <;> rfl
  | cons step path ih =>
    cases h with
    | scalar s mark => cases step <;> rfl
    | map values =>
      cases step with
      | item i => rfl
      | key name =>
        rw [firm?, at?]
        cases hv : Fields.find? _ name with
        | none => rfl
        | some v =>
          obtain ⟨k, hmem, -⟩ := Fields.mem_of_find? hv
          exact ih (values _ hmem)
    | @list items mark written h =>
      cases step with
      | key name => rfl
      | item i =>
        have hall : (items.take i).all Value.survives = true := by
          rw [List.all_eq_true]
          intro x hx
          have hmem := List.mem_of_mem_take hx
          exact (h x hmem).survives (written x hmem).1 (written x hmem).2
        rw [firm?, at?, if_pos hall]
        cases hx : items[i]? with
        | none => rfl
        | some x => exact ih (h x (List.mem_of_getElem? hx))

/-! ## Values in order -/

/-- A value with different texts as keys, and without gaps. -/
structure Regular (v : Value) : Prop where
  textual : v.Textual
  solid : v.Solid

theorem Regular.scalar (s : Scalar) (mark : Option Mark) : Regular (.scalar s mark) :=
  ⟨.scalar s mark, .scalar s mark⟩

theorem Regular.of_mem_list {items : List Value} {mark : Option Mark} (h : Regular (.list items mark)) {x : Value}
    (hx : x ∈ items) : x.Regular := by
  obtain ⟨ht, hs⟩ := h
  cases ht with
  | list ht =>
    cases hs with
    | list written hs => exact ⟨ht x hx, hs x hx⟩

theorem Regular.of_mem_map {fs : Fields} {mark : Option Mark} (h : Regular (.map fs mark)) {e : Value × Value}
    (he : e ∈ fs) : e.2.Regular := by
  obtain ⟨ht, hs⟩ := h
  cases ht with
  | map keyed ht =>
    cases hs with
    | map hs => exact ⟨ht e he, hs e he⟩

theorem Regular.get {fs : Fields} {mark : Option Mark} (h : Regular (.map fs mark)) (name : String) :
    (Fields.get fs name).Regular := by
  unfold Fields.get
  cases hv : Fields.find? fs name with
  | none => exact .scalar _ _
  | some v =>
    obtain ⟨k, hmem, -⟩ := Fields.mem_of_find? hv
    exact h.of_mem_map hmem

theorem Regular.keyed {fs : Fields} {mark : Option Mark} (h : Regular (.map fs mark)) : fs.Keyed := by
  cases h.textual with
  | map keyed values => exact keyed

theorem Regular.map {fs : Fields} (hkeyed : fs.Keyed) (hvalues : ∀ e ∈ fs, e.2.Regular) (mark : Option Mark) :
    Regular (.map fs mark) :=
  ⟨.map hkeyed fun e he => (hvalues e he).textual, .map fun e he => (hvalues e he).solid⟩

theorem Regular.set {fs : Fields} {mark : Option Mark} (h : Regular (.map fs mark)) (name : String) {v : Value}
    (hv : v.Regular) (mark' : Option Mark) : Regular (.map (Fields.set fs name v) mark') := by
  refine .map (h.keyed.set name v) (fun e he => ?_) mark'
  rcases Fields.mem_set he with he | he
  · exact h.of_mem_map he
  · exact he ▸ hv

end Value

/-- Arranging entries leaves what stands at a firm path below one of them, if anything remains of it. -/
theorem Manifest.at?_arrange {fs : Fields} (h : fs.Named) {name : String} {path : List Value.Step} {w : Value}
    (hfirm : (Value.ofFields fs).firm? (.key name :: path) = some w) (hw : w.survives = true) :
    (Value.ofFields (arrange fs)).at? (.key name :: path) = some w.prune := by
  rw [Value.at?_key, arrange, find?_order h.prune.distinct]
  exact Value.at?_prune hfirm hw

end KubeManifest
