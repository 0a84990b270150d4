import KubeManifest.Proofs.Merge.Variables
import KubeManifest.Proofs.Value.Proper

/-!
# Variables as a store

A list of variables is a store of values by name, even if a name comes again or a value is blank. Writing is about the
first variable of a name, while reading passes over the blank ones.

* `EnvVar.FirstAt` : where the first variable of a name stands;
* `EnvVar.Puts`, `EnvVar.PutsIfAbsent` : what becomes of the list when a value is set, and what is answered;
* `EnvVar.puts_iff`, `EnvVar.putsIfAbsent_iff` : setting does this;
* `EnvVar.lookup_eq`, `EnvVar.Puts.find?_tells_self`, `EnvVar.Puts.find?_tells_ne` : what is read afterwards;
* `EnvVar.put_store` : all of it together, with the names that stay distinct.
-/

namespace KubeManifest.EnvVar

variable {env before after env' : List EnvVar} {v w : EnvVar} {name other value : String} {fallback : Value}

/-- A variable whose value is null or a text. -/
def Valued (v : EnvVar) : Prop :=
  v.value.isNull ∨ v.value.text?.isSome

/-- Variables that differ by name. -/
def Distinct (env : List EnvVar) : Prop :=
  env.Pairwise fun v w => v.name.same w.name = false

/-! ## The first variable of a name -/

/-- A list in which no variable has a name. -/
def Lacks (env : List EnvVar) (name : String) : Prop :=
  ∀ v ∈ env, v.name.text? ≠ some name

structure FirstAt (env before : List EnvVar) (v : EnvVar) (after : List EnvVar) (name : String) : Prop where
  eq : env = before ++ v :: after
  named : v.name.text? = some name
  first : Lacks before name

theorem same_name_iff : v.name.same (.ofString name) = true ↔ v.name.text? = some name := by
  rw [Value.same_ofString, Value.isText, beq_iff_eq]

theorem same_name_eq_false_iff : v.name.same (.ofString name) = false ↔ v.name.text? ≠ some name := by
  rw [← Bool.not_eq_true, same_name_iff]

theorem same_value_iff : v.value.same (.ofString value) = true ↔ v.value.text? = some value := by
  rw [Value.same_ofString, Value.isText, beq_iff_eq]

theorem same_value_eq_false_iff : v.value.same (.ofString value) = false ↔ v.value.text? ≠ some value := by
  rw [← Bool.not_eq_true, same_value_iff]

theorem find?_eq_none_iff : find? env (.ofString name) = none ↔ Lacks env name := by
  simp only [find?_eq_none, same_name_eq_false_iff, Lacks]

theorem find?_eq_some_iff : find? env (.ofString name) = some v ↔ ∃ before after, FirstAt env before v after name := by
  simp only [find?, List.find?_eq_some_iff_append, same_name_iff, Bool.not_eq_true', same_name_eq_false_iff]
  constructor
  · rintro ⟨hnamed, before, after, heq, hfirst⟩
    exact ⟨before, after, heq, hnamed, hfirst⟩
  · rintro ⟨before, after, heq, hnamed, hfirst⟩
    exact ⟨hnamed, before, after, heq, hfirst⟩

theorem FirstAt.find?_eq (h : FirstAt env before v after name) : find? env (.ofString name) = some v :=
  find?_eq_some_iff.mpr ⟨before, after, h⟩

/-- Either no variable has a name, or there is a first one. -/
theorem lacks_or_firstAt (env : List EnvVar) (name : String) :
    Lacks env name ∨ ∃ before v after, FirstAt env before v after name := by
  cases hfind : find? env (.ofString name) with
  | none => exact .inl (find?_eq_none_iff.mp hfind)
  | some v =>
    obtain ⟨before, after, h⟩ := find?_eq_some_iff.mp hfind
    exact .inr ⟨before, v, after, h⟩

/-! ## Writing -/

/-- What becomes of variables when a value is set, and whether that changes them: the first variable of the name has
the value already, or takes it, or there is none and one is added. -/
inductive Puts (env : List EnvVar) (name value : String) : List EnvVar → Bool → Prop
  | kept {before after : List EnvVar} {v : EnvVar} (h : FirstAt env before v after name)
      (hvalue : v.value.text? = some value) : Puts env name value env false
  | changed {before after : List EnvVar} {v : EnvVar} (h : FirstAt env before v after name)
      (hvalue : v.value.text? ≠ some value) :
      Puts env name value (before ++ { v with value := .ofString value } :: after) true
  | added (h : Lacks env name) :
      Puts env name value (env ++ [{ name := .ofString name, value := .ofString value }]) true

/-- What becomes of variables when a value is set that does not count if the name is there, and the variable that has
another value. -/
inductive PutsIfAbsent (env : List EnvVar) (name value : String) : List EnvVar → Option EnvVar → Prop
  | kept {before after : List EnvVar} {v : EnvVar} (h : FirstAt env before v after name)
      (hvalue : v.value.text? = some value) : PutsIfAbsent env name value env none
  | refused {before after : List EnvVar} {v : EnvVar} (h : FirstAt env before v after name)
      (hvalue : v.value.text? ≠ some value) : PutsIfAbsent env name value env (some v)
  | added (h : Lacks env name) :
      PutsIfAbsent env name value (env ++ [{ name := .ofString name, value := .ofString value }]) none

theorem put_of_lacks (h : Lacks env name) (value : Value) :
    put env (.ofString name) value = env ++ [{ name := .ofString name, value := value }] := by
  induction env with
  | nil => rfl
  | cons v env ih =>
    obtain ⟨hv, henv⟩ := List.forall_mem_cons.mp h
    rw [put, if_neg (mt same_name_iff.mp hv), ih henv, List.cons_append]

theorem FirstAt.put_eq (h : FirstAt env before v after name) (value : Value) :
    put env (.ofString name) value = before ++ (if v.value.same value then v else { v with value }) :: after := by
  obtain ⟨rfl, hnamed, hfirst⟩ := h
  induction before with
  | nil => rw [List.nil_append, put, if_pos (same_name_iff.mpr hnamed), List.nil_append]
  | cons w before ih =>
    obtain ⟨hw, hfirst⟩ := List.forall_mem_cons.mp hfirst
    rw [List.cons_append, put, if_neg (mt same_name_iff.mp hw), ih hfirst, List.cons_append]

theorem Puts.eq {changed : Bool} (h : Puts env name value env' changed) :
    put env (.ofString name) (.ofString value) = env' ∧
      putChanges env (.ofString name) (.ofString value) = changed := by
  unfold putChanges
  cases h with
  | kept h hvalue =>
    have hsame := same_value_iff.mpr hvalue
    exact ⟨by rw [h.put_eq, if_pos hsame, ← h.eq], by rw [h.find?_eq, Option.all_some, hsame]; rfl⟩
  | changed h hvalue =>
    have hsame := same_value_eq_false_iff.mpr hvalue
    exact ⟨by rw [h.put_eq, hsame]; rfl, by rw [h.find?_eq, Option.all_some, hsame]; rfl⟩
  | added h => exact ⟨put_of_lacks h _, by rw [find?_eq_none_iff.mpr h]; rfl⟩

theorem exists_puts (env : List EnvVar) (name value : String) : ∃ env' changed, Puts env name value env' changed := by
  rcases lacks_or_firstAt env name with h | ⟨before, v, after, h⟩
  · exact ⟨_, _, .added h⟩
  · by_cases hvalue : v.value.text? = some value
    · exact ⟨_, _, .kept h hvalue⟩
    · exact ⟨_, _, .changed h hvalue⟩

/-- Setting a value does this, and tells whether it changes anything. -/
theorem puts_iff {changed : Bool} : Puts env name value env' changed ↔
    put env (.ofString name) (.ofString value) = env' ∧
      putChanges env (.ofString name) (.ofString value) = changed := by
  refine ⟨Puts.eq, ?_⟩
  rintro ⟨rfl, rfl⟩
  obtain ⟨env', changed, h⟩ := exists_puts env name value
  obtain ⟨rfl, rfl⟩ := h.eq
  exact h

theorem PutsIfAbsent.eq {found : Option EnvVar} (h : PutsIfAbsent env name value env' found) :
    putIfAbsent env (.ofString name) (.ofString value) = env' ∧
      conflict? env (.ofString name) (.ofString value) = found := by
  unfold putIfAbsent conflict?
  cases h with
  | kept h hvalue =>
    have hsame := same_value_iff.mpr hvalue
    exact ⟨by rw [h.find?_eq]; rfl, by rw [h.find?_eq, Option.filter_some, hsame]; rfl⟩
  | refused h hvalue =>
    have hsame := same_value_eq_false_iff.mpr hvalue
    exact ⟨by rw [h.find?_eq]; rfl, by rw [h.find?_eq, Option.filter_some, hsame]; rfl⟩
  | added h => rw [find?_eq_none_iff.mpr h]; exact ⟨rfl, rfl⟩

theorem exists_putsIfAbsent (env : List EnvVar) (name value : String) :
    ∃ env' found, PutsIfAbsent env name value env' found := by
  rcases lacks_or_firstAt env name with h | ⟨before, v, after, h⟩
  · exact ⟨_, _, .added h⟩
  · by_cases hvalue : v.value.text? = some value
    · exact ⟨_, _, .kept h hvalue⟩
    · exact ⟨_, _, .refused h hvalue⟩

theorem putsIfAbsent_iff {found : Option EnvVar} : PutsIfAbsent env name value env' found ↔
    putIfAbsent env (.ofString name) (.ofString value) = env' ∧
      conflict? env (.ofString name) (.ofString value) = found := by
  refine ⟨PutsIfAbsent.eq, ?_⟩
  rintro ⟨rfl, rfl⟩
  obtain ⟨env', found, h⟩ := exists_putsIfAbsent env name value
  obtain ⟨rfl, rfl⟩ := h.eq
  exact h

/-! ## Names -/

theorem Lacks.distinct_append (h : Lacks env name) (henv : Distinct env) (hname : v.name = .ofString name) :
    Distinct (env ++ [v]) := by
  refine List.pairwise_append.mpr ⟨henv, List.pairwise_singleton _ _, fun w hw v' hv => ?_⟩
  obtain rfl := List.mem_singleton.mp hv
  rw [hname]
  exact same_name_eq_false_iff.mpr (h w hw)

theorem Puts.distinct {changed : Bool} (h : Puts env name value env' changed) (henv : Distinct env) :
    Distinct env' := by
  cases h with
  | kept => exact henv
  | changed h =>
    rw [h.eq] at henv
    unfold Distinct at henv ⊢
    simpa [List.pairwise_append, List.pairwise_cons] using henv
  | added h => exact h.distinct_append henv rfl

theorem PutsIfAbsent.distinct {found : Option EnvVar} (h : PutsIfAbsent env name value env' found)
    (henv : Distinct env) : Distinct env' := by
  cases h with
  | kept => exact henv
  | refused => exact henv
  | added h => exact h.distinct_append henv rfl

/-! ## Reading -/

/-- Whether a variable has a name, and a value that is not blank. -/
def tells (v : EnvVar) (name : String) : Bool :=
  v.name.isText name && v.value.text?.any fun text => !Text.isBlankText text

theorem tells_eq_false (h : v.name.text? ≠ some name) : v.tells name = false := by
  have hname : v.name.isText name = false := by simpa [Value.isText] using h
  rw [tells, hname, Bool.false_and]

theorem tells_of_text (h : v.name.text? = some name) (hvalue : v.value.text? = some value)
    (hblank : Text.isBlankText value = false) : v.tells name = true := by
  simp [tells, Value.isText, h, hvalue, hblank]

/-- The value that is read is that of the first variable of the name whose value is not blank. -/
theorem lookup_eq (henv : ∀ v ∈ env, v.Valued) (name : String) (fallback : Value) :
    lookup env (.ofString name) fallback = .ok (((env.find? (·.tells name)).map (·.value)).getD fallback) := by
  induction env with
  | nil => rfl
  | cons v env ih =>
    obtain ⟨hv, henv⟩ := List.forall_mem_cons.mp henv
    rw [lookup, ih henv, Value.same_ofString, List.find?_cons]
    rcases hv with hnull | htext
    · obtain ⟨mark, hnull⟩ := Value.isNull_iff.mp hnull
      simp [tells, hnull, Value.isTruthy, Value.text?]
    · obtain ⟨text, htext⟩ := Option.isSome_iff_exists.mp htext
      obtain ⟨style, mark, hvalue⟩ := Value.text?_eq_some_iff.mp htext
      cases hname : v.name.isText name
      · simp [tells, hname]
      · by_cases hempty : text = ""
        · simp [tells, hname, hvalue, hempty, Value.isTruthy, Value.text?]
        · cases hblank : Text.isBlankText text <;>
            simp [tells, hname, hvalue, hempty, hblank, Value.isTruthy, Value.text?]

theorem Lacks.find?_tells (h : Lacks env name) : env.find? (·.tells name) = none :=
  List.find?_eq_none.mpr fun v hv => by simp [tells_eq_false (h v hv)]

theorem Lacks.find?_tells_append (h : Lacks before name) (hv : v.tells name = true) (after : List EnvVar) :
    (before ++ v :: after).find? (·.tells name) = some v := by
  rw [List.find?_append, h.find?_tells, Option.none_or, List.find?_cons, hv]

theorem Puts.valued {changed : Bool} (h : Puts env name value env' changed) (henv : ∀ v ∈ env, v.Valued) :
    ∀ v ∈ env', v.Valued := by
  cases h with
  | kept => exact henv
  | changed h =>
    rw [h.eq] at henv
    simp only [List.forall_mem_append, List.forall_mem_cons] at henv ⊢
    exact ⟨henv.1, .inr rfl, henv.2.2⟩
  | added h => exact List.forall_mem_append.mpr ⟨henv, List.forall_mem_singleton.mpr (.inr rfl)⟩

/-- The value that was set is read, unless it is blank. -/
theorem Puts.find?_tells_self {changed : Bool} (h : Puts env name value env' changed)
    (hblank : Text.isBlankText value = false) :
    ∃ v, env'.find? (·.tells name) = some v ∧ v.value.text? = some value := by
  cases h with
  | kept h hvalue =>
    rw [h.eq]
    exact ⟨_, h.first.find?_tells_append (tells_of_text h.named hvalue hblank) _, hvalue⟩
  | @changed _ _ v h _ =>
    have htells : EnvVar.tells { v with value := .ofString value } name = true := tells_of_text h.named rfl hblank
    exact ⟨_, h.first.find?_tells_append htells _, rfl⟩
  | added h => exact ⟨_, h.find?_tells_append (tells_of_text rfl rfl hblank) [], rfl⟩

/-- What is found under other names does not change. -/
theorem Puts.find?_tells_ne {changed : Bool} (h : Puts env name value env' changed) (hne : name ≠ other) :
    env'.find? (·.tells other) = env.find? (·.tells other) := by
  have hother : ∀ {v : EnvVar}, v.name.text? = some name → v.tells other = false :=
    fun hv => tells_eq_false fun heq => hne (Option.some.inj (hv.symm.trans heq))
  cases h with
  | kept => rfl
  | @changed before after v h hvalue =>
    have hnew : EnvVar.tells { v with value := .ofString value } other = false := hother h.named
    rw [h.eq, List.find?_append, List.find?_append, List.find?_cons, List.find?_cons, hnew, hother h.named]
  | added h =>
    have hnew : EnvVar.tells { name := .ofString name, value := .ofString value } other = false := hother rfl
    rw [List.find?_append, List.find?_singleton, hnew]
    simp

/-! ## The store -/

/-- **Variables are a store by name.** Setting a value is about the first variable of the name, answers whether it
changes anything, and adds a variable only if there is none; what is set with respect for what is there is refused
exactly if the first variable of the name has another value. Afterwards the value is read, unless it is blank, and
under other names what was read before. Names that differ go on to do so. -/
theorem put_store {env : List EnvVar} (henv : ∀ v ∈ env, v.Valued) {name other : String} (hne : name ≠ other)
    (value : String) (fallback : Value) :
    let set := put env (.ofString name) (.ofString value)
    let added := putIfAbsent env (.ofString name) (.ofString value)
    (∀ env' changed, Puts env name value env' changed ↔
      set = env' ∧ putChanges env (.ofString name) (.ofString value) = changed) ∧
    (∀ env' found, PutsIfAbsent env name value env' found ↔
      added = env' ∧ conflict? env (.ofString name) (.ofString value) = found) ∧
    (Text.isBlankText value = false → ∃ w, lookup set (.ofString name) fallback = .ok w ∧ w.text? = some value) ∧
    (∃ w, lookup env (.ofString other) fallback = .ok w ∧ lookup set (.ofString other) fallback = .ok w) ∧
    (Distinct env → Distinct set ∧ Distinct added) := by
  intro set added
  have hput : Puts env name value set (putChanges env (.ofString name) (.ofString value)) := puts_iff.mpr ⟨rfl, rfl⟩
  have hadded : PutsIfAbsent env name value added (conflict? env (.ofString name) (.ofString value)) :=
    putsIfAbsent_iff.mpr ⟨rfl, rfl⟩
  refine ⟨fun _ _ => puts_iff, fun _ _ => putsIfAbsent_iff, fun hblank => ?_, ?_,
    fun hdistinct => ⟨hput.distinct hdistinct, hadded.distinct hdistinct⟩⟩
  · obtain ⟨v, hfind, hvalue⟩ := hput.find?_tells_self hblank
    refine ⟨v.value, ?_, hvalue⟩
    rw [lookup_eq (hput.valued henv), hfind, Option.map_some, Option.getD_some]
  · refine ⟨_, lookup_eq henv other fallback, ?_⟩
    rw [lookup_eq (hput.valued henv), hput.find?_tells_ne hne]

/-- The first variable of the name is blank, the second is not, and the third has no name. -/
theorem put_store_twice :
    let env : List EnvVar :=
      [{ name := .ofString "A", value := .ofString " " }, { name := .ofString "A", value := .ofString "1" },
        { value := .ofString "2" }, { name := .ofString "B" }]
    (∀ v ∈ env, v.Valued) ∧ "A" ≠ "B" ∧ Text.isBlankText "3" = false ∧ Distinct (env.drop 1) ∧
      (∀ env' changed, Puts env "A" "3" env' changed ↔
        put env (.ofString "A") (.ofString "3") = env' ∧
          putChanges env (.ofString "A") (.ofString "3") = changed) ∧
      (∃ w, lookup (put env (.ofString "A") (.ofString "3")) (.ofString "A") .null = .ok w ∧ w.text? = some "3") ∧
      (Distinct (put (env.drop 1) (.ofString "A") (.ofString "3"))) := by
  intro env
  have henv : ∀ v ∈ env, v.Valued := by simp [env, Valued]
  have hrest : ∀ v ∈ env.drop 1, v.Valued := fun v hv => henv v (List.mem_of_mem_drop hv)
  have hdistinct : Distinct (env.drop 1) := by simp [env, Distinct]; decide
  have hblank : Text.isBlankText "3" = false := by decide
  obtain ⟨hput, -, hread, -, -⟩ := put_store henv (by decide : "A" ≠ "B") "3" .null
  exact ⟨henv, by decide, hblank, hdistinct, hput, hread hblank,
    ((put_store hrest (by decide : "A" ≠ "B") "3" .null).2.2.2.2 hdistinct).1⟩

end KubeManifest.EnvVar
