import KubeManifest.Proofs.Merge.GapFilling

/-!
# Merging again changes nothing

The second merge of the same default takes other ways than the first one: a container that was filled is
full, one that was added meets itself, and a default port that was passed over meets a longer list. That a conflict
with a port is not transitive does no harm, because a default port is either added, and conflicts with
itself from then on, or conflicts with a port that stays where it is.

* `Value.isName` : what can serve as a name, and equals itself;
* `PodSpec.Identified` : default containers whose variables and ports can be told apart;
* `Container.merge_again`, `PodSpec.mergeContainers_mergeContainers` : containers, one and many;
* `PodSpec.merge_merge` : specifications.
-/

namespace KubeManifest

/-! ## What is merged -/

/-- Whether a value is null, a text or a whole number. -/
def Value.isName : Value → Bool
  | .scalar .null _ | .scalar (.text _ _) _ | .scalar (.int _ _) _ => true
  | _ => false

theorem Value.same_self {v : Value} (h : v.isName) : v.same v = true := by
  unfold isName at h
  split at h
  · rfl
  · simp [same, Scalar.same, Scalar.whole?]
  · simp [same, Scalar.same, Scalar.whole?]
  · simp at h

/-- A port with a name or a number. -/
structure ContainerPort.Identified (p : ContainerPort) : Prop where
  name : p.name.isName
  containerPort : p.containerPort.isName
  given : p.name.isNull = false ∨ p.containerPort.isNull = false

/-- A container without nulls among its variables and ports, which have names and numbers. -/
structure Container.Identified (c : Container) : Prop where
  env : ∀ e ∈ c.envList, ∃ v, e = some v ∧ v.name.isName
  ports : ∀ e ∈ c.portList, ∃ p, e = some p ∧ p.Identified

/-- A specification whose containers are all there, with variables and ports that can be told apart. -/
def PodSpec.Identified (d : PodSpec) : Prop :=
  ∀ c ∈ d.list, ∃ m, c = some m ∧ m.Identified

theorem ContainerPort.conflicts_self {p : ContainerPort} (h : p.Identified) : p.conflicts p = true := by
  have hname := Value.same_self h.name
  have hnumber := Value.same_self h.containerPort
  rcases h.given with hg | hg <;> simp [conflicts, sameGiven, hg, hname, hnumber]

/-! ## Containers -/

namespace Container

section

variable {d : Container} (hd : d.Identified)

include hd

theorem Identified.hasNameOf_self : ∀ a ∈ d.envList, EnvVar.hasNameOf a a = .ok true := by
  intro a ha
  obtain ⟨v, rfl, hv⟩ := hd.env a ha
  exact congrArg Except.ok (Value.same_self hv)

theorem Identified.conflicts?_self : ∀ a ∈ d.portList, ContainerPort.conflicts? a a = .ok true := by
  intro a ha
  obtain ⟨p, rfl, hp⟩ := hd.ports a ha
  exact congrArg Except.ok (ContainerPort.conflicts_self hp)

theorem Identified.exists_hasNameOf :
    ∀ x ∈ d.envList, ∀ a ∈ d.envList, ∃ b, EnvVar.hasNameOf x a = .ok b := by
  intro x hx a ha
  obtain ⟨v, rfl, -⟩ := hd.env x hx
  obtain ⟨w, rfl, -⟩ := hd.env a ha
  exact EnvVar.exists_hasNameOf rfl rfl

theorem Identified.exists_conflicts? :
    ∀ x ∈ d.portList, ∀ a ∈ d.portList, ∃ b, ContainerPort.conflicts? x a = .ok b := by
  intro x hx a ha
  obtain ⟨p, rfl, -⟩ := hd.ports x hx
  obtain ⟨q, rfl, -⟩ := hd.ports a ha
  exact ContainerPort.exists_conflicts? rfl rfl

end

theorem fill_fill (v other : Value) : fill (fill v other) other = fill v other := by
  unfold fill
  split <;> simp_all

theorem fill_self (v : Value) : fill v v = v := by
  unfold fill
  split <;> rfl

theorem orElse_orElse {α : Type} (a b : Option α) : ((a <|> b) <|> b) = (a <|> b) := by
  cases a <;> cases b <;> rfl

theorem orElse_self {α : Type} (a : Option α) : (a <|> a) = a := by
  cases a <;> rfl

/-- What is full has no gaps left, with the variables and ports that it got. -/
theorem fillParts_fillFields_filled (t d : Container) (env : Option (List (Option EnvVar)))
    (ports : Option (List (Option ContainerPort))) :
    let c := fillParts { t.fillFields d with env := env, ports := ports } d
    fillParts { c.fillFields d with env := env, ports := ports } d = c := by
  simp only [fillParts, fillFields, fill_fill, orElse_orElse]

theorem fillParts_fillFields_self (d : Container) :
    fillParts { d.fillFields d with env := d.env, ports := d.ports } d = d := by
  simp only [fillParts, fillFields, fill_self, orElse_self]

/-- A container that was filled stays as it is when it is filled again. -/
theorem merge_again {t d c : Container} (hd : d.Identified) (h : t.merge d = ⟨c, none⟩) :
    c.merge d = ⟨c, none⟩ := by
  obtain ⟨env, ports, henv, hports, rfl⟩ := merge_eq_iff.mp h
  refine merge_eq_iff.mpr ⟨env, ports, ?_, ?_, (fillParts_fillFields_filled t d env ports).symm⟩
  · exact EnvVar.adds.addTo_addTo henv hd.hasNameOf_self
  · exact ContainerPort.adds.addTo_addTo hports hd.conflicts?_self

/-- A container that was added stays as it is when it is filled from itself. -/
theorem merge_self {d : Container} (hd : d.Identified) : d.merge d = ⟨d, none⟩ := by
  refine merge_eq_iff.mpr ⟨d.env, d.ports, ?_, ?_, (fillParts_fillFields_self d).symm⟩
  · exact EnvVar.adds.addTo_self hd.exists_hasNameOf hd.hasNameOf_self
  · exact ContainerPort.adds.addTo_self hd.exists_conflicts? hd.conflicts?_self

end Container

/-! ## Lists of containers -/

namespace PodSpec

theorem mergeContainers_cons_of_merge {t d c : Container} (ts ds : List (Option Container))
    (h : t.merge d = ⟨c, none⟩) :
    mergeContainers (some t :: ts) (some d :: ds) = (mergeContainers ts ds).within (some c :: ·) := by
  rw [mergeContainers, mergeOne, h, Merged.within_mk]

theorem mergeContainers_nil_left (ds : List (Option Container)) : mergeContainers [] ds = ⟨ds, none⟩ := by
  cases ds <;> rfl

theorem mergeContainers_self {ds : List (Option Container)} (hd : ∀ c ∈ ds, ∃ m, c = some m ∧ m.Identified) :
    mergeContainers ds ds = ⟨ds, none⟩ := by
  induction ds with
  | nil => rfl
  | cons d ds ih =>
    obtain ⟨d, rfl, hm⟩ := hd d List.mem_cons_self
    rw [mergeContainers_cons_of_merge ds ds (Container.merge_self hm),
      ih fun c hc => hd c (List.mem_cons_of_mem _ hc), Merged.within_mk]

/-- The places of the target are filled again, and those beyond it meet the containers they were taken from. -/
theorem mergeContainers_mergeContainers {ts ds rs : List (Option Container)}
    (hd : ∀ c ∈ ds, ∃ m, c = some m ∧ m.Identified) (h : mergeContainers ts ds = ⟨rs, none⟩) :
    mergeContainers rs ds = ⟨rs, none⟩ := by
  induction ts generalizing ds rs with
  | nil =>
    rw [mergeContainers_nil_left] at h
    obtain rfl : ds = rs := congrArg Merged.result h
    exact mergeContainers_self hd
  | cons t ts ih =>
    cases ds with
    | nil => cases rs <;> rfl
    | cons d ds =>
      rw [mergeContainers] at h
      rcases ho : mergeOne t d with ⟨c, _ | m⟩
      · obtain ⟨t, d, c, rfl, rfl, rfl, hm⟩ := mergeOne_of_none ho
        obtain ⟨m, hm', hid⟩ := hd (some d) List.mem_cons_self
        obtain rfl : d = m := Option.some.inj hm'
        rw [ho] at h
        rcases hr : mergeContainers ts ds with ⟨rest, misfit⟩
        rw [hr] at h
        simp only [Merged.within_mk, Merged.mk.injEq] at h
        obtain ⟨rfl, rfl⟩ := h
        rw [mergeContainers_cons_of_merge rest ds (Container.merge_again hid hm),
          ih (fun c hc => hd c (List.mem_cons_of_mem _ hc)) hr, Merged.within_mk]
      · rw [ho] at h
        simp at h

/-! ## The name of the first container -/

/-- The name that was given is a text, so it can be looked into: where it is blank it is given again. -/
theorem nameFirst_nameFirst {fallback : Value} (hf : fallback.text?.isSome) {cs rs : List (Option Container)}
    (h : nameFirst fallback cs = ⟨rs, none⟩) : nameFirst fallback rs = ⟨rs, none⟩ := by
  rcases nameFirst_cases h with ⟨rfl, -⟩ | ⟨c, rest, rfl, -, rfl⟩
  · exact h
  · rw [nameFirst, lacksName_eq (Or.inr hf)]
    cases ({ c with name := fallback } : Container).isNameless <;> rfl

/-! ## Specifications -/

/-- **Merging is idempotent.** When a specification was filled from a default one, filling it again from the same
one comes to its end and changes nothing. -/
theorem merge_merge {t d r : PodSpec} {fallback : Value} (hf : fallback.text?.isSome) (hd : d.Identified)
    (h : (t.merge d fallback).finished = .ok r) : (r.merge d fallback).finished = .ok r := by
  unfold merge at h ⊢
  split at h
  · -- without default containers only the first name may have changed
    cases hc : t.containers with
    | none =>
      simp only [hc, Merged.finished_none, Except.ok.injEq] at h
      subst h
      simp [hc]
    | some cs =>
      rw [hc] at h
      rcases hn : nameFirst fallback cs with ⟨rs, _ | m⟩
      · simp only [hn, Merged.within_mk, Merged.finished_none, Except.ok.injEq] at h
        subst h
        simp [nameFirst_nameFirst hf hn]
      · simp [hn, Merged.finished] at h
  · rcases hm : mergeContainers (t.containers.getD []) (d.containers.getD []) with ⟨rs, _ | m⟩
    · simp only [hm, Merged.within_mk, Merged.finished_none, Except.ok.injEq] at h
      subst h
      have hr : mergeContainers rs (d.containers.getD []) = ⟨rs, none⟩ := mergeContainers_mergeContainers hd hm
      simp [hr]
    · simp [hm, Merged.finished] at h

/-- One written container, and two default ones. Of three default ports the first is taken by its number, the
second is added, and the third conflicts with the second by its name. -/
theorem merge_merge_web :
    let web : Container :=
      { name := .ofString "web", env := some [some { name := .ofString "A" }]
        ports := some [some { containerPort := .ofInt 80 }] }
    let app : Container :=
      { image := .ofString "app:1", env := some [some { name := .ofString "A" }, some { name := .ofString "B" }]
        ports := some [some { name := .ofString "http", containerPort := .ofInt 80 },
          some { name := .ofString "http", containerPort := .ofInt 8080 }, some { name := .ofString "http" }] }
    let t : PodSpec := { containers := some [some web] }
    let d : PodSpec := { containers := some [some app, some {}] }
    let r : PodSpec :=
      { containers := some [some { web with
          image := .ofString "app:1", env := some [some { name := .ofString "A" }, some { name := .ofString "B" }]
          ports := some [some { containerPort := .ofInt 80 },
            some { name := .ofString "http", containerPort := .ofInt 8080 }] }, some {}] }
    (Value.ofString "shop").text?.isSome ∧ d.Identified ∧ (t.merge d (.ofString "shop")).finished = .ok r ∧
      (r.merge d (.ofString "shop")).finished = .ok r := by
  intro web app t d r
  have happ : app.Identified := by
    refine ⟨fun e he => ?_, fun e he => ?_⟩
    · simp only [app, Container.envList, Option.getD_some, List.mem_cons, List.not_mem_nil, or_false] at he
      rcases he with rfl | rfl <;> exact ⟨_, rfl, rfl⟩
    · simp only [app, Container.portList, Option.getD_some, List.mem_cons, List.not_mem_nil, or_false] at he
      rcases he with rfl | rfl | rfl <;> exact ⟨_, rfl, by decide, by decide, by decide⟩
  have hempty : ({} : Container).Identified := ⟨by simp [Container.envList], by simp [Container.portList]⟩
  have hd : d.Identified := by
    intro c hc
    rcases List.mem_cons.mp hc with rfl | hc
    · exact ⟨app, rfl, happ⟩
    · exact ⟨{}, List.mem_singleton.mp hc, hempty⟩
  have h : (t.merge d (.ofString "shop")).finished = .ok r := rfl
  exact ⟨rfl, hd, h, merge_merge rfl hd h⟩

end PodSpec

end KubeManifest
