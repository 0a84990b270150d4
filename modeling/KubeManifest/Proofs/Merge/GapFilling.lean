import KubeManifest.Merge.PodSpec
import KubeManifest.Proofs.Merge.Lists

/-!
# Merging fills gaps

A merge of pod specifications is described without its steps:

* `Container.Filled` : what a container has become that was filled from a default one;
* `PodSpec.GapFilled` : what a specification has become, container by container;
* `PodSpec.merge_gapFilled` : every merge of specifications without nulls in their lists ends so.
-/

namespace KubeManifest

/-! ## What is merged -/

/-- The containers of a specification. No list stands for no containers. -/
def PodSpec.list (p : PodSpec) : List (Option Container) :=
  p.containers.getD []

/-- The variables of a container. No list stands for no variables. -/
def Container.envList (c : Container) : List (Option EnvVar) :=
  c.env.getD []

/-- The ports of a container. No list stands for no ports. -/
def Container.portList (c : Container) : List (Option ContainerPort) :=
  c.ports.getD []

/-- A container without nulls among its variables and ports, with a name that is null or a text. -/
structure Container.Regular (c : Container) : Prop where
  env : ∀ e ∈ c.envList, e.isSome
  ports : ∀ p ∈ c.portList, p.isSome
  name : c.name.isNull ∨ c.name.text?.isSome

/-- A specification whose containers are all there and regular. -/
def PodSpec.Regular (p : PodSpec) : Prop :=
  ∀ c ∈ p.list, ∃ m, c = some m ∧ m.Regular

def Container.isNameless (c : Container) : Bool :=
  c.name.isNull || c.name.text?.any Text.isBlankText

/-! ## What it has become -/

namespace Container

def simpleFields : List (Container → Value) :=
  [name, image, imagePullPolicy, workingDir, stdin, stdinOnce, tty, terminationMessagePath,
    terminationMessagePolicy]

/-- What the container `t` has become when it is filled from `d`: a simple field is that of `t` unless it is
null there, a probe or security context that of `t` unless `t` has none; variables and ports of `t` stay in
front; nothing else changes. -/
structure Filled (t d c : Container) : Prop where
  simple : ∀ field ∈ simpleFields, field c = if (field t).isNull then field d else field t
  readinessProbe : c.readinessProbe = if t.readinessProbe.isSome then t.readinessProbe else d.readinessProbe
  livenessProbe : c.livenessProbe = if t.livenessProbe.isSome then t.livenessProbe else d.livenessProbe
  securityContext : c.securityContext =
    if t.securityContext.isSome then t.securityContext else d.securityContext
  env : t.envList <+: c.envList
  ports : t.portList <+: c.portList
  command : c.command = t.command
  args : c.args = t.args
  resources : c.resources = t.resources
  volumeMounts : c.volumeMounts = t.volumeMounts
  extra : c.extra = t.extra

end Container

/-- What the specification `t` has become when its gaps are filled from `d`: containers are filled at their
places, and those that `d` has beyond are added. Containers beyond those of `d` stay, but for the first one,
which gets the name `fallback` if it has none. -/
structure PodSpec.GapFilled (t d : PodSpec) (fallback : Value) (r : PodSpec) : Prop where
  extra : r.extra = t.extra
  length : r.list.length = max t.list.length d.list.length
  added : ∀ i, t.list.length ≤ i → r.list[i]? = d.list[i]?
  filled : ∀ (i : Nat) (tc dc : Container), t.list[i]? = some (some tc) → d.list[i]? = some (some dc) →
    ∃ c, r.list[i]? = some (some c) ∧ tc.Filled dc c
  kept : ∀ (i : Nat) (tc : Container), d.list.length ≤ i → t.list[i]? = some (some tc) →
    r.list[i]? = some (some (if i = 0 ∧ tc.isNameless then { tc with name := fallback } else tc))

/-! ## Containers -/

namespace Container

@[simp] theorem fillFields_env (t d : Container) : (t.fillFields d).env = t.env := rfl

@[simp] theorem fillFields_ports (t d : Container) : (t.fillFields d).ports = t.ports := rfl

theorem addEnv_eq (t d : Container) :
    t.addEnv d = (Merged.addTo EnvVar.addMissing t.env d.env).within fun env => { t with env := env } := by
  unfold addEnv Merged.addTo
  split <;> simp_all [Merged.within]

theorem addPorts_eq (t d : Container) :
    t.addPorts d =
      (Merged.addTo ContainerPort.addMissing t.ports d.ports).within fun ports => { t with ports := ports } := by
  unfold addPorts Merged.addTo
  split <;> simp_all [Merged.within]

/-- A merge comes to its end when nothing ends the work on the variables and on the ports. -/
theorem merge_eq_iff {t d c : Container} :
    t.merge d = ⟨c, none⟩ ↔ ∃ env ports, Merged.addTo EnvVar.addMissing t.env d.env = ⟨env, none⟩ ∧
      Merged.addTo ContainerPort.addMissing t.ports d.ports = ⟨ports, none⟩ ∧
      c = fillParts { t.fillFields d with env := env, ports := ports } d := by
  rw [merge, Merged.andThen_none, addEnv_eq, fillFields_env]
  rcases Merged.addTo EnvVar.addMissing t.env d.env with ⟨env, _ | m⟩
  · rw [Merged.within_mk, Merged.andThen_none, addPorts_eq]
    simp only [fillFields_ports]
    rcases Merged.addTo ContainerPort.addMissing t.ports d.ports with ⟨ports, _ | m⟩ <;> simp [eq_comm]
  · simp

theorem orElse_eq_ite {α : Type} (a b : Option α) : (a <|> b) = if a.isSome then a else b := by
  cases a <;> rfl

/-- The steps of a merge, with whatever variables and ports there are in the end. -/
theorem simple_fillParts (t d : Container) (env : Option (List (Option EnvVar)))
    (ports : Option (List (Option ContainerPort))) :
    ∀ field ∈ simpleFields, field (fillParts { t.fillFields d with env := env, ports := ports } d) =
      if (field t).isNull then field d else field t := by
  intro field hfield
  simp only [simpleFields, List.mem_cons, List.not_mem_nil, or_false] at hfield
  rcases hfield with rfl | rfl | rfl | rfl | rfl | rfl | rfl | rfl | rfl <;> rfl

/-- A merge that came to its end filled the container. -/
theorem filled_of_merge {t d c : Container} (h : t.merge d = ⟨c, none⟩) : t.Filled d c := by
  obtain ⟨env, ports, henv, hports, rfl⟩ := merge_eq_iff.mp h
  exact {
    simple := simple_fillParts t d env ports
    readinessProbe := orElse_eq_ite _ _
    livenessProbe := orElse_eq_ite _ _
    securityContext := orElse_eq_ite _ _
    env := by
      have hpre := EnvVar.adds.prefix_addTo t.env d.env
      rwa [henv] at hpre
    ports := by
      have hpre := ContainerPort.adds.prefix_addTo t.ports d.ports
      rwa [hports] at hpre
    command := rfl
    args := rfl
    resources := rfl
    volumeMounts := rfl
    extra := rfl }

/-- Nothing ends a merge of containers without nulls among their variables and ports. -/
theorem merge_misfit {t d : Container} (htenv : ∀ e ∈ t.envList, e.isSome) (hdenv : ∀ e ∈ d.envList, e.isSome)
    (htports : ∀ p ∈ t.portList, p.isSome) (hdports : ∀ p ∈ d.portList, p.isSome) : (t.merge d).misfit = none := by
  have henv : (Merged.addTo EnvVar.addMissing t.env d.env).misfit = none :=
    EnvVar.adds.addTo_misfit fun x hx a ha =>
      EnvVar.exists_hasNameOf ((List.mem_append.mp hx).elim (htenv x) (hdenv x)) (hdenv a ha)
  have hports : (Merged.addTo ContainerPort.addMissing t.ports d.ports).misfit = none :=
    ContainerPort.adds.addTo_misfit fun x hx a ha =>
      ContainerPort.exists_conflicts? ((List.mem_append.mp hx).elim (htports x) (hdports x)) (hdports a ha)
  rw [merge_eq_iff.mpr ⟨_, _, congrArg (Merged.mk _) henv, congrArg (Merged.mk _) hports, rfl⟩]

end Container

/-! ## Lists of containers -/

namespace PodSpec

theorem mergeOne_of_none {target other c : Option Container} (h : mergeOne target other = ⟨c, none⟩) :
    ∃ t d m, target = some t ∧ other = some d ∧ c = some m ∧ t.merge d = ⟨m, none⟩ := by
  cases target with
  | none => simp [mergeOne] at h
  | some t =>
    cases other with
    | none => simp [mergeOne] at h
    | some d =>
      cases hm : t.merge d with
      | mk m misfit =>
        simp only [mergeOne, hm, Merged.within, Merged.mk.injEq] at h
        obtain ⟨rfl, rfl⟩ := h
        exact ⟨t, d, m, rfl, rfl, rfl, hm⟩

/-- What a list of containers has become that was filled from another one to the end. -/
theorem mergeContainers_spec {ts ds rs : List (Option Container)} (h : mergeContainers ts ds = ⟨rs, none⟩) :
    rs.length = max ts.length ds.length ∧ (∀ i, ts.length ≤ i → rs[i]? = ds[i]?) ∧
      (∀ i, ds.length ≤ i → rs[i]? = ts[i]?) ∧
      ∀ (i : Nat) (t d : Option Container), ts[i]? = some t → ds[i]? = some d →
        ∃ tc dc c, t = some tc ∧ d = some dc ∧ rs[i]? = some (some c) ∧ tc.merge dc = ⟨c, none⟩ := by
  induction ts generalizing ds rs with
  | nil =>
    have hds : rs = ds := by
      cases ds <;> exact (congrArg Merged.result h).symm
    subst hds
    refine ⟨by simp, fun _ _ => rfl, fun i hi => ?_, fun i t d ht => ?_⟩
    · rw [List.getElem?_eq_none hi]
      rfl
    · simp at ht
  | cons t ts ih =>
    cases ds with
    | nil =>
      obtain rfl : t :: ts = rs := congrArg Merged.result h
      refine ⟨by simp, fun i hi => ?_, fun _ _ => rfl, fun i t d _ hd => ?_⟩
      · rw [List.getElem?_eq_none hi]
        rfl
      · simp at hd
    | cons d ds =>
      rw [mergeContainers] at h
      cases ho : mergeOne t d with
      | mk c misfit =>
        rw [ho] at h
        cases misfit with
        | some m => simp at h
        | none =>
          cases hr : mergeContainers ts ds with
          | mk rest misfit =>
            simp only [hr, Merged.within, Merged.mk.injEq] at h
            obtain ⟨rfl, rfl⟩ := h
            obtain ⟨hlen, hadd, hkeep, hfill⟩ := ih hr
            refine ⟨by simp [hlen], fun i hi => ?_, fun i hi => ?_, fun i t' d' ht hd => ?_⟩
            · cases i with
              | zero => simp at hi
              | succ i => simpa using hadd i (by simpa using hi)
            · cases i with
              | zero => simp at hi
              | succ i => simpa using hkeep i (by simpa using hi)
            · cases i with
              | zero =>
                obtain ⟨tc, dc, m, rfl, rfl, rfl, hm⟩ := mergeOne_of_none ho
                simp only [List.getElem?_cons_zero, Option.some.injEq] at ht hd
                exact ⟨tc, dc, m, ht.symm, hd.symm, rfl, hm⟩
              | succ i => simpa using hfill i t' d' (by simpa using ht) (by simpa using hd)

theorem mergeContainers_misfit {ts ds : List (Option Container)} (ht : ∀ c ∈ ts, ∃ m, c = some m ∧ m.Regular)
    (hd : ∀ c ∈ ds, ∃ m, c = some m ∧ m.Regular) : (mergeContainers ts ds).misfit = none := by
  induction ts generalizing ds with
  | nil => cases ds <;> rfl
  | cons t ts ih =>
    cases ds with
    | nil => rfl
    | cons d ds =>
      obtain ⟨tc, rfl, htc⟩ := ht t List.mem_cons_self
      obtain ⟨dc, rfl, hdc⟩ := hd d List.mem_cons_self
      have hm := Container.merge_misfit htc.env hdc.env htc.ports hdc.ports
      have hrest := ih (fun c hc => ht c (List.mem_cons_of_mem _ hc)) fun c hc => hd c (List.mem_cons_of_mem _ hc)
      rw [mergeContainers, mergeOne]
      cases hc : tc.merge dc with
      | mk c misfit =>
        rw [hc] at hm
        obtain rfl : misfit = none := hm
        exact hrest

/-! ## The name of the first container -/

theorem lacksName_eq {c : Container} (h : c.name.isNull ∨ c.name.text?.isSome) :
    lacksName c.name = .ok c.isNameless := by
  unfold Container.isNameless
  cases hn : c.name with
  | list items mark => simp [hn, Value.isNull, Value.text?] at h
  | map fields mark => simp [hn, Value.isNull, Value.text?] at h
  | scalar s mark =>
    rw [hn] at h
    cases s with
    | null => simp [lacksName, Value.isTruthy, Value.isNull]
    | text s style =>
      by_cases hs : s = ""
      · subst hs
        simp [lacksName, Value.isTruthy, Value.text?]
      · simp [lacksName, Value.isTruthy, Value.text?, Value.isNull, hs]
    | bool b => simp [Value.isNull, Value.text?] at h
    | int n style => simp [Value.isNull, Value.text?] at h
    | float x style => simp [Value.isNull, Value.text?] at h
    | moment m style => simp [Value.isNull, Value.text?] at h

/-- Naming the first container changes it only if it lacks a name. -/
theorem nameFirst_cases {fallback : Value} {cs rs : List (Option Container)}
    (h : nameFirst fallback cs = ⟨rs, none⟩) :
    (rs = cs ∧ ∀ c, cs[0]? = some (some c) → lacksName c.name = .ok false) ∨
      ∃ c rest, cs = some c :: rest ∧ lacksName c.name = .ok true ∧
        rs = some { c with name := fallback } :: rest := by
  cases cs with
  | nil =>
    obtain rfl : [] = rs := congrArg Merged.result h
    exact Or.inl ⟨rfl, fun c hc => by simp at hc⟩
  | cons c rest =>
    cases c with
    | none => simp [nameFirst] at h
    | some c =>
      rw [nameFirst] at h
      cases hl : lacksName c.name with
      | error m => simp [hl] at h
      | ok lacks =>
        cases lacks with
        | true =>
          simp only [hl, Merged.mk.injEq, and_true] at h
          exact Or.inr ⟨c, rest, rfl, hl, h.symm⟩
        | false =>
          simp only [hl, Merged.mk.injEq, and_true] at h
          refine Or.inl ⟨h.symm, fun c' hc' => ?_⟩
          simp only [List.getElem?_cons_zero, Option.some.injEq] at hc'
          rw [← hc', hl]

/-! ## Specifications -/

/-- A merge that came to its end: without default containers the first container got its name, and with them
the lists were merged. -/
theorem list_of_merge {t d r : PodSpec} {fallback : Value} (h : (t.merge d fallback).finished = .ok r) :
    r.extra = t.extra ∧ ((d.list = [] ∧ nameFirst fallback t.list = ⟨r.list, none⟩) ∨
      (d.list ≠ [] ∧ mergeContainers t.list d.list = ⟨r.list, none⟩)) := by
  unfold merge at h
  split at h
  · rename_i hd
    cases hc : t.containers with
    | none =>
      simp only [hc, Merged.finished_none, Except.ok.injEq] at h
      subst h
      exact ⟨rfl, Or.inl ⟨hd, by simp [list, hc, nameFirst]⟩⟩
    | some cs =>
      cases hn : nameFirst fallback cs with
      | mk rs misfit =>
        simp only [hc, hn, Merged.within, Merged.finished] at h
        cases misfit with
        | some m => simp at h
        | none =>
          simp only [Except.ok.injEq] at h
          subst h
          exact ⟨rfl, Or.inl ⟨hd, by simp [list, hc, hn]⟩⟩
  · rename_i hd
    cases hm : mergeContainers (t.containers.getD []) (d.containers.getD []) with
    | mk rs misfit =>
      simp only [hm, Merged.within, Merged.finished] at h
      cases misfit with
      | some m => simp at h
      | none =>
        simp only [Except.ok.injEq] at h
        subst h
        exact ⟨rfl, Or.inr ⟨hd, hm⟩⟩

theorem merge_finished {t d : PodSpec} (ht : t.Regular) (hd : d.Regular) (fallback : Value) :
    ∃ r, (t.merge d fallback).finished = .ok r := by
  unfold merge
  split
  · cases hc : t.containers with
    | none => exact ⟨t, rfl⟩
    | some cs =>
      cases cs with
      | nil => exact ⟨_, rfl⟩
      | cons c rest =>
        obtain ⟨m, rfl, hm⟩ := ht c (by simp [list, hc])
        simp only [nameFirst, lacksName_eq hm.name]
        cases m.isNameless <;> exact ⟨_, rfl⟩
  · have hm := mergeContainers_misfit ht hd
    cases hc : mergeContainers (t.containers.getD []) (d.containers.getD []) with
    | mk rs misfit =>
      rw [list, list, hc] at hm
      obtain rfl : misfit = none := hm
      exact ⟨_, rfl⟩

/-- **A merge is a positional filling of gaps.** It comes to its end when no list holds a null. -/
theorem merge_gapFilled (t d : PodSpec) (fallback : Value) (ht : t.Regular) (hd : d.Regular) :
    ∃ r, (t.merge d fallback).finished = .ok r ∧ t.GapFilled d fallback r := by
  obtain ⟨r, hr⟩ := merge_finished ht hd fallback
  refine ⟨r, hr, ?_⟩
  obtain ⟨hextra, ⟨hnil, hname⟩ | ⟨hne, hmerge⟩⟩ := list_of_merge hr
  · have hlen : r.list.length = t.list.length := by
      rcases nameFirst_cases hname with ⟨heq, -⟩ | ⟨c, rest, heq, -, heq'⟩
      · rw [heq]
      · rw [heq, heq']
        rfl
    refine ⟨hextra, by rw [hlen, hnil]; simp, fun i hi => ?_, fun i tc dc _ hdc => ?_, fun i tc _ htc => ?_⟩
    · rw [hnil, List.getElem?_eq_none (by omega)]
      rfl
    · rw [hnil] at hdc
      simp at hdc
    · rcases nameFirst_cases hname with ⟨heq, hno⟩ | ⟨c, rest, heq, hyes, heq'⟩
      · rw [heq, htc, if_neg]
        rintro ⟨rfl, hn⟩
        obtain ⟨m, hm, hreg⟩ := ht _ (List.mem_of_getElem? htc)
        obtain rfl : tc = m := Option.some.inj hm
        have hfalse := hno tc htc
        rw [lacksName_eq hreg.name, hn] at hfalse
        cases hfalse
      · rw [heq] at htc
        rw [heq']
        cases i with
        | zero =>
          obtain rfl : c = tc := by simpa using htc
          obtain ⟨m, hm, hreg⟩ := ht (some c) (by rw [heq]; exact List.mem_cons_self)
          obtain rfl : c = m := Option.some.inj hm
          rw [lacksName_eq hreg.name] at hyes
          rw [if_pos ⟨rfl, Except.ok.inj hyes⟩]
          rfl
        | succ i =>
          rw [if_neg (by simp)]
          simpa using htc
  · obtain ⟨hlen, hadd, hkeep, hfill⟩ := mergeContainers_spec hmerge
    refine ⟨hextra, hlen, hadd, fun i tc dc htc hdc => ?_, fun i tc hi htc => ?_⟩
    · obtain ⟨tc', dc', c, htc', hdc', hc, hm⟩ := hfill i _ _ htc hdc
      obtain rfl : tc = tc' := Option.some.inj htc'
      obtain rfl : dc = dc' := Option.some.inj hdc'
      exact ⟨c, hc, Container.filled_of_merge hm⟩
    · have hpos : 0 < d.list.length := List.length_pos_iff.mpr hne
      rw [hkeep i hi, htc, if_neg (by omega)]

/-- One written container without an image, and two default ones that share a variable with it. -/
theorem merge_gapFilled_web :
    let web : Container := { name := .ofString "web", env := some [some { name := .ofString "A" }] }
    let app : Container :=
      { name := .ofString "app", image := .ofString "app:1"
        env := some [some { name := .ofString "A" }, some { name := .ofString "B" }] }
    let t : PodSpec := { containers := some [some web] }
    let d : PodSpec := { containers := some [some app, some {}] }
    t.Regular ∧ d.Regular ∧
      ∃ r, (t.merge d (.ofString "shop")).finished = .ok r ∧ t.GapFilled d (.ofString "shop") r := by
  intro web app t d
  have hweb : web.Regular := ⟨by decide, by decide, by decide⟩
  have happ : app.Regular := ⟨by decide, by decide, by decide⟩
  have hempty : ({} : Container).Regular := ⟨by decide, by decide, by decide⟩
  have ht : t.Regular := fun c hc => ⟨web, List.mem_singleton.mp hc, hweb⟩
  have hd : d.Regular := by
    intro c hc
    rcases List.mem_cons.mp hc with rfl | hc
    · exact ⟨app, rfl, happ⟩
    · exact ⟨{}, List.mem_singleton.mp hc, hempty⟩
  exact ⟨ht, hd, merge_gapFilled t d (.ofString "shop") ht hd⟩

end PodSpec

end KubeManifest
