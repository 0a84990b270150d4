import KubeManifest.Proofs.Merge.GapFilling
import KubeManifest.Proofs.Model.Additive

/-!
# Merging keeps what is there

* `Container.Kept` : a container that says at least what another one does;
* `Container.Kept.keeps_toValue` : its mapping keeps every scalar of the other one's;
* `PodSpec.keeps_merge` : a merged specification keeps every scalar of the specification it was merged into, except
  for the name of a first container that counts as nameless.
-/

namespace KubeManifest

open Model Value

/-! ## Lists -/

/-- The written items of a list that grew at its end. -/
theorem keeps_writeAll_of_prefix {α : Type} {write : α → Except Misfit Value} {ts cs : Option (List (Option α))}
    {w : Value} (hpre : ts.getD [] <+: cs.getD []) (hw : writeAll write cs = .ok w) :
    ∃ v, writeAll write ts = .ok v ∧ Keeps nothing v w := by
  cases ts with
  | none => exact ⟨.null, rfl, keeps_null nothing rfl w⟩
  | some ts =>
    cases cs with
    | none =>
      obtain rfl : ts = [] := List.prefix_nil.mp hpre
      exact ⟨.ofList [], rfl, keeps_of_not_isWritten nothing rfl w⟩
    | some cs =>
      rw [writeAll] at hw
      obtain ⟨ws, hws, hw⟩ := bind_eq_ok.mp hw
      obtain rfl : .ofList ws = w := Except.ok.inj hw
      have hts : ∀ (i : Nat) m, ts[i]? = some m → cs[i]? = some m := by
        intro i m hm
        obtain ⟨rest, hrest⟩ := hpre
        have hcs : cs = ts ++ rest := hrest.symm
        rw [hcs, List.getElem?_append_left (List.getElem?_eq_some_iff.mp hm).1, hm]
      have hwritten : ∀ m ∈ ts, ∃ y, writeOne write m = .ok y := by
        intro m hm
        obtain ⟨i, hi⟩ := List.mem_iff_getElem?.mp hm
        obtain ⟨y, -, hy⟩ := mapM_ok_getElem? hws (hts i m hi)
        exact ⟨y, hy⟩
      obtain ⟨vs, hvs⟩ := exists_mapM_ok_iff.mpr hwritten
      refine ⟨.ofList vs, by rw [writeAll, hvs]; rfl, keeps_list fun i x hx => ?_⟩
      obtain ⟨m, hm, hx⟩ := mapM_ok_of_getElem? hvs hx
      obtain ⟨y, hy, hm'⟩ := mapM_ok_getElem? hws (hts i m hm)
      obtain rfl : x = y := Except.ok.inj (hx.symm.trans hm')
      exact ⟨x, hy, Keeps.refl _ x, id⟩

/-! ## Containers -/

namespace Container

/-- A container that says at least what another one does, but for what counts as lost of its name. -/
structure Kept (lost : List Step → Scalar → Prop) (t c : Container) : Prop where
  name : Keeps lost t.name c.name
  simple : ∀ field ∈ simpleFields.tail, Keeps nothing (field t) (field c)
  readinessProbe : t.readinessProbe.isSome → c.readinessProbe = t.readinessProbe
  livenessProbe : t.livenessProbe.isSome → c.livenessProbe = t.livenessProbe
  securityContext : t.securityContext.isSome → c.securityContext = t.securityContext
  env : t.envList <+: c.envList
  ports : t.portList <+: c.portList
  command : c.command = t.command
  args : c.args = t.args
  resources : c.resources = t.resources
  volumeMounts : c.volumeMounts = t.volumeMounts
  extra : c.extra = t.extra

theorem keeps_fill (v d : Value) : Keeps nothing v (if v.isNull then d else v) := by
  split
  · rename_i hn
    exact keeps_null nothing hn d
  · exact Keeps.refl nothing v

theorem Filled.kept {t d c : Container} (h : t.Filled d c) : t.Kept nothing c where
  name := by
    rw [h.simple name (by simp [simpleFields])]
    exact keeps_fill _ _
  simple field hfield := by
    rw [h.simple field (List.mem_of_mem_tail hfield)]
    exact keeps_fill _ _
  readinessProbe hs := by rw [h.readinessProbe, if_pos hs]
  livenessProbe hs := by rw [h.livenessProbe, if_pos hs]
  securityContext hs := by rw [h.securityContext, if_pos hs]
  env := h.env
  ports := h.ports
  command := h.command
  args := h.args
  resources := h.resources
  volumeMounts := h.volumeMounts
  extra := h.extra

theorem Kept.rename {t : Container} {lost : List Step → Scalar → Prop} {name : Value} (h : Keeps lost t.name name) :
    t.Kept lost { t with name := name } where
  name := h
  simple field hfield := by
    simp only [simpleFields, List.tail_cons, List.mem_cons, List.not_mem_nil, or_false] at hfield
    rcases hfield with rfl | rfl | rfl | rfl | rfl | rfl | rfl | rfl <;> exact Keeps.refl nothing _
  readinessProbe _ := rfl
  livenessProbe _ := rfl
  securityContext _ := rfl
  env := List.prefix_refl _
  ports := List.prefix_refl _
  command := rfl
  args := rfl
  resources := rfl
  volumeMounts := rfl
  extra := rfl

def pairs (m : Container) (env ports volumeMounts : Value) : List (String × Value) :=
  [("args", m.args), ("command", m.command), ("env", env), ("image", m.image),
    ("imagePullPolicy", m.imagePullPolicy), ("livenessProbe", optional Probe.toValue m.livenessProbe),
    ("name", m.name), ("ports", ports), ("readinessProbe", optional Probe.toValue m.readinessProbe),
    ("resources", m.resources), ("securityContext", optional SecurityContext.toValue m.securityContext),
    ("stdin", m.stdin), ("stdinOnce", m.stdinOnce), ("terminationMessagePath", m.terminationMessagePath),
    ("terminationMessagePolicy", m.terminationMessagePolicy), ("tty", m.tty), ("volumeMounts", volumeMounts),
    ("workingDir", m.workingDir)]

theorem toValue?_eq_ok {m : Container} {w : Value} (h : m.toValue? = .ok w) :
    ∃ env ports mounts, writeAll (fun e => .ok (EnvVar.toValue e)) m.env = .ok env ∧
      writeAll (fun p => .ok (ContainerPort.toValue p)) m.ports = .ok ports ∧
      writeAll (fun v => .ok (VolumeMount.toValue v)) m.volumeMounts = .ok mounts ∧
      w = .ofFields (compact (m.pairs env ports mounts) ++ m.extra) := by
  rw [toValue?, written_eq_writeAll, written_eq_writeAll, written_eq_writeAll] at h
  obtain ⟨env, henv, h⟩ := bind_eq_ok.mp h
  obtain ⟨ports, hports, h⟩ := bind_eq_ok.mp h
  obtain ⟨mounts, hmounts, h⟩ := bind_eq_ok.mp h
  exact ⟨env, ports, mounts, henv, hports, hmounts, (Except.ok.inj h).symm⟩

theorem toValue?_of_written {m : Container} {env ports mounts : Value}
    (henv : writeAll (fun e => .ok (EnvVar.toValue e)) m.env = .ok env)
    (hports : writeAll (fun p => .ok (ContainerPort.toValue p)) m.ports = .ok ports)
    (hmounts : writeAll (fun v => .ok (VolumeMount.toValue v)) m.volumeMounts = .ok mounts) :
    m.toValue? = .ok (.ofFields (compact (m.pairs env ports mounts) ++ m.extra)) := by
  rw [toValue?, written_eq_writeAll, written_eq_writeAll, written_eq_writeAll, henv, hports, hmounts]
  rfl

theorem keeps_optional {α : Type} {write : α → Value} {m m' : Option α} (h : m.isSome → m' = m) :
    Keeps nothing (optional write m) (optional write m') := by
  cases m with
  | none => exact keeps_null nothing rfl _
  | some m =>
    rw [h rfl]
    exact Keeps.refl nothing _

/-- What counts as lost of a container's name, as seen from the container. -/
def lostName (lost : List Step → Scalar → Prop) : List Step → Scalar → Prop :=
  fun path s => ∃ rest, path = .key "name" :: rest ∧ lost rest s

/-- The mapping of a container that says at least what another one does keeps every scalar of the other one's. -/
theorem Kept.keeps_toValue {t c : Container} {lost : List Step → Scalar → Prop} {w : Value} (h : t.Kept lost c)
    (hno : ∀ name ∈ names, Fields.find? t.extra name = none) (hw : c.toValue? = .ok w) :
    ∃ v, t.toValue? = .ok v ∧ Keeps (lostName lost) v w := by
  obtain ⟨env, ports, mounts, henv, hports, hmounts, rfl⟩ := toValue?_eq_ok hw
  obtain ⟨env', henv', hkenv⟩ := keeps_writeAll_of_prefix h.env henv
  obtain ⟨ports', hports', hkports⟩ := keeps_writeAll_of_prefix h.ports hports
  rw [h.volumeMounts] at hmounts
  refine ⟨_, toValue?_of_written henv' hports' hmounts, ?_⟩
  have hnothing : ∀ {key : String} {v w : Value}, Keeps nothing v w →
      Keeps (fun path s => lostName lost (.key key :: path) s) v w :=
    fun hk => hk.mono fun _ _ hl => hl.elim
  have hsimple : ∀ {key : String} (field : Container → Value), field ∈ simpleFields.tail →
      Keeps (fun path s => lostName lost (.key key :: path) s) (field t) (field c) :=
    fun field hfield => hnothing (h.simple field hfield)
  have hname : Keeps (fun path s => lostName lost (.key "name" :: path) s) t.name c.name :=
    h.name.mono fun path s hl => ⟨path, rfl, hl⟩
  have hall : KeepsAll (lostName lost) (t.pairs env' ports' mounts) (c.pairs env ports mounts) := by
    rw [pairs, pairs, h.args, h.command, h.resources]
    exact ⟨rfl, Keeps.refl _ _, rfl, Keeps.refl _ _, rfl, hnothing hkenv, rfl, hsimple image (by simp [simpleFields]),
      rfl, hsimple imagePullPolicy (by simp [simpleFields]), rfl, hnothing (keeps_optional h.livenessProbe), rfl, hname,
      rfl, hnothing hkports, rfl, hnothing (keeps_optional h.readinessProbe), rfl, Keeps.refl _ _,
      rfl, hnothing (keeps_optional h.securityContext), rfl, hsimple stdin (by simp [simpleFields]),
      rfl, hsimple stdinOnce (by simp [simpleFields]), rfl, hsimple terminationMessagePath (by simp [simpleFields]),
      rfl, hsimple terminationMessagePolicy (by simp [simpleFields]), rfl, hsimple tty (by simp [simpleFields]),
      rfl, Keeps.refl _ _, rfl, hsimple workingDir (by simp [simpleFields]), trivial⟩
  rw [h.extra]
  have hnames : (t.pairs env' ports' mounts).map Prod.fst = names := rfl
  refine hall.keeps (hnames ▸ (by decide)) fun p hp => hno p.1 ?_
  rw [← hnames]
  exact List.mem_map_of_mem hp

end Container

/-! ## Specifications -/

namespace PodSpec

/-- A scalar that counts as no name: null, a blank text, or another one that does not count as given. -/
def CountsAsNameless (s : Scalar) : Prop :=
  lacksName (.scalar s none) = .ok true

theorem lacksName_scalar (s : Scalar) (mark : Option Mark) :
    lacksName (.scalar s mark) = lacksName (.scalar s none) := by
  cases s <;> rfl

/-- What counts as lost of the name of the container at a place. -/
def lostNameAt (d : PodSpec) (i : Nat) : List Step → Scalar → Prop :=
  fun path s => path = [] ∧ i = 0 ∧ d.list = [] ∧ CountsAsNameless s

/-- What counts as lost of a specification. -/
def lostInMerge (d : PodSpec) : List Step → Scalar → Prop :=
  fun path s => path = [.key "containers", .item 0, .key "name"] ∧ d.list = [] ∧ CountsAsNameless s

theorem keeps_of_lacksName {d : PodSpec} {v : Value} (hd : d.list = []) (h : lacksName v = .ok true) (w : Value) :
    Keeps (lostNameAt d 0) v w := by
  cases v with
  | scalar s mark =>
    intro path s' m hs hv hl
    cases path with
    | cons step path => cases step <;> cases hv
    | nil =>
      obtain ⟨rfl, -⟩ := Value.scalar.inj (Option.some.inj hv)
      rw [lacksName_scalar] at h
      exact absurd ⟨rfl, rfl, hd, h⟩ hl
  | list items mark =>
    cases items with
    | nil => exact keeps_of_not_isWritten _ rfl w
    | cons x xs => simp [lacksName, isTruthy, text?] at h
  | map fs mark =>
    cases fs with
    | nil => exact keeps_of_not_isWritten _ rfl w
    | cons e fs => simp [lacksName, isTruthy, text?] at h

/-- What has become of the container at a place. -/
theorem getElem?_of_merge {t d r : PodSpec} {fallback : Value} (h : (t.merge d fallback).finished = .ok r) {i : Nat}
    {m : Option Container} (hm : t.list[i]? = some m) :
    r.list[i]? = some m ∨
      ∃ tc rc, m = some tc ∧ r.list[i]? = some (some rc) ∧ tc.Kept (lostNameAt d i) rc := by
  obtain ⟨-, ⟨hnil, hname⟩ | ⟨hne, hmerge⟩⟩ := list_of_merge h
  · rcases nameFirst_cases hname with ⟨heq, -⟩ | ⟨c, rest, heq, hyes, heq'⟩
    · exact Or.inl (heq ▸ hm)
    · rw [heq] at hm
      rw [heq']
      cases i with
      | succ i => exact Or.inl (by simpa using hm)
      | zero =>
        obtain rfl : some c = m := by simpa using hm
        exact Or.inr ⟨c, _, rfl, rfl, Container.Kept.rename (keeps_of_lacksName hnil hyes fallback)⟩
  · obtain ⟨-, -, hkeep, hfill⟩ := mergeContainers_spec hmerge
    by_cases hi : d.list.length ≤ i
    · exact Or.inl ((hkeep i hi).trans hm)
    · obtain ⟨tc, dc, c, rfl, -, hc, hmc⟩ := hfill i m _ hm (List.getElem?_eq_getElem (by omega))
      have hkept := (Container.filled_of_merge hmc).kept
      exact Or.inr ⟨tc, c, rfl, hc, { hkept with name := hkept.name.mono fun _ _ hl => hl.elim }⟩

theorem toValue?_eq_ok {p : PodSpec} {w : Value} (h : p.toValue? = .ok w) :
    ∃ containers, writeAll Container.toValue? p.containers = .ok containers ∧
      w = .ofFields (compact [("containers", containers)] ++ p.extra) := by
  rw [toValue?_eq_writeAll] at h
  obtain ⟨containers, hc, h⟩ := bind_eq_ok.mp h
  exact ⟨containers, hc, (Except.ok.inj h).symm⟩

theorem survives_toValue? {c : Container} {v : Value} (h : c.toValue? = .ok v) : v.survives = true := by
  obtain ⟨_, _, _, -, -, -, rfl⟩ := Container.toValue?_eq_ok h
  rfl

theorem list_of_containers {p : PodSpec} {cs : List (Option Container)} (h : p.containers = some cs) : p.list = cs := by
  rw [list, h]
  rfl

theorem getElem?_isSome_of_merge {t d r : PodSpec} {fallback : Value} (h : (t.merge d fallback).finished = .ok r)
    {i : Nat} {m : Option Container} (hm : t.list[i]? = some m) : ∃ m', r.list[i]? = some m' := by
  rcases getElem?_of_merge h hm with hr | ⟨_, rc, -, hr, -⟩
  · exact ⟨m, hr⟩
  · exact ⟨some rc, hr⟩

/-- The container that is written at a place keeps the scalars of the one that was there before the merge. -/
theorem keeps_item {t d r : PodSpec} {fallback : Value} (h : (t.merge d fallback).finished = .ok r)
    (hno : ∀ c, some c ∈ t.list → ∀ name ∈ Container.names, Fields.find? c.extra name = none) {ws : List Value}
    (hws : r.list.mapM (writeOne Container.toValue?) = .ok ws) {i : Nat} {m : Option Container}
    (hm : t.list[i]? = some m) :
    ∃ v y, writeOne Container.toValue? m = .ok v ∧ ws[i]? = some y ∧ y.survives = true ∧
      Keeps (Container.lostName (lostNameAt d i)) v y := by
  obtain ⟨m', hm'⟩ := getElem?_isSome_of_merge h hm
  obtain ⟨y, hy, hmy⟩ := mapM_ok_getElem? hws hm'
  have hsurvives : y.survives = true := by
    cases m' with
    | none => cases hmy
    | some c => exact survives_toValue? hmy
  rcases getElem?_of_merge h hm with hrm | ⟨tc, rc, rfl, hrm, hkept⟩
  · obtain rfl : m = m' := Option.some.inj (hrm.symm.trans hm')
    exact ⟨y, y, hmy, hy, hsurvives, Keeps.refl _ y⟩
  · obtain rfl : some rc = m' := Option.some.inj (hrm.symm.trans hm')
    obtain ⟨v, hv, hkeeps⟩ := hkept.keeps_toValue (hno tc (List.mem_of_getElem? hm)) hmy
    exact ⟨v, y, hv, hy, hsurvives, hkeeps⟩

theorem keeps_containers {t d r : PodSpec} {fallback w : Value} (h : (t.merge d fallback).finished = .ok r)
    (hno : ∀ c, some c ∈ t.list → ∀ name ∈ Container.names, Fields.find? c.extra name = none)
    (hw : writeAll Container.toValue? r.containers = .ok w) :
    ∃ v, writeAll Container.toValue? t.containers = .ok v ∧
      Keeps (fun path s => lostInMerge d (.key "containers" :: path) s) v w := by
  cases ht : t.containers with
  | none => exact ⟨.null, rfl, keeps_null _ rfl w⟩
  | some ts =>
    have htl := list_of_containers ht
    cases hr : r.containers with
    | none =>
      have hts : ts = [] := by
        cases ts with
        | nil => rfl
        | cons c cs =>
          obtain ⟨m', hm'⟩ := getElem?_isSome_of_merge h (i := 0) (by rw [htl]; rfl)
          rw [list, hr] at hm'
          cases hm'
      subst hts
      exact ⟨.ofList [], rfl, keeps_of_not_isWritten _ rfl w⟩
    | some rs =>
      rw [hr, writeAll] at hw
      obtain ⟨ws, hws, hw⟩ := bind_eq_ok.mp hw
      obtain rfl : .ofList ws = w := Except.ok.inj hw
      rw [← list_of_containers hr] at hws
      rw [← htl]
      have hwritten : ∀ m ∈ t.list, ∃ v, writeOne Container.toValue? m = .ok v := by
        intro m hm
        obtain ⟨i, hi⟩ := List.mem_iff_getElem?.mp hm
        obtain ⟨v, y, hv, -⟩ := keeps_item h hno hws hi
        exact ⟨v, hv⟩
      obtain ⟨vs, hvs⟩ := exists_mapM_ok_iff.mpr hwritten
      refine ⟨.ofList vs, by rw [writeAll, hvs]; rfl, keeps_list fun i x hx => ?_⟩
      obtain ⟨m, hm, hmx⟩ := mapM_ok_of_getElem? hvs hx
      obtain ⟨v, y, hv, hy, hsurvives, hkeeps⟩ := keeps_item h hno hws hm
      obtain rfl : v = x := Except.ok.inj (hv.symm.trans hmx)
      refine ⟨y, hy, hkeeps.mono ?_, fun _ => hsurvives⟩
      rintro path s ⟨rest, rfl, rfl, rfl, hd, hs⟩
      exact ⟨rfl, hd, hs⟩

/-- **A merged specification keeps every scalar of the one it was merged into**, except for the name of a first
container that counts as nameless. -/
theorem keeps_merge {t d r : PodSpec} {fallback w : Value} (h : (t.merge d fallback).finished = .ok r)
    (hextra : Fields.find? t.extra "containers" = none)
    (hno : ∀ c, some c ∈ t.list → ∀ name ∈ Container.names, Fields.find? c.extra name = none)
    (hw : r.toValue? = .ok w) : ∃ v, t.toValue? = .ok v ∧ Keeps (lostInMerge d) v w := by
  obtain ⟨containers, hc, rfl⟩ := toValue?_eq_ok hw
  obtain ⟨containers', hc', hkeeps⟩ := keeps_containers h hno hc
  refine ⟨_, by rw [toValue?_eq_writeAll, hc']; rfl, ?_⟩
  rw [(list_of_merge h).1]
  have hall : KeepsAll (lostInMerge d) [("containers", containers')] [("containers", containers)] :=
    ⟨rfl, hkeeps, trivial⟩
  refine hall.keeps (by simp) fun p hp => ?_
  obtain rfl : p = ("containers", containers') := List.mem_singleton.mp hp
  exact hextra

end PodSpec

end KubeManifest
