import KubeManifest.Proofs.Merge.Whole
import KubeManifest.Proofs.Model.Readable

/-!
# Models in order

A model keeps what no field of its own holds under other names. All pods that are read do so, and all pods that are
made of such by merging.

* `Probe.WellFormed`, `Container.WellFormed`, `PodSpec.WellFormed` : models that hold under other names only what no
  field holds, at every depth;
* `PodSpec.WellFormed.readable_toValue?` : they are written as what can be read again;
* `PodSpec.wellFormed_of_read?`, `PodSpec.WellFormed.merge` : pods that are read, and pods that are merged.
-/

namespace KubeManifest

open Model

/-! ## Probes -/

namespace Probe

/-- A probe whose models hold under other names only what no field holds. -/
structure WellFormed (p : Probe) : Prop where
  exec : ∀ x, p.exec = some x → Foreign Exec.layout.names x.extra
  httpGet : ∀ x, p.httpGet = some x → Foreign HttpGet.layout.names x.extra
  tcpSocket : ∀ x, p.tcpSocket = some x → Foreign TcpSocket.layout.names x.extra
  extra : Foreign layout.names p.extra

theorem WellFormed.readable_toValue {p : Probe} (h : p.WellFormed) :
    ∃ fs, p.toValue.fields? = some fs ∧ layout.Readable fs := by
  refine ⟨_, rfl, readable_written (by decide) ?_ h.extra⟩
  have hexec := readable_optional Exec.layout Exec.toValue fun x hx =>
    ⟨_, rfl, readable_written (by decide) (by simp [Exec.layout]) (h.exec x hx)⟩
  have hhttpGet := readable_optional HttpGet.layout HttpGet.toValue fun x hx =>
    ⟨_, rfl, readable_written (by decide) (by simp [HttpGet.layout]) (h.httpGet x hx)⟩
  have htcpSocket := readable_optional TcpSocket.layout TcpSocket.toValue fun x hx =>
    ⟨_, rfl, readable_written (by decide) (by simp [TcpSocket.layout]) (h.tcpSocket x hx)⟩
  simp [layout, hexec, hhttpGet, htcpSocket]

end Probe

namespace Container

/-- A container whose models hold under other names only what no field holds. -/
structure WellFormed (c : Container) : Prop where
  env : ∀ x, some x ∈ c.envList → Foreign EnvVar.layout.names x.extra
  ports : ∀ x, some x ∈ c.portList → Foreign ContainerPort.layout.names x.extra
  volumeMounts : ∀ x, some x ∈ c.volumeMounts.getD [] → Foreign VolumeMount.layout.names x.extra
  livenessProbe : ∀ x, c.livenessProbe = some x → x.WellFormed
  readinessProbe : ∀ x, c.readinessProbe = some x → x.WellFormed
  securityContext : ∀ x, c.securityContext = some x → Foreign SecurityContext.layout.names x.extra
  extra : Foreign layout.names c.extra

theorem WellFormed.readable_toValue? {c : Container} (h : c.WellFormed) {w : Value} (hw : c.toValue? = .ok w) :
    ∃ fs, w.fields? = some fs ∧ layout.Readable fs := by
  obtain ⟨env, ports, mounts, henv, hports, hmounts, rfl⟩ := toValue?_eq_ok hw
  refine ⟨_, rfl, readable_written (by decide) ?_ h.extra⟩
  have henv := readable_writeAll EnvVar.layout henv fun x hx v hv => by
    obtain rfl := Except.ok.inj hv
    exact ⟨_, rfl, readable_written (by decide) (by simp [EnvVar.layout]) (h.env x hx)⟩
  have hports := readable_writeAll ContainerPort.layout hports fun x hx v hv => by
    obtain rfl := Except.ok.inj hv
    exact ⟨_, rfl, readable_written (by decide) (by simp [ContainerPort.layout]) (h.ports x hx)⟩
  have hmounts := readable_writeAll VolumeMount.layout hmounts fun x hx v hv => by
    obtain rfl := Except.ok.inj hv
    exact ⟨_, rfl, readable_written (by decide) (by simp [VolumeMount.layout]) (h.volumeMounts x hx)⟩
  have hliveness := readable_optional Probe.layout Probe.toValue fun x hx =>
    (h.livenessProbe x hx).readable_toValue
  have hreadiness := readable_optional Probe.layout Probe.toValue fun x hx =>
    (h.readinessProbe x hx).readable_toValue
  have hsecurity := readable_optional SecurityContext.layout SecurityContext.toValue fun x hx =>
    ⟨_, rfl, readable_written (by decide) (by simp [SecurityContext.layout]) (h.securityContext x hx)⟩
  simp [layout, pairs, henv, hports, hmounts, hliveness, hreadiness, hsecurity]

end Container

namespace PodSpec

/-- Pods whose models hold under other names only what no field holds. -/
structure WellFormed (p : PodSpec) : Prop where
  containers : ∀ c, some c ∈ p.list → c.WellFormed
  extra : Foreign layout.names p.extra

/-- Pods in order are written as what can be read again. -/
theorem WellFormed.readable_toValue? {p : PodSpec} (h : p.WellFormed) {w : Value} (hw : p.toValue? = .ok w) :
    ∃ fs, w.fields? = some fs ∧ layout.Readable fs := by
  obtain ⟨containers, hc, rfl⟩ := toValue?_eq_ok hw
  refine ⟨_, rfl, readable_written (by decide) ?_ h.extra⟩
  have hcontainers := readable_writeAll Container.layout hc fun c hc v hv =>
    (h.containers c hc).readable_toValue? hv
  simp [layout, hcontainers]

end PodSpec

/-! ## Reading -/

namespace Model

variable {α : Type} {read : Value → Except Misfit (Option α)} {write : α → Except Misfit Value} {layout : Layout}
  {v : Value} {m : α}

theorem Writes.exists_map (h : Writes read write layout) (hr : read v = .ok (some m)) :
    ∃ fs mark, v = .map fs mark := by
  cases hf : v.fields? with
  | some fs =>
    cases v with
    | map fs mark => exact ⟨fs, mark, rfl⟩
    | _ => cases hf
  | none =>
    have ho := h.other v hf
    rw [hr, toOption_ok] at ho
    split at ho <;> cases ho

/-- What no field holds of a model that is read. -/
theorem Writes.foreign (h : Writes read write layout) {extra : α → Fields}
    (hextra : ∀ fs mark, read (.map fs mark) = .ok (some m) → extra m = extraOf layout.names fs) (ht : v.Textual)
    (hr : read v = .ok (some m)) : Foreign layout.names (extra m) := by
  obtain ⟨fs, mark, rfl⟩ := h.exists_map hr
  rw [hextra fs mark hr]
  cases ht with
  | map keyed _ => exact foreign_extraOf _ keyed.texts

/-- Each model of a list is read from a part of the value. -/
theorem mem_many {ms : Option (List (Option α))} (ht : v.Textual) (h : many read v = .ok ms)
    (hm : some m ∈ ms.getD []) : ∃ x, x.Textual ∧ read x = .ok (some m) := by
  rw [many] at h
  split at h
  · obtain rfl := Except.ok.inj h
    cases hm
  · obtain ⟨items, hitems, h⟩ := bind_eq_ok.mp h
    obtain ⟨ms', hms, h⟩ := bind_eq_ok.mp h
    obtain rfl := Except.ok.inj h
    obtain ⟨x, hx, hread⟩ := mapM_eq_ok_mem hms _ hm
    refine ⟨x, ?_, hread⟩
    cases ht with
    | scalar s mark =>
      cases s with
      | text s style =>
        obtain rfl := Except.ok.inj hitems
        obtain ⟨c, -, rfl⟩ := List.mem_map.mp hx
        exact .scalar _ _
      | _ => cases hitems
    | list hall =>
      obtain rfl := Except.ok.inj hitems
      exact hall x hx
    | map keyed _ =>
      obtain rfl := Except.ok.inj hitems
      obtain ⟨e, he, rfl⟩ := List.mem_map.mp hx
      have hk := keyed.texts e he
      cases hkey : e.1 with
      | scalar s mark => exact .scalar s mark
      | list items mark =>
        rw [hkey] at hk
        cases hk
      | map fs mark =>
        rw [hkey] at hk
        cases hk

end Model

theorem Probe.wellFormed_of_read? {v : Value} {p : Probe} (ht : v.Textual) (h : Probe.read? v = .ok (some p)) :
    p.WellFormed := by
  obtain ⟨fs, mark, rfl⟩ := writes.exists_map h
  rw [read?, entriesOf?_map_bind] at h
  obtain ⟨exec, hexec, h⟩ := bind_eq_ok.mp h
  obtain ⟨httpGet, hhttpGet, h⟩ := bind_eq_ok.mp h
  obtain ⟨tcpSocket, htcpSocket, h⟩ := bind_eq_ok.mp h
  obtain rfl := Option.some.inj (Except.ok.inj h)
  refine ⟨fun x hx => ?_, fun x hx => ?_, fun x hx => ?_, ?_⟩
  · obtain rfl : exec = some x := hx
    exact Exec.writes.foreign (fun fs mark h => by cases h; rfl) (ht.of_get _) hexec
  · obtain rfl : httpGet = some x := hx
    exact HttpGet.writes.foreign (fun fs mark h => by cases h; rfl) (ht.of_get _) hhttpGet
  · obtain rfl : tcpSocket = some x := hx
    exact TcpSocket.writes.foreign (fun fs mark h => by cases h; rfl) (ht.of_get _) htcpSocket
  · cases ht with
    | map keyed _ => exact foreign_extraOf _ keyed.texts

theorem Container.wellFormed_of_read? {v : Value} {c : Container} (ht : v.Textual)
    (h : Container.read? v = .ok (some c)) : c.WellFormed := by
  obtain ⟨fs, mark, rfl⟩ := writes.exists_map h
  rw [read?, entriesOf?_map_bind] at h
  obtain ⟨env, henv, h⟩ := bind_eq_ok.mp h
  obtain ⟨liveness, hliveness, h⟩ := bind_eq_ok.mp h
  obtain ⟨ports, hports, h⟩ := bind_eq_ok.mp h
  obtain ⟨readiness, hreadiness, h⟩ := bind_eq_ok.mp h
  obtain ⟨security, hsecurity, h⟩ := bind_eq_ok.mp h
  obtain ⟨mounts, hmounts, h⟩ := bind_eq_ok.mp h
  obtain rfl := Option.some.inj (Except.ok.inj h)
  refine ⟨fun x hx => ?_, fun x hx => ?_, fun x hx => ?_, fun x hx => ?_, fun x hx => ?_, fun x hx => ?_, ?_⟩
  · obtain ⟨y, hy, hread⟩ := mem_many (ht.of_get _) henv hx
    exact EnvVar.writes.foreign (fun fs mark h => by cases h; rfl) hy hread
  · obtain ⟨y, hy, hread⟩ := mem_many (ht.of_get _) hports hx
    exact ContainerPort.writes.foreign (fun fs mark h => by cases h; rfl) hy hread
  · obtain ⟨y, hy, hread⟩ := mem_many (ht.of_get _) hmounts hx
    exact VolumeMount.writes.foreign (fun fs mark h => by cases h; rfl) hy hread
  · obtain rfl : liveness = some x := hx
    exact Probe.wellFormed_of_read? (ht.of_get _) hliveness
  · obtain rfl : readiness = some x := hx
    exact Probe.wellFormed_of_read? (ht.of_get _) hreadiness
  · obtain rfl : security = some x := hx
    exact SecurityContext.writes.foreign (fun fs mark h => by cases h; rfl) (ht.of_get _) hsecurity
  · cases ht with
    | map keyed _ => exact foreign_extraOf _ keyed.texts

/-- Pods that are read from entries with texts as keys are in order. -/
theorem PodSpec.wellFormed_of_read? {v : Value} {p : PodSpec} (ht : v.Textual) (h : PodSpec.read? v = .ok (some p)) :
    p.WellFormed := by
  obtain ⟨fs, mark, rfl⟩ := writes.exists_map h
  have hextra : Foreign layout.names (extraOf layout.names fs) := by
    cases ht with
    | map keyed _ => exact foreign_extraOf _ keyed.texts
  rw [read?, entriesOf?_map_bind] at h
  dsimp only at h
  split at h
  · obtain ⟨containers, hcontainers, h⟩ := bind_eq_ok.mp h
    obtain rfl := Option.some.inj (Except.ok.inj h)
    refine ⟨fun c hc => ?_, hextra⟩
    obtain ⟨y, hy, hread⟩ := mem_many (ht.of_get _) hcontainers hc
    exact Container.wellFormed_of_read? hy hread
  · obtain rfl := Option.some.inj (Except.ok.inj h)
    exact ⟨fun c hc => (List.not_mem_nil hc).elim, hextra⟩

/-! ## Merging -/

theorem Container.WellFormed.merge {t d c : Container} (ht : t.WellFormed) (hd : d.WellFormed)
    (h : t.merge d = ⟨c, none⟩) : c.WellFormed := by
  have hfill := filled_of_merge h
  obtain ⟨env, ports, henv, hports, rfl⟩ := merge_eq_iff.mp h
  refine ⟨fun x hx => ?_, fun x hx => ?_, ht.volumeMounts, fun x hx => ?_, fun x hx => ?_, fun x hx => ?_, ht.extra⟩
  · have hmem : some x ∈ (Merged.addTo EnvVar.addMissing t.env d.env).result.getD [] := by
      rw [henv]
      exact hx
    exact (EnvVar.adds.mem_addTo hmem).elim (ht.env x) (hd.env x)
  · have hmem : some x ∈ (Merged.addTo ContainerPort.addMissing t.ports d.ports).result.getD [] := by
      rw [hports]
      exact hx
    exact (ContainerPort.adds.mem_addTo hmem).elim (ht.ports x) (hd.ports x)
  · rw [hfill.livenessProbe] at hx
    split at hx
    · exact ht.livenessProbe x hx
    · exact hd.livenessProbe x hx
  · rw [hfill.readinessProbe] at hx
    split at hx
    · exact ht.readinessProbe x hx
    · exact hd.readinessProbe x hx
  · rw [hfill.securityContext] at hx
    split at hx
    · exact ht.securityContext x hx
    · exact hd.securityContext x hx

namespace PodSpec

theorem wellFormed_of_mergeContainers {ts ds rs : List (Option Container)} (h : mergeContainers ts ds = ⟨rs, none⟩)
    (ht : ∀ c, some c ∈ ts → c.WellFormed) (hd : ∀ c, some c ∈ ds → c.WellFormed) :
    ∀ c, some c ∈ rs → c.WellFormed := by
  obtain ⟨-, hadded, hkept, hfilled⟩ := mergeContainers_spec h
  intro c hc
  obtain ⟨i, hi⟩ := List.mem_iff_getElem?.mp hc
  cases hti : ts[i]? with
  | none =>
    rw [hadded i (List.getElem?_eq_none_iff.mp hti)] at hi
    exact hd c (List.mem_of_getElem? hi)
  | some t =>
    cases hdi : ds[i]? with
    | none =>
      rw [hkept i (List.getElem?_eq_none_iff.mp hdi)] at hi
      exact ht c (List.mem_of_getElem? hi)
    | some d =>
      obtain ⟨tc, dc, c', rfl, rfl, hr, hmerge⟩ := hfilled i t d hti hdi
      obtain rfl : c' = c := Option.some.inj (Option.some.inj (hr.symm.trans hi))
      exact (ht tc (List.mem_of_getElem? hti)).merge (hd dc (List.mem_of_getElem? hdi)) hmerge

/-- Pods that are merged from pods in order are in order. -/
theorem WellFormed.merge {t d q : PodSpec} {fallback : Value} (ht : t.WellFormed) (hd : d.WellFormed)
    (h : (t.merge d fallback).finished = .ok q) : q.WellFormed := by
  obtain ⟨hextra, hlist⟩ := list_of_merge h
  refine ⟨?_, hextra ▸ ht.extra⟩
  rcases hlist with ⟨-, hname⟩ | ⟨-, hmerge⟩
  · rcases nameFirst_cases hname with ⟨heq, -⟩ | ⟨c, rest, hcs, -, heq⟩
    · rw [heq]
      exact ht.containers
    · rw [heq]
      have hall := ht.containers
      rw [hcs] at hall
      intro x hx
      rcases List.mem_cons.mp hx with hx | hx
      · obtain rfl := Option.some.inj hx
        obtain ⟨henv, hports, hmounts, hliveness, hreadiness, hsecurity, hextra⟩ := hall c List.mem_cons_self
        exact ⟨henv, hports, hmounts, hliveness, hreadiness, hsecurity, hextra⟩
      · exact hall x (List.mem_cons_of_mem _ hx)
  · exact wellFormed_of_mergeContainers hmerge ht.containers hd.containers

end PodSpec

end KubeManifest
