import KubeManifest.Model.Container
import KubeManifest.Model.ObjectMeta
import KubeManifest.Proofs.Model.Shape

/-!
# The shapes of the models

* `Model.Writes` : a model is read and written again as its layout says;
* `Model.Writes.optional`, `Model.Writes.many` : so are a model that may be missing, and a list of models;
* `Probe.writes`, `Container.writes`, `PodSpec.writes`, `ObjectMeta.writes` : the models of a resource and their
  layouts.
-/

namespace KubeManifest

open Model

namespace Model

variable {α : Type} {read : Value → Except Misfit (Option α)} {write : α → Except Misfit Value} {layout : Layout}

def writeOne (write : α → Except Misfit Value) : Option α → Except Misfit Value
  | some m => write m
  | none => .error .noSuchPart

/-- Writes a list of models, none of which may be missing. -/
def writeAll (write : α → Except Misfit Value) : Option (List (Option α)) → Except Misfit Value
  | none => .ok .null
  | some models => do return .ofList (← models.mapM (writeOne write))

theorem written_eq_writeAll (put : α → Value) (models : Option (List (Option α))) :
    written put models = writeAll (fun m => .ok (put m)) models := by
  cases models with
  | none => rfl
  | some ms =>
    refine congrArg (fun f => ms.mapM f >>= fun ws => pure (Value.ofList ws)) ?_
    funext m
    cases m <;> rfl

/-- A model that is read and written again as a layout says. Only a mapping is a model, and null stands for none. -/
structure Writes (read : Value → Except Misfit (Option α)) (write : α → Except Misfit Value)
    (layout : Layout) : Prop where
  other : ∀ v : Value, v.fields? = none → (read v).toOption = if v.isNull then some none else none
  given : ∀ fs mark, read (.map fs mark) ≠ .ok none
  map : ∀ fs mark, (read (.map fs mark) >>= writeOne write).toOption = layout.write fs

theorem entriesOf?_of_fields?_eq_none {model : String} {v : Value} (h : v.fields? = none) :
    entriesOf? model v = if v.isNull then .ok none else .error (.notMapping model v.kindName) := by
  cases v with
  | scalar s mark => cases s <;> rfl
  | list items mark => rfl
  | map fs mark => cases h

theorem entriesOf?_map_bind {β : Type} (model : String) (fs : Fields) (mark : Option Mark)
    (f : Option Fields → Except Misfit β) : (entriesOf? model (.map fs mark) >>= f) = f (some fs) := rfl

/-- One item of a list of models. -/
theorem Writes.item (h : Writes read write layout) (v : Value) :
    (read v >>= writeOne write).toOption = v.withFields layout.write := by
  cases hf : v.fields? with
  | some fs =>
    cases v with
    | map fs mark => exact h.map fs mark
    | _ => cases hf
  | none =>
    rw [toOption_bind, h.other v hf, Value.withFields, hf]
    split <;> rfl

theorem Writes.items (h : Writes read write layout) (xs : List Value) :
    (xs.mapM read >>= fun ms => ms.mapM (writeOne write)).toOption =
      xs.mapM fun x => x.withFields layout.write := by
  induction xs with
  | nil => rfl
  | cons x xs ih =>
    have hx := h.item x
    rw [List.mapM_cons, List.mapM_cons, ← hx, ← ih]
    cases read x with
    | error e => rfl
    | ok m =>
      cases xs.mapM read with
      | error e => cases hw : writeOne write m <;> simp [bind, Except.bind, Except.toOption, hw]
      | ok ms =>
        cases hw : writeOne write m <;> cases hws : ms.mapM (writeOne write) <;>
          simp [bind, Except.bind, pure, Except.pure, Except.toOption, List.mapM_cons, hw, hws]

/-- A list of models that is read and written again. -/
theorem Writes.many (h : Writes read write layout) (v : Value) :
    (Shape.models layout).rewrite v = (many read v >>= writeAll write).toOption := by
  rw [Shape.rewrite, Model.many]
  split
  · rfl
  · cases itemsOf v with
    | error e => rfl
    | ok xs =>
      change Option.bind (xs.mapM fun x => x.withFields layout.write) (fun ws => some (Value.ofList ws)) = _
      rw [← h.items xs]
      change _ = ((xs.mapM read >>= fun ms => pure (some ms)) >>= writeAll write).toOption
      cases xs.mapM read with
      | error e => rfl
      | ok ms =>
        change Option.bind (ms.mapM (writeOne write)).toOption _ =
          (ms.mapM (writeOne write) >>= fun ws => pure (Value.ofList ws)).toOption
        cases ms.mapM (writeOne write) <;> rfl

/-- A model that may be missing, read and written again. -/
theorem Writes.optional {put : α → Value} (h : Writes read (fun m => .ok (put m)) layout) (v : Value) :
    (Shape.model layout).rewrite v = ((read v).map (Model.optional put)).toOption := by
  rw [Shape.rewrite]
  cases hf : v.fields? with
  | none =>
    have hr := h.other v hf
    rw [Value.withFields, hf]
    cases hn : v.isNull with
    | true =>
      rw [hn, if_pos rfl, toOption_eq_some] at hr
      rw [hr]
      rfl
    | false =>
      rw [hn] at hr
      cases hv : read v with
      | error e => rfl
      | ok m =>
        rw [hv] at hr
        cases hr
  | some fs =>
    cases v with
    | scalar s mark => cases hf
    | list items mark => cases hf
    | map fs mark =>
      change layout.write fs = _
      rw [← h.map fs mark]
      cases hr : read (.map fs mark) with
      | error e => rfl
      | ok m =>
        cases m with
        | none => exact absurd hr (h.given fs mark)
        | some m => rfl

end Model

/-! ## Probes -/

namespace HttpGet

def layout : Layout :=
  .ofList [("host", .copy), ("httpHeaders", .copy), ("path", .copy), ("port", .copy), ("scheme", .copy)]

theorem writes : Writes read? (fun m => .ok m.toValue) layout where
  other v h := by
    rw [read?, entriesOf?_of_fields?_eq_none h]
    split <;> rfl
  given fs mark h := by cases h
  map fs mark := rfl

end HttpGet

namespace Exec

def layout : Layout :=
  .ofList [("command", .copy)]

theorem writes : Writes read? (fun m => .ok m.toValue) layout where
  other v h := by
    rw [read?, entriesOf?_of_fields?_eq_none h]
    split <;> rfl
  given fs mark h := by cases h
  map fs mark := rfl

end Exec

namespace TcpSocket

def layout : Layout :=
  .ofList [("host", .copy), ("port", .copy)]

theorem writes : Writes read? (fun m => .ok m.toValue) layout where
  other v h := by
    rw [read?, entriesOf?_of_fields?_eq_none h]
    split <;> rfl
  given fs mark h := by cases h
  map fs mark := rfl

end TcpSocket

namespace Probe

def layout : Layout :=
  .ofList [("exec", .model Exec.layout), ("failureThreshold", .copy), ("httpGet", .model HttpGet.layout),
    ("initialDelaySeconds", .copy), ("periodSeconds", .copy), ("successThreshold", .copy),
    ("tcpSocket", .model TcpSocket.layout), ("timeoutSeconds", .copy)]

theorem writes : Writes read? (fun m => .ok m.toValue) layout where
  other v h := by
    rw [read?, entriesOf?_of_fields?_eq_none h]
    split <;> rfl
  given fs mark := by
    rw [read?, entriesOf?_map_bind]
    dsimp only
    cases Exec.read? (Fields.get fs "exec") <;> cases HttpGet.read? (Fields.get fs "httpGet") <;>
      cases TcpSocket.read? (Fields.get fs "tcpSocket") <;> exact fun h => by cases h
  map fs mark := by
    rw [layout, Layout.write]
    simp only [Layout.ofList, Layout.fields]
    rw [Exec.writes.optional, HttpGet.writes.optional, TcpSocket.writes.optional]
    rw [read?, entriesOf?_map_bind]
    dsimp only
    cases Exec.read? (Fields.get fs "exec") <;> cases HttpGet.read? (Fields.get fs "httpGet") <;>
      cases TcpSocket.read? (Fields.get fs "tcpSocket") <;> rfl

end Probe

/-! ## Containers -/

namespace EnvVar

def layout : Layout :=
  .ofList [("name", .copy), ("value", .copy), ("valueFrom", .copy)]

theorem writes : Writes read? (fun m => .ok m.toValue) layout where
  other v h := by
    rw [read?, entriesOf?_of_fields?_eq_none h]
    split <;> rfl
  given fs mark h := by cases h
  map fs mark := rfl

end EnvVar

namespace ContainerPort

def layout : Layout :=
  .ofList [("containerPort", .copy), ("hostIP", .copy), ("hostPort", .copy), ("name", .copy),
    ("protocol", .copy)]

theorem writes : Writes read? (fun m => .ok m.toValue) layout where
  other v h := by
    rw [read?, entriesOf?_of_fields?_eq_none h]
    split <;> rfl
  given fs mark h := by cases h
  map fs mark := rfl

end ContainerPort

namespace VolumeMount

def layout : Layout :=
  .ofList [("mountPath", .copy), ("name", .copy), ("readOnly", .copy), ("subPath", .copy)]

theorem writes : Writes read? (fun m => .ok m.toValue) layout where
  other v h := by
    rw [read?, entriesOf?_of_fields?_eq_none h]
    split <;> rfl
  given fs mark h := by cases h
  map fs mark := rfl

end VolumeMount

namespace SecurityContext

def layout : Layout :=
  .ofList [("allowPrivilegeEscalation", .copy), ("capabilities", .copy), ("privileged", .copy),
    ("readOnlyRootFilesystem", .copy), ("runAsNonRoot", .copy), ("runAsUser", .copy)]

theorem writes : Writes read? (fun m => .ok m.toValue) layout where
  other v h := by
    rw [read?, entriesOf?_of_fields?_eq_none h]
    split <;> rfl
  given fs mark h := by cases h
  map fs mark := rfl

end SecurityContext

namespace Container

def layout : Layout :=
  .ofList [("args", .copy), ("command", .copy), ("env", .models EnvVar.layout), ("image", .copy),
    ("imagePullPolicy", .copy), ("livenessProbe", .model Probe.layout), ("name", .copy),
    ("ports", .models ContainerPort.layout), ("readinessProbe", .model Probe.layout), ("resources", .copy),
    ("securityContext", .model SecurityContext.layout), ("stdin", .copy), ("stdinOnce", .copy),
    ("terminationMessagePath", .copy), ("terminationMessagePolicy", .copy), ("tty", .copy),
    ("volumeMounts", .models VolumeMount.layout), ("workingDir", .copy)]

theorem writes : Writes read? toValue? layout where
  other v h := by
    rw [read?, entriesOf?_of_fields?_eq_none h]
    split <;> rfl
  given fs mark := by
    rw [read?, entriesOf?_map_bind]
    intro h
    obtain ⟨env, -, h⟩ := bind_eq_ok.mp h
    obtain ⟨liveness, -, h⟩ := bind_eq_ok.mp h
    obtain ⟨ports, -, h⟩ := bind_eq_ok.mp h
    obtain ⟨readiness, -, h⟩ := bind_eq_ok.mp h
    obtain ⟨security, -, h⟩ := bind_eq_ok.mp h
    obtain ⟨mounts, -, h⟩ := bind_eq_ok.mp h
    cases h
  map fs mark := by
    rw [layout, Layout.write]
    simp only [Layout.ofList, Layout.fields]
    rw [EnvVar.writes.many, Probe.writes.optional, ContainerPort.writes.many, Probe.writes.optional,
      SecurityContext.writes.optional, VolumeMount.writes.many]
    rw [read?, entriesOf?_map_bind]
    dsimp only
    cases many EnvVar.read? (Fields.get fs "env") with
    | error e => rfl
    | ok env =>
      cases Probe.read? (Fields.get fs "livenessProbe") with
      | error e => simp [toOption_bind, Shape.rewrite]
      | ok liveness =>
        cases many ContainerPort.read? (Fields.get fs "ports") with
        | error e => simp [toOption_bind, Shape.rewrite]
        | ok ports =>
          cases Probe.read? (Fields.get fs "readinessProbe") with
          | error e => simp [toOption_bind, Shape.rewrite]
          | ok readiness =>
            cases SecurityContext.read? (Fields.get fs "securityContext") with
            | error e => simp [toOption_bind, Shape.rewrite]
            | ok security =>
              cases many VolumeMount.read? (Fields.get fs "volumeMounts") with
              | error e => simp [toOption_bind, Shape.rewrite]
              | ok mounts =>
                change (toValue? _).toOption = _
                rw [toValue?, written_eq_writeAll, written_eq_writeAll, written_eq_writeAll]
                simp only [ok_bind]
                cases writeAll (fun m => .ok (EnvVar.toValue m)) env with
                | error e => rfl
                | ok env =>
                  cases writeAll (fun m => .ok (ContainerPort.toValue m)) ports with
                  | error e => rfl
                  | ok ports => cases writeAll (fun m => .ok (VolumeMount.toValue m)) mounts <;> rfl

end Container

namespace PodSpec

theorem toValue?_eq_writeAll (p : PodSpec) :
    p.toValue? = writeAll Container.toValue? p.containers >>= fun containers =>
      .ok (.ofFields (compact [("containers", containers)] ++ p.extra)) := by
  obtain ⟨containers, extra⟩ := p
  cases containers with
  | none => rfl
  | some cs =>
    let put (ws : List Value) : Except Misfit Value :=
      .ok (.ofFields (compact [("containers", .ofList ws)] ++ extra))
    calc toValue? ⟨some cs, extra⟩ = cs.mapM (writeOne Container.toValue?) >>= put := by
          refine congrArg (fun f => cs.mapM f >>= put) ?_
          funext c
          cases c <;> rfl
      _ = writeAll Container.toValue? (some cs) >>= _ := by
          rw [writeAll]
          cases cs.mapM (writeOne Container.toValue?) <;> rfl

def layout : Layout :=
  .ofList [("containers", .models Container.layout)]

theorem writes : Writes read? toValue? layout where
  other v h := by
    rw [read?, entriesOf?_of_fields?_eq_none h]
    split <;> rfl
  given fs mark := by
    rw [read?, entriesOf?_map_bind]
    dsimp only
    split
    · cases many Container.read? (Fields.get fs "containers") <;> exact fun h => by cases h
    · exact fun h => by cases h
  map fs mark := by
    rw [layout, Layout.write]
    simp only [Layout.ofList, Layout.fields]
    rw [Container.writes.many, read?, entriesOf?_map_bind]
    dsimp only
    split
    · cases many Container.read? (Fields.get fs "containers") with
      | error e => rfl
      | ok containers =>
        cases containers with
        | none => rfl
        | some cs =>
          change (toValue? { containers := some cs, extra := extraOf ["containers"] fs }).toOption = _
          rw [toValue?_eq_writeAll]
          simp only [ok_bind]
          cases writeAll Container.toValue? (some cs) <;> rfl
    · rename_i hno
      have hnone : Fields.get fs "containers" = .null := by
        rw [Fields.get]
        rw [Fields.has, Option.not_isSome_iff_eq_none] at hno
        rw [hno]
        rfl
      rw [hnone]
      rfl

end PodSpec

namespace ObjectMeta

def layout : Layout :=
  .ofList [("annotations", .given), ("creationTimestamp", .copy), ("labels", .given), ("name", .copy),
    ("namespace", .copy)]

theorem writes : Writes read? (fun m => .ok m.toValue) layout where
  other v h := by
    rw [read?, entriesOf?_of_fields?_eq_none h]
    split <;> rfl
  given fs mark h := by cases h
  map fs mark := rfl

end ObjectMeta

end KubeManifest
