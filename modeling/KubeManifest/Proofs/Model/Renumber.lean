import KubeManifest.Proofs.Model.Models
import KubeManifest.Proofs.Value.Renumber

/-!
# Models of documents with other numbers

* `Model.Renumbers` : a model that is read and written the same way, whatever the numbers of the documents are;
* `Model.Renumbers.many`, `Model.Renumbers.writeAll`, `Model.Renumbers.optional` : so are a list of models, and a
  model that may be missing;
* `Container.renumbers`, `PodSpec.renumbers`, `ObjectMeta.renumbers` : the models of a resource.
-/

namespace KubeManifest

open Model
open Relabeling (renumber)

namespace Model

/-! ## Lists of models, and models that may be missing -/

variable {α : Type} {read : Value → Except Misfit (Option α)} {write : α → Except Misfit Value}
  {other : (Nat → Nat) → α → α}

/-- A model that is read and written the same way when documents get other numbers. -/
structure Renumbers (read : Value → Except Misfit (Option α)) (write : α → Except Misfit Value)
    (other : (Nat → Nat) → α → α) : Prop where
  read : ∀ f v, read (v.relabel (renumber f)) = (read v).map (Option.map (other f))
  write : ∀ f m, write (other f m) = (write m).map (Value.relabel (renumber f))

theorem Renumbers.many (h : Renumbers read write other) (f : Nat → Nat) (v : Value) :
    many read (v.relabel (renumber f)) = (many read v).map (Option.map (List.map (Option.map (other f)))) := by
  rw [Model.many, Model.many, Value.isNull_relabel]
  split
  · rfl
  · rw [itemsOf_renumber]
    refine map_bind_map fun xs => ?_
    rw [mapM_map_of_map (h.read f)]
    exact map_bind_map fun ms => rfl

theorem Renumbers.writeAll (h : Renumbers read write other) (f : Nat → Nat) (ms : Option (List (Option α))) :
    writeAll write (ms.map (List.map (Option.map (other f)))) =
      (writeAll write ms).map (Value.relabel (renumber f)) := by
  have hone : ∀ m : Option α, writeOne write (m.map (other f)) =
      (writeOne write m).map (Value.relabel (renumber f)) := by
    intro m
    cases m with
    | none => rfl
    | some m => exact h.write f m
  cases ms with
  | none => exact congrArg Except.ok (Value.relabel_null _).symm
  | some ms =>
    rw [Option.map_some, Model.writeAll, Model.writeAll, mapM_map_of_map hone]
    exact map_bind_map fun vs => congrArg Except.ok (Value.relabel_ofList _ vs).symm

theorem Renumbers.toValue {put : α → Value} (h : Renumbers read (fun m => .ok (put m)) other) (f : Nat → Nat) (m : α) :
    put (other f m) = (put m).relabel (renumber f) :=
  Except.ok.inj (h.write f m)

theorem Renumbers.optional {put : α → Value} (h : Renumbers read (fun m => .ok (put m)) other) (f : Nat → Nat)
    (m : Option α) : optional put (m.map (other f)) = (optional put m).relabel (renumber f) := by
  cases m with
  | none => exact (Value.relabel_null _).symm
  | some m => exact h.toValue f m

theorem Renumbers.written {put : α → Value} (h : Renumbers read (fun m => .ok (put m)) other) (f : Nat → Nat)
    (ms : Option (List (Option α))) :
    written put (ms.map (List.map (Option.map (other f)))) = (written put ms).map (Value.relabel (renumber f)) := by
  rw [written_eq_writeAll, written_eq_writeAll, h.writeAll]

theorem entriesOf?_bind_renumber {β γ : Type} {model : String} {f : Nat → Nat} {k : Option Fields → Except Misfit β}
    {k' : Option Fields → Except Misfit γ} {g : β → γ} (hnone : k' none = (k none).map g)
    (hsome : ∀ fs, k' (some (fs.relabel (renumber f))) = (k (some fs)).map g) (v : Value) :
    (entriesOf? model (v.relabel (renumber f)) >>= k') = (entriesOf? model v >>= k).map g := by
  rw [entriesOf?_renumber]
  refine map_bind_map fun fs => ?_
  cases fs with
  | none => exact hnone
  | some fs => exact hsome fs

/-- What a model writes. -/
theorem relabel_written (f : Nat → Nat) (fields : List (String × Value)) (extra : Fields) :
    (Value.ofFields (compact fields ++ extra)).relabel (renumber f) =
      .ofFields (compact (fields.map fun p => (p.1, p.2.relabel (renumber f))) ++ extra.relabel (renumber f)) := by
  rw [compact_renumber, Value.relabel_ofFields, Fields.relabel_append]

end Model

/-! ## Probes -/

namespace HttpGet

def renumber (f : Nat → Nat) (m : HttpGet) : HttpGet where
  path := m.path.relabel (.renumber f)
  port := m.port.relabel (.renumber f)
  host := m.host.relabel (.renumber f)
  scheme := m.scheme.relabel (.renumber f)
  httpHeaders := m.httpHeaders.relabel (.renumber f)
  extra := m.extra.relabel (.renumber f)

theorem renumbers : Renumbers read? (fun m => .ok m.toValue) renumber where
  read f := entriesOf?_bind_renumber rfl fun fs => by simp [renumber, Except.map, pure, Except.pure]
  write f m := congrArg Except.ok (by rw [toValue, toValue, relabel_written]; rfl)

end HttpGet

namespace Exec

def renumber (f : Nat → Nat) (m : Exec) : Exec where
  command := m.command.relabel (.renumber f)
  extra := m.extra.relabel (.renumber f)

theorem renumbers : Renumbers read? (fun m => .ok m.toValue) renumber where
  read f := entriesOf?_bind_renumber rfl fun fs => by simp [renumber, Except.map, pure, Except.pure]
  write f m := congrArg Except.ok (by rw [toValue, toValue, relabel_written]; rfl)

end Exec

namespace TcpSocket

def renumber (f : Nat → Nat) (m : TcpSocket) : TcpSocket where
  port := m.port.relabel (.renumber f)
  host := m.host.relabel (.renumber f)
  extra := m.extra.relabel (.renumber f)

theorem renumbers : Renumbers read? (fun m => .ok m.toValue) renumber where
  read f := entriesOf?_bind_renumber rfl fun fs => by simp [renumber, Except.map, pure, Except.pure]
  write f m := congrArg Except.ok (by rw [toValue, toValue, relabel_written]; rfl)

end TcpSocket

namespace Probe

def renumber (f : Nat → Nat) (m : Probe) : Probe where
  httpGet := m.httpGet.map (HttpGet.renumber f)
  exec := m.exec.map (Exec.renumber f)
  tcpSocket := m.tcpSocket.map (TcpSocket.renumber f)
  initialDelaySeconds := m.initialDelaySeconds.relabel (.renumber f)
  timeoutSeconds := m.timeoutSeconds.relabel (.renumber f)
  periodSeconds := m.periodSeconds.relabel (.renumber f)
  successThreshold := m.successThreshold.relabel (.renumber f)
  failureThreshold := m.failureThreshold.relabel (.renumber f)
  extra := m.extra.relabel (.renumber f)

theorem renumbers : Renumbers read? (fun m => .ok m.toValue) renumber where
  read f := by
    refine entriesOf?_bind_renumber rfl fun fs => ?_
    dsimp only
    rw [Fields.get_relabel, Fields.get_relabel, Fields.get_relabel, Exec.renumbers.read, HttpGet.renumbers.read,
      TcpSocket.renumbers.read]
    refine map_bind_map fun exec => map_bind_map fun httpGet => map_bind_map fun tcpSocket => ?_
    simp [renumber, Except.map, pure, Except.pure]
  write f m := by
    rw [toValue, toValue, Except.map, relabel_written, renumber, Exec.renumbers.optional, HttpGet.renumbers.optional,
      TcpSocket.renumbers.optional]
    rfl

end Probe

/-! ## Containers -/

namespace EnvVar

def renumber (f : Nat → Nat) (m : EnvVar) : EnvVar where
  name := m.name.relabel (.renumber f)
  value := m.value.relabel (.renumber f)
  valueFrom := m.valueFrom.relabel (.renumber f)
  extra := m.extra.relabel (.renumber f)

theorem renumbers : Renumbers read? (fun m => .ok m.toValue) renumber where
  read f := entriesOf?_bind_renumber rfl fun fs => by simp [renumber, Except.map, pure, Except.pure]
  write f m := congrArg Except.ok (by rw [toValue, toValue, relabel_written]; rfl)

end EnvVar

namespace ContainerPort

def renumber (f : Nat → Nat) (m : ContainerPort) : ContainerPort where
  containerPort := m.containerPort.relabel (.renumber f)
  hostPort := m.hostPort.relabel (.renumber f)
  hostIP := m.hostIP.relabel (.renumber f)
  name := m.name.relabel (.renumber f)
  protocol := m.protocol.relabel (.renumber f)
  extra := m.extra.relabel (.renumber f)

theorem renumbers : Renumbers read? (fun m => .ok m.toValue) renumber where
  read f := entriesOf?_bind_renumber rfl fun fs => by simp [renumber, Except.map, pure, Except.pure]
  write f m := congrArg Except.ok (by rw [toValue, toValue, relabel_written]; rfl)

end ContainerPort

namespace VolumeMount

def renumber (f : Nat → Nat) (m : VolumeMount) : VolumeMount where
  name := m.name.relabel (.renumber f)
  mountPath := m.mountPath.relabel (.renumber f)
  readOnly := m.readOnly.relabel (.renumber f)
  subPath := m.subPath.relabel (.renumber f)
  extra := m.extra.relabel (.renumber f)

theorem renumbers : Renumbers read? (fun m => .ok m.toValue) renumber where
  read f := entriesOf?_bind_renumber rfl fun fs => by simp [renumber, Except.map, pure, Except.pure]
  write f m := congrArg Except.ok (by rw [toValue, toValue, relabel_written]; rfl)

end VolumeMount

namespace SecurityContext

def renumber (f : Nat → Nat) (m : SecurityContext) : SecurityContext where
  privileged := m.privileged.relabel (.renumber f)
  runAsUser := m.runAsUser.relabel (.renumber f)
  runAsNonRoot := m.runAsNonRoot.relabel (.renumber f)
  readOnlyRootFilesystem := m.readOnlyRootFilesystem.relabel (.renumber f)
  allowPrivilegeEscalation := m.allowPrivilegeEscalation.relabel (.renumber f)
  capabilities := m.capabilities.relabel (.renumber f)
  extra := m.extra.relabel (.renumber f)

theorem renumbers : Renumbers read? (fun m => .ok m.toValue) renumber where
  read f := entriesOf?_bind_renumber rfl fun fs => by simp [renumber, Except.map, pure, Except.pure]
  write f m := congrArg Except.ok (by rw [toValue, toValue, relabel_written]; rfl)

end SecurityContext

namespace Container

def renumber (f : Nat → Nat) (m : Container) : Container where
  name := m.name.relabel (.renumber f)
  image := m.image.relabel (.renumber f)
  imagePullPolicy := m.imagePullPolicy.relabel (.renumber f)
  command := m.command.relabel (.renumber f)
  args := m.args.relabel (.renumber f)
  workingDir := m.workingDir.relabel (.renumber f)
  env := m.env.map (List.map (Option.map (EnvVar.renumber f)))
  ports := m.ports.map (List.map (Option.map (ContainerPort.renumber f)))
  volumeMounts := m.volumeMounts.map (List.map (Option.map (VolumeMount.renumber f)))
  livenessProbe := m.livenessProbe.map (Probe.renumber f)
  readinessProbe := m.readinessProbe.map (Probe.renumber f)
  securityContext := m.securityContext.map (SecurityContext.renumber f)
  resources := m.resources.relabel (.renumber f)
  stdin := m.stdin.relabel (.renumber f)
  stdinOnce := m.stdinOnce.relabel (.renumber f)
  tty := m.tty.relabel (.renumber f)
  terminationMessagePath := m.terminationMessagePath.relabel (.renumber f)
  terminationMessagePolicy := m.terminationMessagePolicy.relabel (.renumber f)
  extra := m.extra.relabel (.renumber f)

theorem renumbers : Renumbers read? toValue? renumber where
  read f := by
    refine entriesOf?_bind_renumber rfl fun fs => ?_
    simp only [Fields.get_relabel, EnvVar.renumbers.many, Probe.renumbers.read, ContainerPort.renumbers.many,
      SecurityContext.renumbers.read, VolumeMount.renumbers.many]
    refine map_bind_map fun env => map_bind_map fun liveness => map_bind_map fun ports => ?_
    refine map_bind_map fun readiness => map_bind_map fun security => map_bind_map fun mounts => ?_
    simp [renumber, Except.map, pure, Except.pure]
  write f m := by
    rw [toValue?, toValue?, renumber, EnvVar.renumbers.written, ContainerPort.renumbers.written,
      VolumeMount.renumbers.written]
    refine map_bind_map fun env => map_bind_map fun ports => map_bind_map fun mounts => congrArg Except.ok ?_
    rw [relabel_written, Probe.renumbers.optional, Probe.renumbers.optional, SecurityContext.renumbers.optional]
    rfl

end Container

namespace PodSpec

def renumber (f : Nat → Nat) (m : PodSpec) : PodSpec where
  containers := m.containers.map (List.map (Option.map (Container.renumber f)))
  extra := m.extra.relabel (.renumber f)

theorem renumbers : Renumbers read? toValue? renumber where
  read f := by
    refine entriesOf?_bind_renumber rfl fun fs => ?_
    dsimp only
    rw [Fields.has_relabel]
    cases Fields.has fs "containers" with
    | false => simp [renumber, Except.map, pure, Except.pure, bind, Except.bind]
    | true =>
      rw [Fields.get_relabel, if_pos rfl, Container.renumbers.many]
      refine map_bind_map fun containers => ?_
      simp [renumber, Except.map, pure, Except.pure]
  write f m := by
    rw [toValue?_eq_writeAll, toValue?_eq_writeAll, renumber, Container.renumbers.writeAll]
    refine map_bind_map fun containers => congrArg Except.ok ?_
    rw [relabel_written]
    rfl

end PodSpec

/-! ## Metadata -/

namespace ObjectMeta

def renumber (f : Nat → Nat) (m : ObjectMeta) : ObjectMeta where
  name := m.name.relabel (.renumber f)
  namespaceName := m.namespaceName.relabel (.renumber f)
  labels := m.labels.relabel (.renumber f)
  annotations := m.annotations.relabel (.renumber f)
  creationTimestamp := m.creationTimestamp.relabel (.renumber f)
  extra := m.extra.relabel (.renumber f)

theorem ofFields_renumber (f : Nat → Nat) (fs : Fields) :
    ofFields (fs.relabel (.renumber f)) = (ofFields fs).renumber f := by
  have horElse : ∀ name, ((field fs name).relabel (.renumber f)).orElse (.ofFields []) =
      ((field fs name).orElse (.ofFields [])).relabel (.renumber f) :=
    fun name => Value.orElse_relabel (.renumber f) _ (.ofFields [])
  simp [ofFields, renumber, horElse]

theorem renumbers : Renumbers read? (fun m => .ok m.toValue) renumber where
  read f v := by
    rw [read?, read?, entriesOf?_renumber]
    refine map_bind_map fun fs => ?_
    cases fs with
    | none => rfl
    | some fs => exact congrArg (fun m => Except.ok (some m)) (ofFields_renumber f fs)
  write f m := congrArg Except.ok (by rw [toValue, toValue, relabel_written]; rfl)

end ObjectMeta
end KubeManifest
