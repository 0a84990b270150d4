import KubeManifest.Value.Basic

/-!
# Kinds that own pods

`Workload` : the controllers that have a pod template and a pod selector.
-/

namespace KubeManifest

inductive Workload
  | deployment
  | replicaSet
  | deploymentConfig
  | replicationController
  | daemonSet
  | statefulSet
  | job
deriving DecidableEq, Repr

namespace Workload

def name : Workload → String
  | deployment => "Deployment"
  | replicaSet => "ReplicaSet"
  | deploymentConfig => "DeploymentConfig"
  | replicationController => "ReplicationController"
  | daemonSet => "DaemonSet"
  | statefulSet => "StatefulSet"
  | job => "Job"

def all : List Workload :=
  [deployment, replicaSet, deploymentConfig, replicationController, daemonSet, statefulSet, job]

def ofKind? (kind : Value) : Option Workload :=
  all.find? fun w => kind.isText w.name

end Workload

end KubeManifest
