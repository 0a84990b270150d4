import KubeManifest.Text.Case

/-!
# Tokens and kinds

* `KindTable` : short tokens of file names with the kinds that they name, in the order of mention;
* `KindTable.kindFor?` : the kind of a token in any case; the last mention of a token counts;
* `KindTable.tokenFor?` : the token of a kind; the first mention of a kind counts;
* `KindTable.standard` : the usual tokens.
-/

namespace KubeManifest

/-- Tokens and their kinds, in the order of mention. -/
structure KindTable where
  mappings : List (String × String)

namespace KindTable

/-- The kind that a token names. The empty token names none. -/
def kindFor? (t : KindTable) (token : String) : Option String :=
  if token == "" then none
  else (t.mappings.reverse.find? fun (other, _) => Text.lower other == Text.lower token).map (·.2)

/-- The token that names a kind. The empty kind has none. -/
def tokenFor? (t : KindTable) (kind : String) : Option String :=
  if kind == "" then none
  else (t.mappings.find? fun (_, other) => other == kind).map fun (token, _) => Text.lower token

def tokens (t : KindTable) : List String :=
  (t.mappings.map fun (token, _) => Text.lower token).eraseDups

def kinds (t : KindTable) : List String :=
  (t.mappings.map (·.2)).eraseDups

def contains (t : KindTable) (token : String) : Bool :=
  (t.kindFor? token).isSome

def size (t : KindTable) : Nat :=
  t.tokens.length

@[simp] theorem kindFor?_empty (t : KindTable) : t.kindFor? "" = none := rfl

@[simp] theorem tokenFor?_empty (t : KindTable) : t.tokenFor? "" = none := rfl

/-- The usual tokens. The first one of a kind is the one that file names are given. -/
def standard : KindTable where
  mappings := [
    ("cm", "ConfigMap"), ("configmap", "ConfigMap"),
    ("cronjob", "CronJob"), ("cj", "CronJob"),
    ("cr", "ClusterRole"), ("crole", "ClusterRole"), ("clusterrole", "ClusterRole"),
    ("crb", "ClusterRoleBinding"), ("clusterrb", "ClusterRoleBinding"),
    ("deployment", "Deployment"),
    ("is", "ImageStream"), ("istag", "ImageStreamTag"),
    ("lr", "LimitRange"), ("limitrange", "LimitRange"),
    ("ns", "Namespace"), ("namespace", "Namespace"),
    ("oauthclient", "OAuthClient"),
    ("pb", "PolicyBinding"),
    ("pv", "PersistentVolume"), ("pvc", "PersistentVolumeClaim"),
    ("project", "Project"), ("pr", "ProjectRequest"),
    ("rq", "ResourceQuota"), ("resourcequota", "ResourceQuota"),
    ("role", "Role"), ("rb", "RoleBinding"), ("rolebinding", "RoleBinding"),
    ("rbr", "RoleBindingRestriction"), ("rolebindingrestriction", "RoleBindingRestriction"),
    ("secret", "Secret"),
    ("svc", "Service"), ("service", "Service"),
    ("sa", "ServiceAccount"),
    ("rc", "ReplicationController"), ("rs", "ReplicaSet"),
    ("ds", "DaemonSet"), ("daemonset", "DaemonSet"),
    ("statefulset", "StatefulSet"),
    ("bc", "BuildConfig"),
    ("dc", "DeploymentConfig"), ("deploymentconfig", "DeploymentConfig"),
    ("route", "Route"),
    ("template", "Template")]

end KindTable

end KubeManifest
