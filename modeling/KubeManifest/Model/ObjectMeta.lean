import KubeManifest.Model.Entries

/-!
# Metadata

`ObjectMeta` : the name of a resource, with its labels and annotations. What does not count as given among
labels and annotations stands for none.
-/

namespace KubeManifest

open Model

structure ObjectMeta where
  name : Value := .null
  namespaceName : Value := .null
  labels : Value := .ofFields []
  annotations : Value := .ofFields []
  creationTimestamp : Value := .null
  extra : Fields := []

namespace ObjectMeta

def names : List String := ["annotations", "creationTimestamp", "labels", "name", "namespace"]

def ofFields (fs : Fields) : ObjectMeta where
  name := field fs "name"
  namespaceName := field fs "namespace"
  labels := (field fs "labels").orElse (.ofFields [])
  annotations := (field fs "annotations").orElse (.ofFields [])
  creationTimestamp := field fs "creationTimestamp"
  extra := extraOf names fs

def read? (v : Value) : Except Misfit (Option ObjectMeta) := do
  return (← entriesOf? "ObjectMeta" v).map ofFields

def toValue (m : ObjectMeta) : Value :=
  .ofFields (compact [("annotations", m.annotations), ("creationTimestamp", m.creationTimestamp),
    ("labels", m.labels), ("name", m.name), ("namespace", m.namespaceName)] ++ m.extra)

def parts (m : ObjectMeta) : Value :=
  .ofList [m.name, m.namespaceName, m.labels, m.annotations, m.creationTimestamp, .ofFields m.extra]

end ObjectMeta

end KubeManifest
