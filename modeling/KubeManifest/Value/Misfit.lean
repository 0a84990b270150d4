/-!
# Values that do not fit

`Misfit` : the ways in which an operation meets a value that it is not defined for. Only a model that
meets something other than a mapping has a message for it.
-/

namespace KubeManifest

/-- The ways in which a value does not fit an operation: it is of another kind, it lacks the part that is
asked for, it is of the right kind but out of range, or a model is read from something else than a
mapping. -/
inductive Misfit
  | wrongKind
  | noSuchPart
  | badValue
  | notMapping (model kind : String)
deriving DecidableEq, Repr

def Misfit.message : Misfit → Option String
  | notMapping model kind => some (model ++ " expects a mapping, got " ++ kind)
  | _ => none

end KubeManifest
