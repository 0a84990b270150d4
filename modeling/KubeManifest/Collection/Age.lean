import KubeManifest.Moment.Iso
import KubeManifest.Resource
import KubeManifest.Value.Display

/-!
# The age of resources

* `Resource.created?` : the instant at which a resource was created, if it says so;
* `Resource.isNewer` : whether one resource was created after another one. A resource without a time is
  newer than nothing and older than every other.
-/

namespace KubeManifest

/-- A text with the letter of UTC written as an offset. -/
def Moment.spellOutUtc (s : String) : String :=
  String.ofList (s.toList.flatMap fun c => if c == 'Z' then "+00:00".toList else [c])

namespace Resource

def created? (r : Resource) : Except Misfit (Option Moment) :=
  let stamp := r.metadata.creationTimestamp
  if !stamp.isTruthy then .ok none
  else
    match stamp with
    | .scalar (.moment (.instant d c offset) _) _ => .ok (some (.instant d c offset))
    | _ =>
      match Moment.ofIso? (Moment.spellOutUtc stamp.display) with
      | some m => .ok (some m)
      | none => .error .badValue

/-- Whether one moment is after another one. Instants with and without an offset have no order. -/
def isAfter (a b : Moment) : Except Misfit Bool :=
  if a.hasOffset == b.hasOffset then .ok (a.microseconds > b.microseconds) else .error .wrongKind

/-- Whether a resource was created after another one. -/
def isNewer (newer older : Resource) : Except Misfit Bool := do
  let t ← newer.created?
  let u ← older.created?
  match t, u with
  | none, _ => return false
  | some _, none => return true
  | some t, some u => isAfter t u

end Resource

end KubeManifest
