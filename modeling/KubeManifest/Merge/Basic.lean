import KubeManifest.Value.Misfit

/-!
# Results of merging

`Merged` : what became of a value, and the misfit that ended the work on it early, if one did. What was
done before the misfit stays done.
-/

namespace KubeManifest

/-- What became of a value, and the misfit that ended the work on it. -/
structure Merged (α : Type) where
  result : α
  misfit : Option Misfit := none
deriving Repr

namespace Merged

/-- Goes on with a further step, unless a misfit ended the work. -/
def andThen {α : Type} (m : Merged α) (step : α → Merged α) : Merged α :=
  match m.misfit with
  | none => step m.result
  | some _ => m

/-- The same work on a part of a larger value. -/
def within {α β : Type} (m : Merged α) (put : α → β) : Merged β :=
  ⟨put m.result, m.misfit⟩

/-- The result, unless a misfit ended the work. -/
def finished {α : Type} (m : Merged α) : Except Misfit α :=
  match m.misfit with
  | none => .ok m.result
  | some misfit => .error misfit

@[simp] theorem andThen_none {α : Type} (x : α) (step : α → Merged α) :
    andThen ⟨x, none⟩ step = step x := rfl

@[simp] theorem andThen_some {α : Type} (x : α) (m : Misfit) (step : α → Merged α) :
    andThen ⟨x, some m⟩ step = ⟨x, some m⟩ := rfl

@[simp] theorem within_mk {α β : Type} (x : α) (m : Option Misfit) (put : α → β) :
    within ⟨x, m⟩ put = ⟨put x, m⟩ := rfl

@[simp] theorem finished_none {α : Type} (x : α) : finished ⟨x, none⟩ = .ok x := rfl

end Merged

end KubeManifest
