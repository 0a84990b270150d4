import KubeManifest.Proofs.Merge.GapFilling

/-!
# Merged ports

The ports of a merged container are as many as there can be without a conflict, in the order of the lists: those of the
container, and of the default ones every one that conflicts with none before it.

* `ContainerPort.Conflict` : ports that are there and share a name or a number;
* `ContainerPort.MaximalExtension` : what is added conflicts with nothing before it, and what is left out does;
* `Container.merge_maximal` : merged containers.
-/

namespace KubeManifest

/-! ## Conflicts -/

def Value.SameGiven (v w : Value) : Prop :=
  v.isNull = false ∧ w.isNull = false ∧ v.same w = true

namespace ContainerPort

theorem sameGiven_iff {v w : Value} : sameGiven v w = true ↔ v.SameGiven w := by
  simp [sameGiven, Value.SameGiven, and_assoc]

/-- Two ports that are there and have the same name or the same number. -/
def Conflict (e a : Option ContainerPort) : Prop :=
  ∃ p q, e = some p ∧ a = some q ∧ (p.name.SameGiven q.name ∨ p.containerPort.SameGiven q.containerPort)

theorem conflict_some_iff {p q : ContainerPort} :
    Conflict (some p) (some q) ↔ p.name.SameGiven q.name ∨ p.containerPort.SameGiven q.containerPort := by
  simp [Conflict]

/-- Where it can be told whether two ports conflict, it is told rightly. -/
theorem conflict_iff {e a : Option ContainerPort} {b : Bool} (h : conflicts? e a = .ok b) :
    Conflict e a ↔ b = true := by
  cases e with
  | none => cases h
  | some p =>
    cases a with
    | some q =>
      obtain rfl := Except.ok.inj h
      rw [conflict_some_iff, conflicts, Bool.or_eq_true, sameGiven_iff, sameGiven_iff]
    | none =>
      rw [conflicts?] at h
      split at h
      · obtain rfl := Except.ok.inj h
        simp [Conflict]
      · cases h

/-- Ports of which none conflicts with one before it. -/
def ConflictFree (ports : List (Option ContainerPort)) : Prop :=
  ports.Pairwise fun e a => ¬Conflict e a

/-! ## Extensions -/

/-- A list without conflicts beyond those of the list `own`, to which nothing can be added: the ports at the places
that are taken, and no others, conflict with none of `own` and with none that was taken before. -/
structure MaximalExtension (own others all : List (Option ContainerPort)) (taken : Nat → Bool) : Prop where
  all_eq : all = own ++ Merged.itemsAt taken others
  added : ∀ (i : Nat) (a : Option ContainerPort), others[i]? = some a → taken i = true →
    ∀ e ∈ own ++ Merged.itemsAt taken (others.take i), ¬Conflict e a
  leftOut : ∀ (i : Nat) (a : Option ContainerPort), others[i]? = some a → taken i = false →
    ∃ e ∈ own ++ Merged.itemsAt taken (others.take i), Conflict e a

theorem exists_maximalExtension {own others all : List (Option ContainerPort)}
    (h : addMissing own others = ⟨all, none⟩) : ∃ taken, MaximalExtension own others all taken := by
  obtain ⟨taken, heq, htaken⟩ := adds.exists_taken h
  refine ⟨taken, heq, fun i a ha hi e he hc => ?_, fun i a ha hi => ?_⟩
  · have hk := htaken i a ha
    rw [hi] at hk
    have hfalse := (conflict_iff (adds.same_of_not_known hk e he)).mp hc
    cases hfalse
  · have hk := htaken i a ha
    rw [hi] at hk
    obtain ⟨e, he, hsame⟩ := adds.same_of_known hk
    exact ⟨e, he, (conflict_iff hsame).mpr rfl⟩

/-- Ports without conflicts stay so, even if something ends the work. -/
theorem ConflictFree.addMissing {own : List (Option ContainerPort)} (hown : ConflictFree own)
    (others : List (Option ContainerPort)) : ConflictFree (addMissing own others).result := by
  have hapart : ∀ e a, conflicts? e a = .ok false → ¬Conflict e a := fun e a h => by simp [conflict_iff h]
  obtain ⟨added, heq, -, hpair, hdiffer⟩ := adds.exists_added own others
  rw [heq]
  exact List.pairwise_append.mpr
    ⟨hown, hpair.imp fun h => hapart _ _ h, fun e he a ha => hapart e a (hdiffer e he a ha)⟩

end ContainerPort

/-! ## Containers -/

namespace Container

open ContainerPort

/-- The ports of a merge that came to its end. -/
theorem portList_merge {t d c : Container} (h : t.merge d = ⟨c, none⟩) :
    addMissing t.portList d.portList = ⟨c.portList, none⟩ := by
  obtain ⟨env, ports, -, hports, rfl⟩ := merge_eq_iff.mp h
  exact adds.add_of_addTo hports

/-- **Merged ports are a maximal extension without conflicts.** A merge of containers without nulls in their lists
comes to its end. However it came there, the ports of the container are followed by those of the default one that
conflict with none before them, and by no others. So ports without conflicts stay so. -/
theorem merge_maximal (t d : Container) :
    ((∀ e ∈ t.envList ++ d.envList, e.isSome) → (∀ p ∈ t.portList ++ d.portList, p.isSome) →
      ∃ c, t.merge d = ⟨c, none⟩) ∧
    ∀ c, t.merge d = ⟨c, none⟩ → (∃ taken, MaximalExtension t.portList d.portList c.portList taken) ∧
      (ConflictFree t.portList → ConflictFree c.portList) := by
  refine ⟨fun henv hports => ?_, fun c hc => ⟨exists_maximalExtension (portList_merge hc), fun ht => ?_⟩⟩
  · obtain ⟨htenv, hdenv⟩ := List.forall_mem_append.mp henv
    obtain ⟨htports, hdports⟩ := List.forall_mem_append.mp hports
    exact ⟨_, congrArg (Merged.mk _) (merge_misfit htenv hdenv htports hdports)⟩
  · have hfree := ht.addMissing d.portList
    rwa [portList_merge hc] at hfree

/-- Of four default ports one has a number that is there, and one a name that was added before it; the last one has
neither a name nor a number. -/
theorem merge_maximal_web :
    let http : Value := .ofString "http"
    let web : Container := { ports := some [some { containerPort := .ofInt 80 }] }
    let app : Container :=
      { ports := some [some { name := http, containerPort := .ofInt 80 },
          some { name := http, containerPort := .ofInt 8080 }, some { name := http, containerPort := .ofInt 9090 },
          some {}] }
    (∀ e ∈ web.envList ++ app.envList, e.isSome) ∧ (∀ p ∈ web.portList ++ app.portList, p.isSome) ∧
      ConflictFree web.portList ∧
      ∃ c, web.merge app = ⟨c, none⟩ ∧ (∃ taken, MaximalExtension web.portList app.portList c.portList taken) ∧
        ConflictFree c.portList := by
  intro http web app
  have henv : ∀ e ∈ web.envList ++ app.envList, e.isSome := by decide
  have hports : ∀ p ∈ web.portList ++ app.portList, p.isSome := by decide
  have hfree : ConflictFree web.portList := List.pairwise_singleton _ _
  obtain ⟨c, hc⟩ := (merge_maximal web app).1 henv hports
  obtain ⟨hmax, hkeep⟩ := (merge_maximal web app).2 c hc
  exact ⟨henv, hports, hfree, c, hc, hmax, hkeep hfree⟩

end Container

end KubeManifest
