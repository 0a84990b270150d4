import KubeManifest.Generation.Run
import KubeManifest.Proofs.Results

/-!
# Outputs before they are written

* `Output.checkStems_nil_eq_ok_iff`, `Output.checkStems_eq_error` : the stems are refused exactly if one comes twice, and
  then with one message;
* `Config.prepare_eq_ok` : what is known before anything is written;
* `Config.generate_eq_ok` : what a run has done that came to its end;
* `Config.length_outputs` : one output for each resource, and one for all of them.
-/

namespace KubeManifest

namespace Output

/-- Outputs pass the check exactly if their stems differ from each other and from those before. -/
theorem checkStems_eq_ok_iff {seen os : List Output} :
    checkStems seen os = .ok () ↔ (os.map stem).Nodup ∧ ∀ o ∈ os, ∀ s ∈ seen, s.stem ≠ o.stem := by
  induction os generalizing seen with
  | nil => simp [checkStems]
  | cons o os ih =>
    rw [checkStems]
    cases hfind : seen.find? (·.stem == o.stem) with
    | some first =>
      have hfirst := List.find?_some hfind
      refine iff_of_false (fun h => by cases h) fun ⟨_, hnew⟩ => ?_
      exact hnew o List.mem_cons_self first (List.mem_of_find?_eq_some hfind) (eq_of_beq hfirst)
    | none =>
      have hnone : ∀ s ∈ seen, s.stem ≠ o.stem := fun s hs heq => by
        have := List.find?_eq_none.mp hfind s hs
        simp [heq] at this
      dsimp only
      rw [ih, List.map_cons, List.nodup_cons, List.forall_mem_cons]
      constructor
      · rintro ⟨hnodup, hnew⟩
        refine ⟨⟨fun hmem => ?_, hnodup⟩, hnone, fun o' ho' s hs => hnew o' ho' s (List.mem_append_left _ hs)⟩
        obtain ⟨o', ho', heq⟩ := List.mem_map.mp hmem
        exact hnew o' ho' o (List.mem_append_right _ List.mem_cons_self) heq.symm
      · rintro ⟨⟨hnot, hnodup⟩, -, hnew⟩
        refine ⟨hnodup, fun o' ho' s hs => ?_⟩
        rcases List.mem_append.mp hs with hs | hs
        · exact hnew o' ho' s hs
        · rw [List.mem_singleton.mp hs]
          exact fun heq => hnot (List.mem_map.mpr ⟨o', ho', heq.symm⟩)

theorem checkStems_nil_eq_ok_iff {os : List Output} : checkStems [] os = .ok () ↔ (os.map stem).Nodup := by
  rw [checkStems_eq_ok_iff]
  simp

/-- Outputs that do not pass the check are refused with the message that two of them are for one file. -/
theorem checkStems_eq_error {seen os : List Output} {failure : Failure} (h : checkStems seen os = .error failure) :
    ∃ first second stem, failure = .badOutput none (.sameFile first second stem) := by
  induction os generalizing seen with
  | nil => cases h
  | cons o os ih =>
    rw [checkStems] at h
    split at h
    · exact ⟨_, _, _, (Except.error.inj h).symm⟩
    · exact ih h

end Output

namespace Config

variable {config : Config} {files : Files} {c : Collection} {outputs : List Output}

theorem outputs_eq_ok (h : config.outputs c = .ok outputs) :
    ∃ own, c.sorted.mapM config.outputOf = .ok own ∧ outputs = own ++ [⟨Output.listStem, .collection c⟩] := by
  obtain ⟨own, hown, h⟩ := bind_eq_ok.mp h
  exact ⟨own, hown, (Except.ok.inj h).symm⟩

theorem length_outputs (h : config.outputs c = .ok outputs) : outputs.length = c.items.length + 1 := by
  obtain ⟨own, hown, rfl⟩ := outputs_eq_ok h
  rw [List.length_append, mapM_ok_length hown, Collection.sorted, List.length_mergeSort]
  rfl

/-- What is known before anything is written. -/
theorem prepare_eq_ok {report : Report} (h : config.prepare files = .ok (outputs, report)) :
    ∃ assembly n, config.assemble files = .ok assembly ∧ assembly.collection.containerCount = .ok n ∧
      config.outputs assembly.collection = .ok outputs ∧ Output.checkStems [] outputs = .ok () ∧
      report = { resources := assembly.collection.sorted.map Resource.sortKey, containers := n
                 added := assembly.added } := by
  obtain ⟨assembly, hassembly, h⟩ := bind_eq_ok.mp h
  obtain ⟨n, hn, h⟩ := bind_eq_ok.mp h
  obtain ⟨os, hos, h⟩ := bind_eq_ok.mp h
  obtain ⟨⟨⟩, hstems, h⟩ := bind_eq_ok.mp h
  obtain ⟨rfl, rfl⟩ := Prod.mk.inj (Except.ok.inj h)
  exact ⟨assembly, n, hassembly, Failure.lift_eq_ok.mp hn, Failure.lift_eq_ok.mp hos, hstems, rfl⟩

/-- A run that came to its end has made the output directory and written every output. -/
theorem generate_eq_ok {files' : Files} {report : Report} (h : config.generate false files = (files', .ok report)) :
    ∃ outputs prepared start, config.prepare files = .ok (outputs, prepared) ∧
      config.makeOutputDir files = (start, .ok ()) ∧
      config.emit false start prepared outputs = (files', .ok report) := by
  rw [generate] at h
  split at h
  · cases h
  · rename_i outputs prepared hprepare
    rw [if_neg Bool.false_ne_true] at h
    split at h
    · cases h
    · rename_i start hdir
      exact ⟨outputs, prepared, start, hprepare, hdir, h⟩

end Config

end KubeManifest
