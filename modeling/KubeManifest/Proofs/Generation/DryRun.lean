import KubeManifest.Proofs.Generation.Interrupted
import KubeManifest.Proofs.Generation.Sound

/-!
# How a dry run ends

When the fragments are read and the default containers are known, a dry run can end in three ways. It makes its
report if every resource is sound and no two outputs have one stem. Two outputs of one stem are refused with a
message. What is not sound ends it without one.

* `Config.exists_complete` : a deployment can be added to resources whose kinds are texts;
* `Config.Apart` : no two outputs have one stem;
* `Config.generate_dryRun_eq`, `Config.exists_report_iff` : what remains to be done with filled resources, and when it
  makes a report;
* `Config.forall_passes_iff` : resources that are filled make it to the end as they do one by one;
* `Config.generate_dryRun_iff` : how a dry run ends.
-/

namespace KubeManifest

namespace Collection

variable {c : Collection}

/-- Kinds that are texts can be looked up. -/
theorem exists_hasKind (h : ∀ r ∈ c.items, r.kind.text?.isSome) (kinds : List String) :
    ∃ found, c.hasKind kinds = .ok found := by
  unfold hasKind
  generalize false = found
  obtain ⟨items⟩ := c
  induction items generalizing found with
  | nil => exact ⟨found, rfl⟩
  | cons r items ih =>
    obtain ⟨hr, hitems⟩ := List.forall_mem_cons.mp h
    have hscalar : r.kind.isScalar = true := by
      cases hk : r.kind with
      | scalar s mark => rfl
      | _ => simp [hk, Value.text?] at hr
    rw [List.foldlM_cons]
    cases found with
    | true => exact ih true hitems
    | false =>
      simp only [hscalar]
      exact ih _ hitems

theorem exists_containerCount_iff : (∃ n, c.containerCount = .ok n) ↔ ∀ r ∈ c.items, r.Counted := by
  have hcount : (∃ n, c.containerCount = .ok n) ↔
      ∀ p ∈ c.workloads.filterMap (·.podSpec), p.containers.isSome := by
    rw [containerCount]
    constructor
    · rintro ⟨n, hn⟩ p hp
      obtain ⟨counts, hcounts, -⟩ := bind_eq_ok.mp hn
      obtain ⟨k, -, hk⟩ := exists_mem_of_mapM_eq_ok hcounts p hp
      cases hc : p.containers with
      | some cs => rfl
      | none =>
        rw [hc] at hk
        cases hk
    · intro h
      refine (exists_mapM_ok_iff.mpr fun p hp => ?_).elim fun counts hcounts =>
        ⟨_, bind_eq_ok.mpr ⟨counts, hcounts, rfl⟩⟩
      obtain ⟨cs, hcs⟩ := Option.isSome_iff_exists.mp (h p hp)
      rw [hcs]
      exact ⟨_, rfl⟩
  rw [hcount]
  simp only [List.mem_filterMap, workloads, List.mem_filter]
  constructor
  · exact fun h r hr hw p hp => h p ⟨r, ⟨hr, hw⟩, hp⟩
  · rintro h p ⟨r, ⟨hr, hw⟩, hp⟩
    exact h r hr hw p hp

end Collection

namespace Config

variable {config : Config} {files : Files} {c fragments : Collection} {containers : List Container}
  {assembly : Assembly} {report : Report} {outputs : List Output} {failure : Failure}

/-! ## A deployment that is added -/

theorem exists_deployment (config : Config) : ∃ r, config.deployment = .ok r ∧ r.kind.text?.isSome ∧ r.podSpec = none :=
  ⟨_, rfl, rfl, rfl⟩

/-- A deployment can be added where it has to be, and has no pods yet. -/
theorem exists_complete (h : ∀ r ∈ fragments.items, r.kind.text?.isSome) (containers : List Container) :
    ∃ assembly, config.complete fragments containers = .ok assembly ∧
      ∀ r ∈ assembly.collection.items, r ∈ fragments.items ∨ r.kind.text?.isSome ∧ r.podSpec = none := by
  obtain ⟨found, hfound⟩ := Collection.exists_hasKind h (Workload.all.map Workload.name)
  obtain ⟨d, hd, hkind, hpods⟩ := exists_deployment config
  rw [complete]
  split
  · exact ⟨_, rfl, fun r hr => .inl hr⟩
  · rw [hfound, ok_bind]
    cases found with
    | true => exact ⟨_, rfl, fun r hr => .inl hr⟩
    | false =>
      rw [hd]
      refine ⟨_, rfl, fun r hr => ?_⟩
      rcases List.mem_append.mp hr with hr | hr
      · exact .inl hr
      · rw [List.mem_singleton.mp hr]
        exact .inr ⟨hkind, hpods⟩

/-! ## Outputs -/

def stemOf (config : Config) (r : Resource) : String :=
  KindTable.standard.fileStem (r.name.orElse (.ofString config.appName)).display (r.kind.text?.getD "")

/-- No two outputs of some resources have one stem, nor one of them and that of all resources. -/
def Apart (config : Config) (c : Collection) : Prop :=
  (Output.listStem :: c.items.map config.stemOf).Nodup

def outputsOf (config : Config) (c : Collection) : List Output :=
  c.sorted.map (fun r => ⟨config.stemOf r, .resource r⟩) ++ [⟨Output.listStem, .collection c⟩]

theorem outputOf_of_text {r : Resource} (h : r.kind.text?.isSome) :
    config.outputOf r = .ok ⟨config.stemOf r, .resource r⟩ := by
  rw [outputOf, stemOf]
  cases hk : r.kind with
  | scalar s mark =>
    cases s with
    | text s style => rfl
    | _ => simp [hk, Value.text?] at h
  | _ => simp [hk, Value.text?] at h

theorem outputs_of_texts (h : ∀ r ∈ c.items, r.kind.text?.isSome) : config.outputs c = .ok (config.outputsOf c) := by
  rw [outputs, mapM_eq_ok_map fun r hr => outputOf_of_text (h r (Collection.mem_sorted.mp hr))]
  rfl

theorem checkStems_outputsOf_iff : Output.checkStems [] (config.outputsOf c) = .ok () ↔ config.Apart c := by
  rw [Output.checkStems_nil_eq_ok_iff, Apart]
  refine List.Perm.nodup_iff ?_
  rw [outputsOf, List.map_append, List.map_map]
  exact List.perm_append_comm.trans (((List.mergeSort_perm _ _).map _).cons _)

section

-- the equation of `emit` holds by computation, as long as the texts and the paths are not computed themselves
attribute [local irreducible] Config.textOf Config.pathOf

theorem emit_cons_dryRun (files : Files) (report : Report) (o : Output) (rest : List Output) :
    config.emit true files report (o :: rest) =
      match config.textOf o with
      | .error misfit => (files, .error (.misfit misfit))
      | .ok text =>
        config.emit true files { report with rendered := Report.put report.rendered (config.pathOf o).name text }
          rest := by
  rfl

end

/-- A dry run makes its report if every output has a text. -/
theorem exists_emit_iff : (∃ report', (config.emit true files report outputs).2 = .ok report') ↔
    ∀ o ∈ outputs, ∃ text, config.textOf o = .ok text := by
  induction outputs generalizing report with
  | nil => simp [emit_nil]
  | cons o rest ih =>
    rw [emit_cons_dryRun, List.forall_mem_cons]
    cases config.textOf o with
    | error misfit => simp
    | ok text =>
      dsimp only
      rw [ih]
      simp

theorem emit_dryRun_eq_error (h : (config.emit true files report outputs).2 = .error failure) :
    ∃ misfit, failure = .misfit misfit := by
  induction outputs generalizing report with
  | nil =>
    rw [emit_nil] at h
    cases h
  | cons o rest ih =>
    rw [emit_cons_dryRun] at h
    split at h
    · exact ⟨_, (Except.error.inj h).symm⟩
    · exact ih h

/-- Every output of some resources has a text if every one of these has. -/
theorem forall_textOf_outputsOf_iff : (∀ o ∈ config.outputsOf c, ∃ text, config.textOf o = .ok text) ↔
    ∀ r ∈ c.items, ∃ text, (Exportable.resource r).text config.format.name = .ok text := by
  constructor
  · intro h r hr
    exact h ⟨config.stemOf r, .resource r⟩
      (List.mem_append_left _ (List.mem_map.mpr ⟨r, Collection.mem_sorted.mpr hr, rfl⟩))
  · intro h o ho
    rcases List.mem_append.mp ho with ho | ho
    · obtain ⟨r, hr, rfl⟩ := List.mem_map.mp ho
      exact h r (Collection.mem_sorted.mp hr)
    · rw [List.mem_singleton.mp ho]
      exact Exportable.exists_text_collection h

/-! ## Runs after the resources are filled -/

section

variable (hassembly : config.assemble files = .ok assembly)
  (htexts : ∀ r ∈ assembly.collection.items, r.kind.text?.isSome)

include hassembly htexts

/-- A dry run counts the containers, compares the stems, and makes the texts. -/
theorem generate_dryRun_eq : ∃ report : Nat → Report, (config.generate true files).2 =
    ((liftM assembly.collection.containerCount : Except Failure Nat) >>= fun n =>
      Output.checkStems [] (config.outputsOf assembly.collection) >>= fun _ =>
        (config.emit true files (report n) (config.outputsOf assembly.collection)).2) := by
  let report (n : Nat) : Report :=
    { resources := assembly.collection.sorted.map Resource.sortKey, containers := n, added := assembly.added }
  refine ⟨report, ?_⟩
  rw [generate, prepare, hassembly, ok_bind, outputs_of_texts htexts]
  cases assembly.collection.containerCount with
  | error misfit => rfl
  | ok n =>
    simp only [Failure.lift_ok, ok_bind]
    cases Output.checkStems [] (config.outputsOf assembly.collection) <;> rfl

/-- A dry run makes its report exactly if all containers can be counted, every resource has a text, and no two
outputs have one stem. -/
theorem exists_report_iff : (∃ report, (config.generate true files).2 = .ok report) ↔
    (∀ r ∈ assembly.collection.items,
      r.Counted ∧ ∃ text, (Exportable.resource r).text config.format.name = .ok text) ∧
      config.Apart assembly.collection := by
  obtain ⟨report, heq⟩ := generate_dryRun_eq hassembly htexts
  have hall : (∀ r ∈ assembly.collection.items,
      r.Counted ∧ ∃ text, (Exportable.resource r).text config.format.name = .ok text) ↔
        (∃ n, assembly.collection.containerCount = .ok n) ∧
          ∀ o ∈ config.outputsOf assembly.collection, ∃ text, config.textOf o = .ok text := by
    rw [Collection.exists_containerCount_iff, forall_textOf_outputsOf_iff]
    exact ⟨fun h => ⟨fun r hr => (h r hr).1, fun r hr => (h r hr).2⟩, fun h r hr => ⟨h.1 r hr, h.2 r hr⟩⟩
  rw [heq, hall, ← checkStems_outputsOf_iff]
  simp only [bind_eq_ok, Failure.lift_eq_ok]
  constructor
  · rintro ⟨report', n, hn, ⟨⟩, hstems, hemit⟩
    exact ⟨⟨⟨n, hn⟩, exists_emit_iff.mp ⟨report', hemit⟩⟩, hstems⟩
  · rintro ⟨⟨⟨n, hn⟩, htext⟩, hstems⟩
    obtain ⟨report', hemit⟩ := exists_emit_iff.mpr htext
    exact ⟨report', n, hn, (), hstems, hemit⟩

/-- Where the containers can be counted, outputs of one stem are refused. -/
theorem exists_sameFile (hcounted : ∀ r ∈ assembly.collection.items, r.Counted)
    (hapart : ¬ config.Apart assembly.collection) : ∃ first second stem,
      (config.generate true files).2 = .error (.badOutput none (.sameFile first second stem)) := by
  obtain ⟨report, heq⟩ := generate_dryRun_eq hassembly htexts
  obtain ⟨n, hn⟩ := Collection.exists_containerCount_iff.mpr hcounted
  rw [heq, hn, Failure.lift_ok, ok_bind]
  cases hstems : Output.checkStems [] (config.outputsOf assembly.collection) with
  | ok _ => exact absurd (checkStems_outputsOf_iff.mp hstems) hapart
  | error failure =>
    obtain ⟨first, second, stem, rfl⟩ := Output.checkStems_eq_error hstems
    exact ⟨first, second, stem, rfl⟩

/-- Only a misfit, or outputs of one stem, can end a dry run. -/
theorem misfit_or_sameFile (h : (config.generate true files).2 = .error failure) :
    (∃ misfit, failure = .misfit misfit) ∨
      ¬ config.Apart assembly.collection ∧
        ∃ first second stem, failure = .badOutput none (.sameFile first second stem) := by
  obtain ⟨report, heq⟩ := generate_dryRun_eq hassembly htexts
  rw [heq] at h
  cases hn : assembly.collection.containerCount with
  | error misfit =>
    rw [hn] at h
    exact .inl ⟨misfit, (Except.error.inj h).symm⟩
  | ok n =>
    rw [hn, Failure.lift_ok, ok_bind] at h
    cases hstems : Output.checkStems [] (config.outputsOf assembly.collection) with
    | ok _ =>
      rw [hstems, ok_bind] at h
      exact .inl (emit_dryRun_eq_error h)
    | error clash =>
      rw [hstems] at h
      obtain rfl : clash = failure := Except.error.inj h
      refine .inr ⟨fun hapart => ?_, Output.checkStems_eq_error hstems⟩
      rw [checkStems_outputsOf_iff.mpr hapart] at hstems
      cases hstems

end

/-! ## The resources that are filled -/

theorem fill_eq_ok {d : PodSpec} {r r' : Resource} (h : config.fill d r = .ok r') :
    r'.kind = r.kind ∧ r'.metadata = r.metadata := by
  cases hw : r.workload?.isSome with
  | false =>
    rw [fill_of_not_workload hw] at h
    obtain rfl := Except.ok.inj h
    exact ⟨rfl, rfl⟩
  | true =>
    rw [fill_of_workload hw] at h
    obtain ⟨p, -, rfl⟩ := Resource.merge_eq_ok h
    exact ⟨rfl, rfl⟩

theorem stemOf_of_fill {d : PodSpec} {r r' : Resource} (h : config.fill d r = .ok r') :
    config.stemOf r' = config.stemOf r := by
  obtain ⟨hkind, hmetadata⟩ := fill_eq_ok h
  rw [stemOf, stemOf, Resource.name, Resource.name, hkind, hmetadata]

section

variable {items items' : List Resource}

/-- Resources that are filled make it to the end as they do one by one. -/
theorem forall_passes_iff (h : items.mapM (config.fill (.ofContainers containers)) = .ok items') :
    (∀ r ∈ items, config.Passes containers r) ↔
      ∀ r' ∈ items', r'.Counted ∧ ∃ text, (Exportable.resource r').text config.format.name = .ok text := by
  constructor
  · intro hpass r' hr'
    obtain ⟨r, hr, hfill⟩ := mapM_eq_ok_mem h r' hr'
    obtain ⟨r'', hfill', hends⟩ := hpass r hr
    obtain rfl := Except.ok.inj (hfill.symm.trans hfill')
    exact hends
  · intro hends r hr
    obtain ⟨r', hr', hfill⟩ := exists_mem_of_mapM_eq_ok h r hr
    exact ⟨r', hfill, hends r' hr'⟩

theorem apart_of_fill {d : PodSpec} (h : items.mapM (config.fill d) = .ok items') :
    config.Apart ⟨items'⟩ ↔ config.Apart ⟨items⟩ := by
  rw [Apart, Apart, map_eq_map_of_mapM_eq_ok h fun r _ r' hr' => stemOf_of_fill hr']

theorem text?_of_fill {d : PodSpec} (h : items.mapM (config.fill d) = .ok items')
    (htexts : ∀ r ∈ items, r.kind.text?.isSome) : ∀ r' ∈ items', r'.kind.text?.isSome := by
  intro r' hr'
  obtain ⟨r, hr, hfill⟩ := mapM_eq_ok_mem h r' hr'
  rw [(fill_eq_ok hfill).1]
  exact htexts r hr

end

theorem assemble_eq (hfragments : Collection.ofDirectory files config.context config.fragmentsDir = .ok fragments)
    (hcontainers : config.project.containers config.settings config.images = .ok containers)
    (hassembly : config.complete fragments containers = .ok assembly) :
    config.assemble files =
      ((liftM (assembly.collection.items.mapM (config.fill (.ofContainers containers))) : Except Failure _) >>=
        fun items => .ok { assembly with collection := ⟨items⟩ }) := by
  rw [assemble, hfragments, ok_bind, hcontainers, ok_bind, hassembly, Failure.lift_ok, ok_bind,
    ← Failure.mapM_lift]
  rfl

/-- Only pods and controllers are read with pods. -/
theorem ownsPods_of_ofDirectory {context : Fragment.Context} {directory : Path}
    (h : Collection.ofDirectory files context directory = .ok fragments) :
    ∀ r ∈ fragments.items, r.podSpec.isSome → r.OwnsPods := by
  obtain ⟨paths, -, h⟩ := bind_eq_ok.mp h
  obtain ⟨items, hitems, h⟩ := bind_eq_ok.mp h
  obtain rfl := Except.ok.inj h
  intro r hr
  obtain ⟨⟨path, n⟩, -, hread⟩ := mapM_eq_ok_mem hitems r hr
  obtain ⟨e, -, hread⟩ := bind_eq_ok.mp hread
  exact Resource.ownsPods_of_ofFields (Failure.lift_eq_ok.mp hread)

theorem generate_of_assemble {misfit : Misfit} (h : config.assemble files = .error (.misfit misfit)) :
    (config.generate true files).2 = .error (.misfit misfit) := by
  rw [generate, prepare, h]
  rfl

theorem generate_of_containerCount {assembly : Assembly} {misfit : Misfit} (h : config.assemble files = .ok assembly)
    (hcount : assembly.collection.containerCount = .error misfit) :
    (config.generate true files).2 = .error (.misfit misfit) := by
  rw [generate, prepare, h, ok_bind, hcount]
  rfl

/-- **How a dry run ends.** When the fragments are read, their kinds are texts and the default containers are known,
it makes its report exactly if every resource is sound and no two outputs have one stem. Sound resources of one stem
are refused, and a resource that is not sound ends the run with a misfit, unless such a refusal comes before. The digits
of numbers that are written are taken to have no limit, as in `Value.display`. -/
theorem generate_dryRun_iff
    (hfragments : Collection.ofDirectory files config.context config.fragmentsDir = .ok fragments)
    (htexts : ∀ r ∈ fragments.items, r.kind.text?.isSome)
    (hcontainers : config.project.containers config.settings config.images = .ok containers) :
    ∃ assembly, config.complete fragments containers = .ok assembly ∧
      ((∃ report, (config.generate true files).2 = .ok report) ↔
        (∀ r ∈ assembly.collection.items, config.Sound containers r) ∧ config.Apart assembly.collection) ∧
      ((∀ r ∈ assembly.collection.items, config.Sound containers r) → ¬ config.Apart assembly.collection →
        ∃ first second stem,
          (config.generate true files).2 = .error (.badOutput none (.sameFile first second stem))) ∧
      (¬ (∀ r ∈ assembly.collection.items, config.Sound containers r) →
        (∃ misfit, (config.generate true files).2 = .error (.misfit misfit)) ∨
          ¬ config.Apart assembly.collection ∧ ∃ first second stem,
            (config.generate true files).2 = .error (.badOutput none (.sameFile first second stem))) := by
  obtain ⟨assembly, hassembly, hitems⟩ := exists_complete htexts containers
  have hkinds : ∀ r ∈ assembly.collection.items, r.kind.text?.isSome := fun r hr =>
    (hitems r hr).elim (htexts r) And.left
  have hsound : (∀ r ∈ assembly.collection.items, config.Sound containers r) ↔
      ∀ r ∈ assembly.collection.items, config.Passes containers r := by
    refine forall₂_congr fun r hr => (passes_iff_sound (fun hp => ?_) (Project.containers_whole hcontainers)).symm
    rcases hitems r hr with hr | ⟨-, hnone⟩
    · exact ownsPods_of_ofDirectory hfragments r hr hp
    · rw [hnone] at hp
      cases hp
  have hrun := assemble_eq hfragments hcontainers hassembly
  refine ⟨assembly, hassembly, ?_⟩
  rw [hsound]
  cases hfill : assembly.collection.items.mapM (config.fill (.ofContainers containers)) with
  | error misfit =>
    -- some resource cannot be filled, and so does not make it to the end
    rw [hfill] at hrun
    have hgenerate := generate_of_assemble hrun
    have hno : ¬ ∀ r ∈ assembly.collection.items, config.Passes containers r := fun hpass => by
      obtain ⟨items, hok⟩ := exists_mapM_ok_iff.mpr fun r hr => (hpass r hr).imp fun _ h => h.1
      rw [hfill] at hok
      cases hok
    refine ⟨iff_of_false (fun h => ?_) fun h => hno h.1, fun h => absurd h hno, fun _ => .inl ⟨misfit, hgenerate⟩⟩
    obtain ⟨report, h⟩ := h
    rw [hgenerate] at h
    cases h
  | ok items =>
    rw [hfill, Failure.lift_ok, ok_bind] at hrun
    have hreport := exists_report_iff hrun (text?_of_fill hfill hkinds)
    rw [← forall_passes_iff hfill, apart_of_fill hfill] at hreport
    refine ⟨hreport, fun hpass hapart => ?_, fun hno => ?_⟩
    · refine exists_sameFile hrun (text?_of_fill hfill hkinds) (fun r hr => ?_) ?_
      · exact ((forall_passes_iff hfill).mp hpass r hr).1
      · rwa [apart_of_fill hfill]
    · cases hgenerate : (config.generate true files).2 with
      | ok report => exact absurd (hreport.mp ⟨report, hgenerate⟩).1 hno
      | error failure =>
        refine (misfit_or_sameFile hrun (text?_of_fill hfill hkinds) hgenerate).imp ?_ ?_
        · rintro ⟨misfit, rfl⟩
          exact ⟨misfit, rfl⟩
        · rintro ⟨hapart, first, second, stem, rfl⟩
          rw [apart_of_fill hfill] at hapart
          exact ⟨hapart, first, second, stem, rfl⟩

/-! ## A controller whose containers are null -/

def nullFiles : Files where
  dirs := [[], ["work"], ["work", "src"], ["work", "src", "main"], ["work", "src", "main", "fabric8"]]
  contents := [(["work", "src", "main", "fabric8", "deployment.json"],
    "\x7b\"spec\": \x7b\"template\": \x7b\"spec\": \x7b\"containers\": null\x7d\x7d\x7d\x7d".toUTF8)]

set_option maxRecDepth 100000 in
theorem exists_fragments_nullFiles :
    ∃ fragments, Collection.ofDirectory nullFiles jsonConfig.context jsonConfig.fragmentsDir = .ok fragments ∧
      ∀ r ∈ fragments.items, r.kind.text?.isSome := by
  have hread : (Collection.ofDirectory nullFiles jsonConfig.context jsonConfig.fragmentsDir).toOption.any
      (fun fragments => fragments.items.all fun r => r.kind.text?.isSome) = true := by
    decide +kernel
  obtain ⟨fragments, hfragments, hkinds⟩ := (Option.any_eq_true _ _).mp hread
  exact ⟨fragments, toOption_eq_some.mp hfragments, List.all_eq_true.mp hkinds⟩

set_option maxRecDepth 100000 in
theorem exists_misfit_nullFiles : ∃ misfit, (jsonConfig.generate true nullFiles).2 = .error (.misfit misfit) := by
  have hnone : (jsonConfig.assemble nullFiles).toOption.any
      (fun assembly => assembly.collection.containerCount.toOption.isNone) = true := by
    decide +kernel
  obtain ⟨assembly, hassembly, hnone⟩ := (Option.any_eq_true _ _).mp hnone
  cases hcount : assembly.collection.containerCount with
  | error misfit => exact ⟨misfit, generate_of_containerCount (toOption_eq_some.mp hassembly) hcount⟩
  | ok n =>
    rw [hcount] at hnone
    cases hnone

/-- The deployment is read, and its containers cannot be counted. -/
theorem generate_dryRun_iff_nullFiles :
    ∃ fragments, Collection.ofDirectory nullFiles jsonConfig.context jsonConfig.fragmentsDir = .ok fragments ∧
      (∀ r ∈ fragments.items, r.kind.text?.isSome) ∧
      jsonConfig.project.containers jsonConfig.settings jsonConfig.images = .ok [] ∧
      (∃ misfit, (jsonConfig.generate true nullFiles).2 = .error (.misfit misfit)) ∧
      ∃ assembly, jsonConfig.complete fragments [] = .ok assembly ∧
        ((∃ report, (jsonConfig.generate true nullFiles).2 = .ok report) ↔
          (∀ r ∈ assembly.collection.items, jsonConfig.Sound [] r) ∧ jsonConfig.Apart assembly.collection) ∧
        ((∀ r ∈ assembly.collection.items, jsonConfig.Sound [] r) → ¬ jsonConfig.Apart assembly.collection →
          ∃ first second stem,
            (jsonConfig.generate true nullFiles).2 = .error (.badOutput none (.sameFile first second stem))) ∧
        (¬ (∀ r ∈ assembly.collection.items, jsonConfig.Sound [] r) →
          (∃ misfit, (jsonConfig.generate true nullFiles).2 = .error (.misfit misfit)) ∨
            ¬ jsonConfig.Apart assembly.collection ∧ ∃ first second stem,
              (jsonConfig.generate true nullFiles).2 = .error (.badOutput none (.sameFile first second stem))) := by
  obtain ⟨fragments, hfragments, hkinds⟩ := exists_fragments_nullFiles
  have hcontainers : jsonConfig.project.containers jsonConfig.settings jsonConfig.images = .ok [] := rfl
  exact ⟨fragments, hfragments, hkinds, hcontainers, exists_misfit_nullFiles,
    generate_dryRun_iff hfragments hkinds hcontainers⟩

end Config

end KubeManifest
