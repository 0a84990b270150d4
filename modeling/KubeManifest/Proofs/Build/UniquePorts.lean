import KubeManifest.Proofs.Build.Containers
import KubeManifest.Proofs.Merge.Ports
import KubeManifest.Proofs.Value.Entries

/-!
# Unique ports

The ports of a container come from the entries of its image, and more are added to them one by one. Each way to do so
looks at something else: the entries of an image are all taken as they are, a port is ensured unless its name or its
number is there, and a port that is added by number only has to bring a new number.

* `ContainerPort.DistinctNumbers`, `ContainerPort.DistinctNames` : lists without a number or a name twice;
* `PortSpec.exists_numbers` : the numbers of ports are those that the entries of an image give;
* `ContainerPort.Call`, `ContainerPort.run` : ways to add a port, one after the other;
* `ContainerPort.Call.apply_cases` : what one of them may do;
* `ContainerPort.unique_iff` : when the ports are unique in the end.
-/

namespace KubeManifest

namespace ContainerPort

/-! ## Lists without duplicates -/

/-- Ports of which no two have the same number. -/
def DistinctNumbers (ports : List ContainerPort) : Prop :=
  ports.Pairwise fun p q => ¬p.containerPort.SameGiven q.containerPort

/-- Ports of which no two have the same name. -/
def DistinctNames (ports : List ContainerPort) : Prop :=
  ports.Pairwise fun p q => ¬p.name.SameGiven q.name

theorem distinctNumbers_concat {ports : List ContainerPort} {port : ContainerPort} :
    DistinctNumbers (ports ++ [port]) ↔
      DistinctNumbers ports ∧ ∀ p ∈ ports, ¬p.containerPort.SameGiven port.containerPort := by
  simp [DistinctNumbers, List.pairwise_append]

theorem distinctNames_concat {ports : List ContainerPort} {port : ContainerPort} :
    DistinctNames (ports ++ [port]) ↔ DistinctNames ports ∧ ∀ p ∈ ports, ¬p.name.SameGiven port.name := by
  simp [DistinctNames, List.pairwise_append]

end ContainerPort

open ContainerPort

/-! ## Ports of images -/

theorem Value.sameGiven_ofInt_iff {m n : Int} : (ofInt m).SameGiven (ofInt n) ↔ m = n := by
  simp [SameGiven, isNull, same, Scalar.same, Scalar.whole?]

namespace PortSpec

variable {properties : Fields} {specs : List String} {ports : List ContainerPort}

/-- The numbers of ports are those that their entries give. -/
theorem exists_numbers (h : PortSpec.ports properties specs = .ok ports) :
    ∃ numbers : List Int, (entries specs).map (number? properties) = numbers.map some ∧
      ports.map (·.containerPort) = numbers.map .ofInt := by
  unfold PortSpec.ports at h
  generalize entries specs = specs at h ⊢
  induction specs generalizing ports with
  | nil =>
    obtain rfl := Except.ok.inj h
    exact ⟨[], rfl, rfl⟩
  | cons spec specs ih =>
    obtain ⟨port, rest, hport, hrest, rfl⟩ := mapM_cons_eq_ok.mp h
    obtain ⟨⟨n, hn, hnumber⟩, -, -⟩ := parse_spec hport
    obtain ⟨numbers, hspecs, hports⟩ := ih hrest
    exact ⟨n :: numbers, by rw [List.map_cons, hn, hspecs]; rfl, by rw [List.map_cons, hnumber, hports]; rfl⟩

theorem distinctNumbers_iff (h : PortSpec.ports properties specs = .ok ports) :
    DistinctNumbers ports ↔ ((entries specs).map (number? properties)).Nodup := by
  obtain ⟨numbers, hspecs, hports⟩ := exists_numbers h
  have hpair : DistinctNumbers ports ↔ (ports.map (·.containerPort)).Pairwise fun v w => ¬v.SameGiven w := by
    rw [List.pairwise_map, DistinctNumbers]
  rw [hpair, hports, hspecs, List.Nodup, List.pairwise_map, List.pairwise_map]
  simp only [Value.sameGiven_ofInt_iff, ne_eq, Option.some.injEq]

/-- The ports of an image have no names. -/
theorem distinctNames_of_ports (h : PortSpec.ports properties specs = .ok ports) : DistinctNames ports := by
  have hnull : ∀ p ∈ ports, p.name = .null := by
    intro p hp
    obtain ⟨spec, -, hparse⟩ := mapM_eq_ok_mem h p hp
    exact (parse_spec hparse).2.1
  refine List.pairwise_iff_forall_sublist.mpr fun {p q} hsub hsame => ?_
  have hgiven := hsame.1
  rw [hnull p (hsub.subset List.mem_cons_self)] at hgiven
  cases hgiven

end PortSpec

/-! ## One call -/

namespace ContainerPort

variable {ports all : List ContainerPort}

/-- A way to add a port to a list: it is ensured that the list has a port, or a named port is added whose number is
given as text. -/
inductive Call
  | ensure (port : ContainerPort)
  | add (text name : Value)

def Call.apply (ports : List ContainerPort) : Call → Except Misfit (List ContainerPort)
  | ensure port => do return (← (addMissing (ports.map some) [some port]).finished).filterMap id
  | add text name => do return (← addNumber ports text name).1

/-- A call that adds a port whose number is new under a name that is there. -/
def Call.RepeatsName (ports : List ContainerPort) : Call → Prop
  | ensure _ => False
  | add text name =>
    (∃ n, numberOf text = .ok (some n) ∧ ∀ p ∈ ports, p.containerPort.same (.ofInt n) = false) ∧
      ∃ p ∈ ports, p.name.SameGiven name

theorem anyConflict_map_some (ports : List ContainerPort) (port : ContainerPort) :
    anyConflict (ports.map some) (some port) = .ok (ports.any (·.conflicts port)) := by
  have hsame : ∀ e ∈ ports.map some, conflicts? e (some port) = .ok (e.any (·.conflicts port)) := by
    intro e he
    obtain ⟨p, -, rfl⟩ := List.mem_map.mp he
    rfl
  rw [adds.known_eq_any hsame, List.any_map]
  rfl

theorem Call.apply_ensure (ports : List ContainerPort) (port : ContainerPort) :
    (ensure port).apply ports = .ok (if ports.any (·.conflicts port) then ports else ports ++ [port]) := by
  have hback : ∀ ps : List ContainerPort, (ps.map some).filterMap id = ps := fun ps => by simp [List.filterMap_map]
  rw [apply, adds.add_cons, anyConflict_map_some]
  cases ports.any (·.conflicts port) with
  | true => exact congrArg Except.ok (hback ports)
  | false =>
    have hmap : ports.map some ++ [some port] = (ports ++ [port]).map some := by simp
    rw [hmap]
    exact congrArg Except.ok (hback (ports ++ [port]))

/-- Adding by number changes nothing, or adds a port with a new number. -/
theorem addNumber_cases {text name : Value} {added : Bool} (h : addNumber ports text name = .ok (all, added)) :
    (all = ports ∧ ∀ n, numberOf text = .ok (some n) → ∃ p ∈ ports, p.containerPort.same (.ofInt n) = true) ∨
      ∃ n, all = ports ++ [{ name, containerPort := .ofInt n }] ∧ numberOf text = .ok (some n) ∧
        ∀ p ∈ ports, p.containerPort.same (.ofInt n) = false := by
  obtain ⟨number, hnumber, h⟩ := bind_eq_ok.mp h
  rw [hnumber]
  cases number with
  | none =>
    obtain ⟨rfl, -⟩ := Prod.mk.inj (Except.ok.inj h)
    exact .inl ⟨rfl, fun n hn => by cases hn⟩
  | some n =>
    dsimp only at h
    split at h
    · rename_i hold
      obtain ⟨rfl, -⟩ := Prod.mk.inj (Except.ok.inj h)
      refine .inl ⟨rfl, fun m hm => ?_⟩
      obtain rfl : n = m := Option.some.inj (Except.ok.inj hm)
      exact List.any_eq_true.mp hold
    · rename_i hnew
      obtain ⟨rfl, -⟩ := Prod.mk.inj (Except.ok.inj h)
      exact .inr ⟨n, rfl, rfl, by simpa using hnew⟩

/-- A call changes nothing, or adds a port with a new number. The name of that port is new exactly if the call does not
repeat one. -/
theorem Call.apply_cases {call : Call} (h : call.apply ports = .ok all) :
    (all = ports ∧ ¬call.RepeatsName ports) ∨ ∃ port, all = ports ++ [port] ∧
      (∀ p ∈ ports, ¬p.containerPort.SameGiven port.containerPort) ∧
      (call.RepeatsName ports ↔ ∃ p ∈ ports, p.name.SameGiven port.name) := by
  cases call with
  | ensure port =>
    rw [apply_ensure] at h
    obtain rfl := Except.ok.inj h
    split
    · exact .inl ⟨rfl, id⟩
    · rename_i hnew
      have hapart : ∀ p ∈ ports, ¬(p.name.SameGiven port.name ∨ p.containerPort.SameGiven port.containerPort) := by
        intro p hp hc
        rw [← conflict_some_iff, conflict_iff rfl] at hc
        exact hnew (List.any_eq_true.mpr ⟨p, hp, hc⟩)
      refine .inr ⟨port, rfl, fun p hp hsame => hapart p hp (.inr hsame), iff_of_false id ?_⟩
      rintro ⟨p, hp, hsame⟩
      exact hapart p hp (.inl hsame)
  | add text name =>
    obtain ⟨⟨all', added⟩, hadd, h⟩ := bind_eq_ok.mp h
    obtain rfl := Except.ok.inj h
    obtain ⟨rfl, hold⟩ | ⟨n, rfl, hn, hnew⟩ := addNumber_cases hadd
    · refine .inl ⟨rfl, ?_⟩
      rintro ⟨⟨n, hn, hnew⟩, -⟩
      obtain ⟨p, hp, hsame⟩ := hold n hn
      rw [hnew p hp] at hsame
      cases hsame
    · refine .inr ⟨_, rfl, fun p hp hsame => ?_, and_iff_right ⟨n, hn, hnew⟩⟩
      have hold := hsame.2.2
      rw [hnew p hp] at hold
      cases hold

theorem Call.distinctNumbers_apply {call : Call} (h : call.apply ports = .ok all) (hports : DistinctNumbers ports) :
    DistinctNumbers all := by
  obtain ⟨rfl, -⟩ | ⟨port, rfl, hnew, -⟩ := apply_cases h
  · exact hports
  · exact distinctNumbers_concat.mpr ⟨hports, hnew⟩

theorem Call.distinctNames_apply_iff {call : Call} (h : call.apply ports = .ok all) :
    DistinctNames all ↔ DistinctNames ports ∧ ¬call.RepeatsName ports := by
  obtain ⟨rfl, hkeep⟩ | ⟨port, rfl, -, hrepeats⟩ := apply_cases h
  · exact (and_iff_left hkeep).symm
  · rw [distinctNames_concat, hrepeats]
    simp

/-- A number that is given as text, or not at all, can be read. -/
theorem exists_addNumber {text : Value} (ports : List ContainerPort) (name : Value)
    (h : text.isNull ∨ text.text?.isSome) : ∃ result, addNumber ports text name = .ok result := by
  have hnumber : ∃ number, numberOf text = .ok number := by
    unfold numberOf
    split
    · exact ⟨none, rfl⟩
    · rename_i htruthy
      rcases h with hnull | htext
      · rw [Value.isNull_of_isTruthy (by simpa using htruthy)] at hnull
        cases hnull
      · obtain ⟨s, hs⟩ := Option.isSome_iff_exists.mp htext
        exact ⟨Number.readInteger s, by rw [hs]⟩
  obtain ⟨number, hnumber⟩ := hnumber
  rw [addNumber, hnumber, ok_bind]
  cases number with
  | none => exact ⟨_, rfl⟩
  | some n =>
    dsimp only
    split <;> exact ⟨_, rfl⟩

theorem Call.exists_apply {call : Call} (ports : List ContainerPort)
    (h : ∀ text name, call = add text name → text.isNull ∨ text.text?.isSome) : ∃ all, call.apply ports = .ok all := by
  cases call with
  | ensure port => exact ⟨_, apply_ensure ports port⟩
  | add text name =>
    obtain ⟨result, hresult⟩ := exists_addNumber ports name (h text name rfl)
    exact ⟨result.1, by rw [apply, hresult]; rfl⟩

/-! ## Many calls -/

def run (ports : List ContainerPort) (calls : List Call) : Except Misfit (List ContainerPort) :=
  calls.foldlM Call.apply ports

theorem run_cons_eq_ok {call : Call} {calls : List Call} :
    run ports (call :: calls) = .ok all ↔ ∃ next, call.apply ports = .ok next ∧ run next calls = .ok all := by
  rw [run, List.foldlM_cons, bind_eq_ok]
  rfl

theorem exists_run {calls : List Call} (ports : List ContainerPort)
    (h : ∀ text name, .add text name ∈ calls → text.isNull ∨ text.text?.isSome) : ∃ all, run ports calls = .ok all := by
  induction calls generalizing ports with
  | nil => exact ⟨ports, rfl⟩
  | cons call calls ih =>
    obtain ⟨next, hnext⟩ := Call.exists_apply ports fun text name heq => h text name (heq ▸ List.mem_cons_self)
    obtain ⟨all, hall⟩ := ih next fun text name hmem => h text name (List.mem_cons_of_mem _ hmem)
    exact ⟨all, run_cons_eq_ok.mpr ⟨next, hnext, hall⟩⟩

/-- Numbers stay distinct. -/
theorem distinctNumbers_run {calls : List Call} (h : run ports calls = .ok all) (hports : DistinctNumbers ports) :
    DistinctNumbers all := by
  induction calls generalizing ports with
  | nil =>
    obtain rfl := Except.ok.inj h
    exact hports
  | cons call calls ih =>
    obtain ⟨next, hnext, hrest⟩ := run_cons_eq_ok.mp h
    exact ih hrest (Call.distinctNumbers_apply hnext hports)

/-- Names stay distinct exactly if no call repeats one. -/
theorem distinctNames_run_iff {calls : List Call} (h : run ports calls = .ok all) :
    DistinctNames all ↔ DistinctNames ports ∧
      ∀ before call after mid, calls = before ++ call :: after → run ports before = .ok mid →
        ¬call.RepeatsName mid := by
  induction calls generalizing ports with
  | nil =>
    obtain rfl := Except.ok.inj h
    simp
  | cons call calls ih =>
    obtain ⟨next, hnext, hrest⟩ := run_cons_eq_ok.mp h
    rw [ih hrest, Call.distinctNames_apply_iff hnext, and_assoc]
    refine and_congr_right' ⟨?_, fun hall => ⟨hall [] call calls ports rfl rfl, ?_⟩⟩
    · rintro ⟨hfirst, hothers⟩ before call' after mid hcalls hmid
      cases before with
      | nil =>
        obtain ⟨rfl, rfl⟩ := List.cons.inj hcalls
        obtain rfl := Except.ok.inj hmid
        exact hfirst
      | cons call'' before =>
        obtain ⟨rfl, rfl⟩ := List.cons.inj hcalls
        obtain ⟨next', hnext', hmid⟩ := run_cons_eq_ok.mp hmid
        obtain rfl := Except.ok.inj (hnext.symm.trans hnext')
        exact hothers before call' after mid rfl hmid
    · rintro before call' after mid rfl hmid
      exact hall (call :: before) call' after mid rfl (run_cons_eq_ok.mpr ⟨next, hnext, hmid⟩)

/-- **When ports are unique.** The ports of a container that is built have no names, and their numbers are distinct
exactly if the entries of its image give distinct ones. Ports that are unique keep distinct numbers, whatever calls
follow, and they keep distinct names exactly if no call adds a port by number under a name that is there. -/
theorem unique_iff (p : Project) (s : Settings) (images : List Image) (ports : List ContainerPort) (calls : List Call) :
    (∀ containers, p.containers s images = .ok containers → ∀ c ∈ containers,
      ∃ image ∈ images, ∃ last built, p.container s image last = .ok c ∧ c.portList = built.map some ∧
        DistinctNames built ∧
        (DistinctNumbers built ↔ ((PortSpec.entries image.portSpecs).map (PortSpec.number? p.properties)).Nodup)) ∧
    (DistinctNumbers ports → DistinctNames ports →
      (∀ text name, .add text name ∈ calls → text.isNull ∨ text.text?.isSome) →
        ∃ all, run ports calls = .ok all ∧ DistinctNumbers all ∧
          (DistinctNames all ↔ ∀ before call after mid, calls = before ++ call :: after →
            run ports before = .ok mid → ¬call.RepeatsName mid)) := by
  refine ⟨fun containers h c hc => ?_, fun hnumbers hnames htexts => ?_⟩
  · obtain ⟨image, himage, last, hcontainer⟩ := Project.exists_container h c hc
    obtain ⟨built, hbuilt, hlist⟩ := Project.portList_of_container hcontainer
    exact ⟨image, himage, last, built, hcontainer, hlist, PortSpec.distinctNames_of_ports hbuilt,
      PortSpec.distinctNumbers_iff hbuilt⟩
  · obtain ⟨all, hall⟩ := exists_run ports htexts
    exact ⟨all, hall, distinctNumbers_run hall hnumbers, (distinctNames_run_iff hall).trans (and_iff_right hnames)⟩

/-- An image that names one port twice, and a port that is added by number under a name that is there. -/
theorem unique_iff_repeated :
    let http : Value := .ofString "http"
    let image : Image :=
      { name := .ofString "web", givenName := .ofString "web", build := some { ports := some ["8080, 9090:8080"] } }
    let web : Container :=
      { name := .ofString "web", image := .ofString "web", env := some [], volumeMounts := some []
        securityContext := some { privileged := .ofBool false }
        ports := some [some { containerPort := .ofInt 8080 },
          some { containerPort := .ofInt 8080, hostPort := .ofInt 9090 }] }
    let ports : List ContainerPort := [{ name := http, containerPort := .ofInt 8080 }]
    let calls : List Call := [.ensure { name := http, containerPort := .ofInt 9090 }, .add (.ofString "8778") http]
    ({} : Project).containers {} [image] = .ok [web] ∧
      (∃ built, web.portList = built.map some ∧ DistinctNames built ∧ ¬DistinctNumbers built) ∧
      DistinctNumbers ports ∧ DistinctNames ports ∧
      (∀ text name, .add text name ∈ calls → text.isNull ∨ text.text?.isSome) ∧
      ∃ all, run ports calls = .ok all ∧ DistinctNumbers all ∧ ¬DistinctNames all := by
  intro http image web ports calls
  have hbuilt : ({} : Project).containers {} [image] = .ok [web] := by with_unfolding_all rfl
  have hspecs : (PortSpec.entries image.portSpecs).map (PortSpec.number? []) = [some 8080, some 8080] := by
    decide +kernel
  have hnumbers : DistinctNumbers ports := List.pairwise_singleton _ _
  have hnames : DistinctNames ports := List.pairwise_singleton _ _
  have htexts : ∀ text name, .add text name ∈ calls → text.isNull ∨ text.text?.isSome := by
    intro text name hmem
    obtain ⟨rfl, -⟩ : text = .ofString "8778" ∧ name = http := by simpa [calls] using hmem
    exact .inr rfl
  have hensure : run ports [.ensure { name := http, containerPort := .ofInt 9090 }] = .ok ports := rfl
  have hrepeats : (Call.add (.ofString "8778") http).RepeatsName ports :=
    ⟨⟨8778, rfl, by decide⟩, _, List.mem_cons_self, rfl, rfl, rfl⟩
  have hunique := unique_iff {} {} [image] ports calls
  obtain ⟨other, hother, last, built, -, hlist, hfree, hiff⟩ := hunique.1 [web] hbuilt web List.mem_cons_self
  obtain rfl := List.mem_singleton.mp hother
  obtain ⟨all, hall, hkeep, hrun⟩ := hunique.2 hnumbers hnames htexts
  refine ⟨hbuilt, ⟨built, hlist, hfree, fun h => ?_⟩, hnumbers, hnames, htexts, all, hall, hkeep, fun h => ?_⟩
  · have hnodup := hiff.mp h
    rw [hspecs] at hnodup
    simp at hnodup
  · exact hrun.mp h _ _ [] ports rfl hensure hrepeats

end ContainerPort

end KubeManifest
