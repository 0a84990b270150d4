import KubeManifest.Proofs.Merge.Additive
import KubeManifest.Proofs.Merge.Idempotent

/-!
# Lists without nulls

A null among the containers of a specification, or among their variables, ports or mounts, cannot be written. Some
merges stumble over it before, and no merge takes it away: what was there stays in front.

* `Container.Whole`, `PodSpec.Whole` : a container and a specification without nulls in their lists;
* `PodSpec.exists_toValue?_iff` : these are the specifications that can be written;
* `PodSpec.Listed` : the containers form a list, and the name of the first one can be looked into;
* `PodSpec.exists_merge_iff` : when a merge comes to an end that can be counted and written.
-/

namespace KubeManifest

open Model

/-- A container without nulls among its variables, ports and mounts. -/
structure Container.Whole (c : Container) : Prop where
  env : ∀ e ∈ c.envList, e.isSome
  ports : ∀ p ∈ c.portList, p.isSome
  volumeMounts : ∀ v ∈ c.volumeMounts.getD [], v.isSome

namespace PodSpec

def AllWhole (cs : List (Option Container)) : Prop :=
  ∀ c ∈ cs, ∃ m, c = some m ∧ m.Whole

/-- A specification whose containers are all there and whole. -/
def Whole (p : PodSpec) : Prop :=
  AllWhole p.list

/-- A specification whose containers are a list, the first of which has a name that can be looked into: it does not
count as given, or it is a text. -/
structure Listed (p : PodSpec) : Prop where
  isList : p.containers.isSome
  firstName : ∀ c rest, p.list = some c :: rest → c.name.isTruthy → c.name.text?.isSome

end PodSpec

/-! ## What can be written -/

theorem Model.exists_writeAll_iff {α : Type} {write : α → Except Misfit Value} {models : Option (List (Option α))} :
    (∃ v, writeAll write models = .ok v) ↔ ∀ m ∈ models.getD [], ∃ x, m = some x ∧ ∃ v, write x = .ok v := by
  have hone : ∀ m, (∃ v, writeOne write m = .ok v) ↔ ∃ x, m = some x ∧ ∃ v, write x = .ok v := by
    intro m
    cases m <;> simp [writeOne]
  cases models with
  | none => simp [writeAll]
  | some ms =>
    rw [Option.getD_some]
    simp only [← hone, ← exists_mapM_ok_iff]
    constructor
    · rintro ⟨v, hv⟩
      obtain ⟨ws, hws, -⟩ := bind_eq_ok.mp hv
      exact ⟨ws, hws⟩
    · rintro ⟨ws, hws⟩
      exact ⟨.ofList ws, bind_eq_ok.mpr ⟨ws, hws, rfl⟩⟩

/-- Models without misfits of their own can be written if none is missing. -/
theorem Model.exists_writeAll_ok_iff {α : Type} {put : α → Value} {models : Option (List (Option α))} :
    (∃ v, writeAll (fun m => .ok (put m)) models = .ok v) ↔ ∀ m ∈ models.getD [], m.isSome := by
  simp [exists_writeAll_iff, Option.isSome_iff_exists]

theorem Container.exists_toValue?_iff {c : Container} : (∃ v, c.toValue? = .ok v) ↔ c.Whole := by
  constructor
  · rintro ⟨v, hv⟩
    obtain ⟨env, ports, mounts, henv, hports, hmounts, -⟩ := toValue?_eq_ok hv
    exact ⟨exists_writeAll_ok_iff.mp ⟨env, henv⟩, exists_writeAll_ok_iff.mp ⟨ports, hports⟩,
      exists_writeAll_ok_iff.mp ⟨mounts, hmounts⟩⟩
  · intro h
    obtain ⟨env, henv⟩ := exists_writeAll_ok_iff.mpr h.env
    obtain ⟨ports, hports⟩ := exists_writeAll_ok_iff.mpr h.ports
    obtain ⟨mounts, hmounts⟩ := exists_writeAll_ok_iff.mpr h.volumeMounts
    exact ⟨_, toValue?_of_written henv hports hmounts⟩

theorem PodSpec.exists_toValue?_iff {p : PodSpec} : (∃ v, p.toValue? = .ok v) ↔ p.Whole := by
  have hall : (∃ v, writeAll Container.toValue? p.containers = .ok v) ↔ p.Whole := by
    simp only [exists_writeAll_iff, Container.exists_toValue?_iff]
    rfl
  rw [← hall, toValue?_eq_writeAll]
  constructor
  · rintro ⟨v, hv⟩
    obtain ⟨containers, hc, -⟩ := bind_eq_ok.mp hv
    exact ⟨containers, hc⟩
  · rintro ⟨containers, hc⟩
    exact ⟨_, bind_eq_ok.mpr ⟨containers, hc, rfl⟩⟩

/-! ## Merging containers -/

namespace Container

/-- A whole container is filled from a whole one, and stays whole. -/
theorem exists_merge {t d : Container} (ht : t.Whole) (hd : d.Whole) : ∃ c, t.merge d = ⟨c, none⟩ ∧ c.Whole := by
  have hmisfit := merge_misfit ht.env hd.env ht.ports hd.ports
  rcases hm : t.merge d with ⟨c, misfit⟩
  rw [hm] at hmisfit
  obtain rfl : misfit = none := hmisfit
  refine ⟨c, rfl, ?_⟩
  obtain ⟨env, ports, henv, hports, rfl⟩ := merge_eq_iff.mp hm
  refine ⟨fun e he => ?_, fun p hp => ?_, ht.volumeMounts⟩
  · have hmem : e ∈ (Merged.addTo EnvVar.addMissing t.env d.env).result.getD [] := by
      rw [henv]
      exact he
    exact (EnvVar.adds.mem_addTo hmem).elim (ht.env e) (hd.env e)
  · have hmem : p ∈ (Merged.addTo ContainerPort.addMissing t.ports d.ports).result.getD [] := by
      rw [hports]
      exact hp
    exact (ContainerPort.adds.mem_addTo hmem).elim (ht.ports p) (hd.ports p)

/-- A container that is whole after a merge was whole before. -/
theorem Filled.whole {t d c : Container} (h : t.Filled d c) (hc : c.Whole) : t.Whole where
  env e he := hc.env e (h.env.subset he)
  ports p hp := hc.ports p (h.ports.subset hp)
  volumeMounts := h.volumeMounts ▸ hc.volumeMounts

end Container

namespace PodSpec

theorem exists_mergeContainers {ts ds : List (Option Container)} (ht : AllWhole ts) (hd : AllWhole ds) :
    ∃ rs, mergeContainers ts ds = ⟨rs, none⟩ ∧ AllWhole rs := by
  induction ts generalizing ds with
  | nil => exact ⟨ds, mergeContainers_nil_left ds, hd⟩
  | cons t ts ih =>
    cases ds with
    | nil => exact ⟨t :: ts, rfl, ht⟩
    | cons d ds =>
      obtain ⟨⟨t, rfl, htwhole⟩, hts⟩ := List.forall_mem_cons.mp ht
      obtain ⟨⟨d, rfl, hdwhole⟩, hds⟩ := List.forall_mem_cons.mp hd
      obtain ⟨c, hc, hcwhole⟩ := Container.exists_merge htwhole hdwhole
      obtain ⟨rs, hrs, hwhole⟩ := ih hts hds
      refine ⟨some c :: rs, ?_, List.forall_mem_cons.mpr ⟨⟨c, rfl, hcwhole⟩, hwhole⟩⟩
      rw [mergeContainers_cons_of_merge ts ds hc, hrs, Merged.within_mk]

/-- Every container stays where it is, so that none that was there becomes whole. -/
theorem allWhole_of_mergeContainers {ts ds rs : List (Option Container)} (h : mergeContainers ts ds = ⟨rs, none⟩)
    (hr : AllWhole rs) : AllWhole ts := by
  obtain ⟨-, -, hkeep, hfill⟩ := mergeContainers_spec h
  intro t ht
  obtain ⟨i, hi⟩ := List.mem_iff_getElem?.mp ht
  cases hd : ds[i]? with
  | none => exact hr t (List.mem_of_getElem? ((hkeep i (List.getElem?_eq_none_iff.mp hd)).trans hi))
  | some d =>
    obtain ⟨tc, dc, c, rfl, rfl, hc, hm⟩ := hfill i t d hi hd
    obtain ⟨m, hcm, hwhole⟩ := hr _ (List.mem_of_getElem? hc)
    obtain rfl := Option.some.inj hcm
    exact ⟨tc, rfl, (Container.filled_of_merge hm).whole hwhole⟩

/-! ## The name of the first container -/

theorem exists_lacksName_iff {name : Value} :
    (∃ lacks, lacksName name = .ok lacks) ↔ (name.isTruthy → name.text?.isSome) := by
  rw [lacksName]
  cases name.isTruthy with
  | false => simp
  | true => cases name.text? <;> simp

/-- Whether a container is whole does not depend on its name. -/
theorem whole_rename_iff {c : Container} {name : Value} : ({ c with name := name } : Container).Whole ↔ c.Whole :=
  ⟨fun ⟨henv, hports, hmounts⟩ => ⟨henv, hports, hmounts⟩, fun ⟨henv, hports, hmounts⟩ => ⟨henv, hports, hmounts⟩⟩

theorem allWhole_rename_iff {c : Container} {name : Value} {rest : List (Option Container)} :
    AllWhole (some { c with name := name } :: rest) ↔ AllWhole (some c :: rest) := by
  rw [AllWhole, AllWhole, List.forall_mem_cons, List.forall_mem_cons]
  simp [whole_rename_iff]

theorem allWhole_nameFirst_iff {fallback : Value} {cs rs : List (Option Container)}
    (h : nameFirst fallback cs = ⟨rs, none⟩) : AllWhole rs ↔ AllWhole cs := by
  rcases nameFirst_cases h with ⟨rfl, -⟩ | ⟨c, rest, rfl, -, rfl⟩
  · rfl
  · exact allWhole_rename_iff

theorem exists_nameFirst_iff {fallback : Value} {cs : List (Option Container)} (hcs : AllWhole cs) :
    (∃ rs, nameFirst fallback cs = ⟨rs, none⟩) ↔
      ∀ c rest, cs = some c :: rest → c.name.isTruthy → c.name.text?.isSome := by
  cases cs with
  | nil => simp [nameFirst]
  | cons c rest =>
    obtain ⟨c, rfl, -⟩ := hcs c List.mem_cons_self
    have hname : (∃ rs, nameFirst fallback (some c :: rest) = ⟨rs, none⟩) ↔
        ∃ lacks, lacksName c.name = .ok lacks := by
      rw [nameFirst]
      cases lacksName c.name with
      | error misfit => simp
      | ok lacks => cases lacks <;> simp
    rw [hname, exists_lacksName_iff]
    simp

/-! ## Merging specifications -/

section

variable {t d q : PodSpec} {fallback : Value}

theorem merge_of_list_eq_nil (hd : d.list = []) : t.merge d fallback =
    match t.containers with
    | none => ⟨t, none⟩
    | some cs => (nameFirst fallback cs).within fun cs => { t with containers := some cs } := by
  rw [list] at hd
  cases hc : t.containers <;> simp only [merge, hd, hc]

theorem merge_of_list_ne_nil (hd : d.list ≠ []) : t.merge d fallback =
    (mergeContainers t.list d.list).within fun cs => { t with containers := some cs } := by
  rw [list] at hd
  unfold merge
  split
  · rename_i hnil
    exact absurd hnil hd
  · rfl

/-- Without default containers a merge ends well exactly if there is a list, and a first name to look into. -/
theorem exists_merge_iff_of_list_eq_nil (ht : t.Whole) (hd : d.list = []) :
    (∃ q, (t.merge d fallback).finished = .ok q ∧ q.containers.isSome ∧ q.Whole) ↔ t.Listed := by
  rw [merge_of_list_eq_nil hd]
  cases hc : t.containers with
  | none =>
    refine iff_of_false (fun ⟨q, hq, hsome, _⟩ => ?_) fun h => ?_
    · obtain rfl : t = q := Except.ok.inj hq
      rw [hc] at hsome
      cases hsome
    · have hsome := h.isList
      rw [hc] at hsome
      cases hsome
  | some cs =>
    have hcs := list_of_containers hc
    rw [Whole, hcs] at ht
    have hlisted : t.Listed ↔ ∃ rs, nameFirst fallback cs = ⟨rs, none⟩ := by
      rw [exists_nameFirst_iff ht, ← hcs]
      exact ⟨fun h => h.firstName, fun h => ⟨by rw [hc]; rfl, h⟩⟩
    rw [hlisted]
    dsimp only
    rcases hn : nameFirst fallback cs with ⟨rs, _ | misfit⟩
    · have hwhole := (allWhole_nameFirst_iff hn).mpr ht
      exact iff_of_true ⟨_, rfl, rfl, hwhole⟩ ⟨rs, rfl⟩
    · refine iff_of_false (fun ⟨q, hq, _⟩ => ?_) fun ⟨rs', h⟩ => ?_
      · cases hq
      · cases h

theorem whole_of_merge (h : (t.merge d fallback).finished = .ok q) (hq : q.Whole) : t.Whole := by
  obtain ⟨-, ⟨-, hname⟩ | ⟨-, hmerge⟩⟩ := list_of_merge h
  · exact (allWhole_nameFirst_iff hname).mp hq
  · exact allWhole_of_mergeContainers hmerge hq

/-- **A merge comes to an end that can be counted and written** exactly if no list of the specification holds a null
and, where there are no default containers, its own are a list whose first name can be looked into. -/
theorem exists_merge_iff (hd : d.Whole) :
    (∃ q, (t.merge d fallback).finished = .ok q ∧ q.containers.isSome ∧ q.Whole) ↔
      t.Whole ∧ (d.list = [] → t.Listed) := by
  by_cases ht : t.Whole
  · rw [and_iff_right ht]
    by_cases hnil : d.list = []
    · rw [exists_merge_iff_of_list_eq_nil ht hnil]
      exact ⟨fun h _ => h, fun h => h hnil⟩
    · obtain ⟨rs, hrs, hwhole⟩ := exists_mergeContainers ht hd
      refine iff_of_true ⟨{ t with containers := some rs }, ?_, rfl, hwhole⟩ fun h => absurd h hnil
      rw [merge_of_list_ne_nil hnil, hrs]
      rfl
  · exact iff_of_false (fun ⟨q, hq, _, hwhole⟩ => ht (whole_of_merge hq hwhole)) fun h => ht h.1

end

end PodSpec

end KubeManifest
