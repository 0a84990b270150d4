import KubeManifest.Proofs.Merge.GapFilling
import KubeManifest.Proofs.Value.Entries

/-!
# Merged variables

The variables of a merged container are the union of both lists in which the first variable of a name counts. They are
added before the ports, so this holds even where the ports end the merge.

* `EnvVar.FirstWins` : the union, by what is found in it and what was added;
* `Container.DistinctEnv` : variables that differ by name;
* `PodSpec.forall_merge` : what merging and naming keep of one container, a merge keeps of all;
* `Container.merge_firstWins` : merged containers, and the containers of merged pods.
-/

namespace KubeManifest

/-! ## Names -/

/-- Names that are equal are equal to the same values. -/
theorem Value.same_congr {v w : Value} (hv : v.isNull ∨ v.text?.isSome) (hw : w.isNull ∨ w.text?.isSome)
    (h : v.same w = true) (u : Value) : v.same u = w.same u := by
  simp only [isNull_iff, Option.isSome_iff_exists, text?_eq_some_iff] at hv hw
  obtain ⟨mark, rfl⟩ | ⟨s, style, mark, rfl⟩ := hv <;> obtain ⟨mark', rfl⟩ | ⟨s', style', mark', rfl⟩ := hw
  · cases u <;> rfl
  · cases h
  · cases h
  · obtain rfl : s = s' := by simpa [same, Scalar.same, Scalar.whole?] using h
    cases u with
    | scalar s' mark => cases s' <;> rfl
    | list items mark => rfl
    | map fs mark => rfl

namespace EnvVar

/-- A variable whose name is null or a text. -/
def Named (v : EnvVar) : Prop :=
  v.name.isNull ∨ v.name.text?.isSome

/-- Two variables that are there and differ by name. -/
def Apart (e a : Option EnvVar) : Prop :=
  ∃ v w, e = some v ∧ a = some w ∧ v.name.same w.name = false

theorem apart_iff {e a : Option EnvVar} : Apart e a ↔ hasNameOf e a = .ok false := by
  cases e <;> cases a <;> simp [Apart, hasNameOf]

/-! ## Unions -/

/-- The union of two lists of variables in which the first variable of a name counts: the list `own` stays in front,
and of `others` those are added whose names are new. -/
structure FirstWins (own others all : List EnvVar) : Prop where
  find? : ∀ name, EnvVar.find? all name = (EnvVar.find? own name).or (EnvVar.find? others name)
  added : ∃ added, all = own ++ added ∧ added.Sublist others ∧
    (added.Pairwise fun v w => v.name.same w.name = false) ∧ ∀ v ∈ added, EnvVar.find? own v.name = none

theorem find?_append (vs ws : List EnvVar) (name : Value) :
    find? (vs ++ ws) name = (find? vs name).or (find? ws name) :=
  List.find?_append

theorem find?_eq_none {vs : List EnvVar} {name : Value} :
    find? vs name = none ↔ ∀ v ∈ vs, v.name.same name = false := by
  simp [find?]

theorem anyNamed_map_some (vs : List EnvVar) (a : EnvVar) :
    anyNamed (vs.map some) (some a) = .ok (find? vs a.name).isSome := by
  have hsame : ∀ e ∈ vs.map some, hasNameOf e (some a) = .ok (e.any fun v => v.name.same a.name) := by
    intro e he
    obtain ⟨v, -, rfl⟩ := List.mem_map.mp he
    rfl
  rw [adds.known_eq_any hsame, List.any_map, find?, List.isSome_find?]
  rfl

/-- What is found after the variables of a list were added. One that is passed over is not found by any name by which
an earlier one is not. -/
theorem find?_addMissing {own others : List EnvVar} (hown : ∀ v ∈ own, v.Named) (hothers : ∀ v ∈ others, v.Named) :
    ∃ all, (addMissing (own.map some) (others.map some)).result = all.map some ∧
      ∀ name, find? all name = (find? own name).or (find? others name) := by
  induction others generalizing own with
  | nil => exact ⟨own, rfl, fun name => (Option.or_none).symm⟩
  | cons a others ih =>
    obtain ⟨ha, hothers⟩ := List.forall_mem_cons.mp hothers
    rw [List.map_cons, adds.add_cons, anyNamed_map_some]
    cases hk : find? own a.name with
    | some v =>
      obtain ⟨all, hall, hfind⟩ := ih hown hothers
      refine ⟨all, hall, fun name => ?_⟩
      have hv : v.name.same a.name = true := by simpa using List.find?_some hk
      have hcongr := Value.same_congr (hown v (List.mem_of_find?_eq_some hk)) ha hv name
      rw [hfind, find?, find?, find?, List.find?_cons]
      split
      · rename_i hname
        have hsome : (own.find? fun v => v.name.same name).isSome :=
          List.find?_isSome.mpr ⟨v, List.mem_of_find?_eq_some hk, hcongr.trans hname⟩
        obtain ⟨w, hw⟩ := Option.isSome_iff_exists.mp hsome
        rw [hw, Option.some_or, Option.some_or]
      · rfl
    | none =>
      have hown' : ∀ v ∈ own ++ [a], v.Named := List.forall_mem_append.mpr ⟨hown, by simpa using ha⟩
      obtain ⟨all, hall, hfind⟩ := ih hown' hothers
      rw [List.map_append] at hall
      refine ⟨all, hall, fun name => ?_⟩
      rw [hfind, find?_append, Option.or_assoc, ← find?_append, List.singleton_append]

theorem firstWins_addMissing {own others : List EnvVar} (hown : ∀ v ∈ own, v.Named) (hothers : ∀ v ∈ others, v.Named) :
    ∃ all, (addMissing (own.map some) (others.map some)).result = all.map some ∧ FirstWins own others all := by
  obtain ⟨all, hall, hfind⟩ := find?_addMissing hown hothers
  obtain ⟨added, heq, hsub, hpair, hdiffer⟩ := adds.exists_added (own.map some) (others.map some)
  obtain ⟨added, hvars, rfl⟩ := List.sublist_map_iff.mp hsub
  rw [hall, ← List.map_append] at heq
  refine ⟨all, hall, hfind, added, (List.map_inj_right fun _ _ => Option.some.inj).mp heq, hvars, ?_, fun v hv => ?_⟩
  · exact (List.pairwise_map.mp hpair).imp Except.ok.inj
  · exact find?_eq_none.mpr fun w hw =>
      Except.ok.inj (hdiffer (some w) (List.mem_map_of_mem hw) (some v) (List.mem_map_of_mem hv))

end EnvVar

/-! ## Containers -/

namespace Container

/-- A container whose variables are all there and differ by name. -/
def DistinctEnv (c : Container) : Prop :=
  c.envList.Pairwise EnvVar.Apart

theorem distinctEnv_iff {c : Container} {vars : List EnvVar} (h : c.envList = vars.map some) :
    c.DistinctEnv ↔ vars.Pairwise fun v w => v.name.same w.name = false := by
  simp [DistinctEnv, h, List.pairwise_map, EnvVar.Apart]

/-- The variables are merged whatever becomes of the ports. -/
theorem env_merge (t d : Container) : (t.merge d).result.env = (Merged.addTo EnvVar.addMissing t.env d.env).result := by
  rw [merge, Merged.andThen_none, addEnv_eq, fillFields_env]
  rcases Merged.addTo EnvVar.addMissing t.env d.env with ⟨env, _ | m⟩
  · rw [Merged.within_mk, Merged.andThen_none, addPorts_eq, fillFields_ports]
    rcases Merged.addTo ContainerPort.addMissing t.ports d.ports with ⟨ports, _ | m⟩ <;> rfl
  · rfl

theorem envList_merge (t d : Container) :
    (t.merge d).result.envList = (EnvVar.addMissing t.envList d.envList).result := by
  rw [envList, env_merge]
  exact EnvVar.adds.result_addTo t.env d.env

theorem DistinctEnv.merge {t : Container} (ht : t.DistinctEnv) (d : Container) : (t.merge d).result.DistinctEnv := by
  have hpair := EnvVar.adds.pairwise_add (List.Pairwise.imp EnvVar.apart_iff.mp ht) d.envList
  rw [DistinctEnv, envList_merge]
  exact hpair.imp EnvVar.apart_iff.mpr

end Container

/-! ## Pods -/

namespace PodSpec

variable {P : Container → Prop}

theorem forall_mergeContainers (hmerge : ∀ t d, P t → P d → P (t.merge d).result) {ts ds : List (Option Container)}
    (ht : ∀ c, some c ∈ ts → P c) (hd : ∀ c, some c ∈ ds → P c) :
    ∀ c, some c ∈ (mergeContainers ts ds).result → P c := by
  induction ts generalizing ds with
  | nil =>
    cases ds <;> exact hd
  | cons t ts ih =>
    cases ds with
    | nil => exact ht
    | cons d ds =>
      have hts : ∀ c, some c ∈ ts → P c := fun c hc => ht c (List.mem_cons_of_mem _ hc)
      have hds : ∀ c, some c ∈ ds → P c := fun c hc => hd c (List.mem_cons_of_mem _ hc)
      have hone : ∀ c, some c = (mergeOne t d).result → P c := by
        intro c hc
        cases t with
        | none => cases hc
        | some t =>
          cases d with
          | none => exact ht c (hc ▸ List.mem_cons_self)
          | some d =>
            obtain rfl := Option.some.inj hc
            exact hmerge t d (ht t List.mem_cons_self) (hd d List.mem_cons_self)
      rw [mergeContainers]
      split
      · rename_i m hm
        rw [hm] at hone
        intro c hc
        rcases List.mem_cons.mp hc with hc | hc
        · exact hone c hc
        · exact ih hts hds c hc
      · rename_i m misfit hm
        rw [hm] at hone
        intro c hc
        rcases List.mem_cons.mp hc with hc | hc
        · exact hone c hc
        · exact hts c hc

theorem forall_nameFirst (hname : ∀ c name, P c → P { c with name := name }) {fallback : Value}
    {cs : List (Option Container)} (hcs : ∀ c, some c ∈ cs → P c) :
    ∀ c, some c ∈ (nameFirst fallback cs).result → P c := by
  unfold nameFirst
  split
  · exact hcs
  · exact hcs
  · rename_i first rest
    split
    · intro c hc
      rcases List.mem_cons.mp hc with hc | hc
      · obtain rfl := Option.some.inj hc
        exact hname first fallback (hcs first List.mem_cons_self)
      · exact hcs c (List.mem_cons_of_mem _ hc)
    · exact hcs
    · exact hcs

/-- What merging and naming keep of one container, a merge of specifications keeps of all of them, even if something
ends it. -/
theorem forall_merge (hmerge : ∀ t d, P t → P d → P (t.merge d).result)
    (hname : ∀ c name, P c → P { c with name := name }) {t d : PodSpec} (fallback : Value)
    (ht : ∀ c, some c ∈ t.list → P c) (hd : ∀ c, some c ∈ d.list → P c) :
    ∀ c, some c ∈ (t.merge d fallback).result.list → P c := by
  unfold merge
  split
  · cases hcs : t.containers with
    | none => exact ht
    | some cs =>
      rw [list, hcs] at ht
      exact forall_nameFirst hname ht
  · exact forall_mergeContainers hmerge ht hd

end PodSpec

namespace Container

/-- **Merged variables are a union in which the first one of a name counts.** The variables of the container stay in
front, and those of the default one are added whose names are new. So variables that differ by name go on to do so, in
every container of a merged specification. -/
theorem merge_firstWins :
    (∀ (t d : Container) (own others : List EnvVar), t.envList = own.map some → d.envList = others.map some →
      (∀ v ∈ own, v.Named) → (∀ v ∈ others, v.Named) →
        ∃ all, (t.merge d).result.envList = all.map some ∧ EnvVar.FirstWins own others all) ∧
    ∀ (t d : PodSpec) (fallback : Value), (∀ c, some c ∈ t.list → c.DistinctEnv) →
      (∀ c, some c ∈ d.list → c.DistinctEnv) → ∀ c, some c ∈ (t.merge d fallback).result.list → c.DistinctEnv := by
  refine ⟨fun t d own others ht hd hown hothers => ?_, fun t d fallback ht hd => ?_⟩
  · rw [envList_merge, ht, hd]
    exact EnvVar.firstWins_addMissing hown hothers
  · exact PodSpec.forall_merge (fun t d ht _ => ht.merge d) (fun _ _ h => h) fallback ht hd

/-- Of four default variables one has a name that is there, and one a name that was added before it. -/
theorem merge_firstWins_web :
    let own : List EnvVar := [{ name := .ofString "A", value := .ofString "1" }, {}]
    let others : List EnvVar :=
      [{ name := .ofString "A", value := .ofString "2" }, { name := .ofString "B", value := .ofString "3" },
        { name := .ofString "B", value := .ofString "4" }, { name := .ofString "C" }]
    let web : Container := { env := some (own.map some) }
    let app : Container := { env := some (others.map some) }
    let t : PodSpec := { containers := some [some web] }
    let d : PodSpec := { containers := some [some {}, some { env := some [some { name := .ofString "A" }] }] }
    (∀ v ∈ own, v.Named) ∧ (∀ v ∈ others, v.Named) ∧
      (∃ all, (web.merge app).result.envList = all.map some ∧ EnvVar.FirstWins own others all) ∧
      (∀ c, some c ∈ t.list → c.DistinctEnv) ∧ (∀ c, some c ∈ d.list → c.DistinctEnv) ∧
      ∀ c, some c ∈ (t.merge d (.ofString "shop")).result.list → c.DistinctEnv := by
  intro own others web app t d
  have hown : ∀ v ∈ own, v.Named := by simp [own, EnvVar.Named]
  have hothers : ∀ v ∈ others, v.Named := by simp [others, EnvVar.Named]
  have ht : ∀ c, some c ∈ t.list → c.DistinctEnv := by
    intro c hc
    obtain rfl : c = web := by simpa [t, PodSpec.list] using hc
    exact (distinctEnv_iff rfl).mpr (by decide)
  have hd : ∀ c, some c ∈ d.list → c.DistinctEnv := by
    intro c hc
    simp only [d, PodSpec.list, Option.getD_some, List.mem_cons, Option.some.injEq, List.not_mem_nil, or_false] at hc
    rcases hc with rfl | rfl
    · exact List.Pairwise.nil
    · exact List.pairwise_singleton _ _
  exact ⟨hown, hothers, merge_firstWins.1 web app own others rfl rfl hown hothers, ht, hd,
    merge_firstWins.2 t d _ ht hd⟩

end Container

end KubeManifest
