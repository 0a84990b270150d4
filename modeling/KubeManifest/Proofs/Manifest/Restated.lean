import KubeManifest.Manifest.Tree
import KubeManifest.Proofs.Resource.Additive
import KubeManifest.Proofs.Value.Restated

/-!
# Manifests restate what they are made from

* `Layout.restates_write` : a mapping that is read and written again holds the same scalars;
* `Resource.HasPods.restates_withPods` : a specification restates what its pods restate;
* `Resource.restates_rewrite` : a resource that is read and written again holds the same scalars;
* `Exportable.tree_scalars_iff` : so does its manifest.
-/

namespace KubeManifest

open Model Value

/-! ## Models -/

theorem Model.keyed_compact_append {ps : List (String × Value)} {extra : Fields} (hextra : extra.Keyed)
    (hnodup : (ps.map Prod.fst).Nodup) (hno : ∀ p ∈ ps, Fields.find? extra p.1 = none) :
    Fields.Keyed (compact ps ++ extra) := by
  refine ⟨fun e he => ?_, distinct_compact_append hextra.distinct hnodup hno⟩
  rcases List.mem_append.mp he with he | he
  · rw [compact_eq_named] at he
    obtain ⟨p, -, rfl⟩ := List.mem_map.mp (List.mem_filter.mp he).1
    rfl
  · exact hextra.texts e he

theorem Model.keyed_extraOf {fs : Fields} (h : fs.Keyed) (names : List String) : Fields.Keyed (extraOf names fs) :=
  (h.filter _).of_map_fst (by rw [extraOf, Fields.plainValues, List.map_map]; rfl)

/-- A field that is left out is restated by null. -/
theorem Model.restates_if_isWritten {v w : Value} (h : Restates v w) :
    Restates v (if isWritten w then w else .null) := by
  split
  · exact h
  · rename_i hw
    exact h.trans (restates_of_not_isWritten (eq_false_of_ne_true hw) rfl (.scalar _ _))

theorem Layout.restates_assemble {layout : Layout} {fs : Fields} {mark : Option Mark} {ps : List (String × Value)}
    (hp : layout.proper = true) (hr : Regular (.map fs mark)) (hps : layout.fields fs = some ps)
    (h : ∀ p ∈ ps, Restates (Fields.get fs p.1) p.2) :
    Restates (.map fs mark) (assemble layout.names fs ps) := by
  have hnames := map_fst_fields hps
  have hnodup : (ps.map Prod.fst).Nodup := hnames ▸ nodup_names hp
  have hno : ∀ p ∈ ps, Fields.find? (extraOf layout.names fs) p.1 = none := fun p hp =>
    find?_extraOf_of_mem fs (hnames ▸ List.mem_map_of_mem hp)
  refine restates_map (keyed_compact_append (keyed_extraOf hr.keyed _) hnodup hno) mark none fun name => ?_
  by_cases hname : name ∈ ps.map Prod.fst
  · obtain ⟨p, hp, rfl⟩ := List.mem_map.mp hname
    rw [get_compact_append hnodup hp (hno p hp)]
    exact restates_if_isWritten (h p hp)
  · rw [get_compact_append_of_not_mem hname, Fields.get_of_find?_map (find?_extraOf fs (hnames ▸ hname))]
    exact restates_plain (hr.get name)

theorem Model.conserves_restates : Conserves Regular Restates where
  get name h := h.get name
  item h hx := h.of_mem_list hx
  plain := restates_plain
  null h := by
    obtain ⟨mark, rfl⟩ := isNull_iff.mp h
    exact restates_of_not_isWritten rfl rfl (.scalar _ _)
  empty h := by
    obtain ⟨mark, rfl⟩ := isNull_iff.mp h
    exact restates_of_not_isWritten rfl rfl (.map ⟨by simp, by decide⟩ (by simp) none)
  list hlength h := by
    refine restates_list _ none hlength fun i x y hx hy => ?_
    obtain ⟨hrestates, gs, rfl⟩ := h i x y hx hy
    exact ⟨hrestates, rfl, fun m => Value.noConfusion⟩
  assemble := Layout.restates_assemble

/-- A mapping that is read and written again holds the same scalars. -/
theorem Layout.restates_write {layout : Layout} (hp : layout.proper = true) {v w : Value} (hr : v.Regular)
    (hf : (Shape.model layout).Fits v) (hw : v.withFields layout.write = some w) : Restates v w :=
  (conserves_restates.withFields hp hr hf hw).1

/-! ## Resources -/

namespace Resource

variable {fs body out : Fields} {kind spec pods w : Value}

/-! ### Metadata -/

/-- Metadata that are read and written again hold the same scalars. Nothing stands for an empty mapping. -/
theorem restates_metadata (hr : (Fields.get fs "metadata").Regular) (hmap : MapOrNull (Fields.find? fs "metadata"))
    (hmaps : TypedMaps (Fields.find? fs "metadata"))
    (hw : (metadataOf fs).withFields ObjectMeta.layout.write = some w) : Restates (Fields.get fs "metadata") w := by
  have hempty : isWritten (Fields.get fs "metadata") = false → metadataOf fs = .ofFields [] →
      Restates (Fields.get fs "metadata") w := by
    intro hno hof
    rw [hof] at hw
    change ObjectMeta.layout.write [] = some w at hw
    rw [Layout.write_nil] at hw
    obtain rfl := Option.some.inj hw
    exact restates_of_not_isWritten hno rfl (.map ⟨by simp, by decide⟩ (by simp) none)
  cases hv : Fields.find? fs "metadata" with
  | none =>
    have hget := Fields.get_of_find?_eq_none hv
    exact hempty (by rw [hget]; rfl) (by rw [metadataOf, hget]; rfl)
  | some v =>
    have hget := Fields.get_of_find? hv
    rcases hmap v hv with hn | ⟨ms, mark, rfl⟩
    · obtain ⟨mark, rfl⟩ := isNull_iff.mp hn
      exact hempty (by rw [hget]; rfl) (by rw [metadataOf, hget]; rfl)
    · cases ms with
      | nil => exact hempty (by rw [hget]; rfl) (by rw [metadataOf, hget]; rfl)
      | cons e ms =>
        have hof : metadataOf fs = .map (e :: ms) mark := by rw [metadataOf, hget]; rfl
        have hfits : (Shape.model ObjectMeta.layout).Fits (.map (e :: ms) mark) := by
          rw [Shape.Fits]
          intro gs hgs
          obtain rfl := Option.some.inj hgs
          rw [hv] at hmaps
          exact hmaps.fits
        rw [hof] at hw
        rw [hget] at hr ⊢
        exact Layout.restates_write (by decide) hr hfits hw

/-! ## Pods -/

theorem exists_map_of_plain {v : Value} {gs : Fields} {mark : Option Mark} (h : v.plain = .map gs mark) :
    ∃ fs m, v = .map fs m ∧ gs = Fields.plain fs := by
  cases v with
  | scalar s m => cases h
  | list items m => cases h
  | map fs m =>
    change Value.ofFields (Fields.plain fs) = _ at h
    exact ⟨fs, m, rfl, (Value.map.inj h).1.symm⟩

/-- The pods in a copy are a copy of the pods. -/
theorem exists_hasPods_of_plain {copy : Value} (ht : spec.Textual) (h : HasPods kind spec.plain copy) :
    ∃ pods, HasPods kind spec pods ∧ copy = pods.plain := by
  generalize hcopy : spec.plain = plain at h
  cases h with
  | pod hpod =>
    obtain ⟨gs, m, rfl, -⟩ := exists_map_of_plain hcopy
    exact ⟨_, .pod hpod, hcopy.symm⟩
  | workload hpod hw htemplate hpods =>
    obtain ⟨gs, m, rfl, rfl⟩ := exists_map_of_plain hcopy
    cases ht with
    | map hkeyed hvalues =>
      rw [hkeyed.find?_plain, Option.map_eq_some_iff] at htemplate
      obtain ⟨template, htemplate, hmap⟩ := htemplate
      obtain ⟨ts, tm, rfl, rfl⟩ := exists_map_of_plain hmap
      obtain ⟨k, hmem, -⟩ := Fields.mem_of_find? htemplate
      cases hvalues _ hmem with
      | map hkeyed' _ =>
        rw [hkeyed'.find?_plain, Option.map_eq_some_iff] at hpods
        obtain ⟨pods, hpods, hmap'⟩ := hpods
        obtain ⟨ps, pm, rfl, rfl⟩ := exists_map_of_plain hmap'
        exact ⟨_, .workload hpod hw htemplate hpods, hmap'.symm⟩

theorem TypedLists.plain {v : Option Value} (ht : ∀ x, v = some x → x.Textual) (h : TypedLists v) :
    TypedLists (v.map Value.plain) := by
  have hat : ∀ path, (v.map Value.plain).bind (·.at? path) = (v.bind (·.at? path)).map Value.plain := by
    intro path
    cases hv : v with
    | none => rfl
    | some x => exact (ht x hv).at?_plain path
  refine ⟨?_, fun i name hname => ?_⟩
  · rw [hat]
    exact h.containers.plain
  · rw [hat]
    exact (h.parts i name hname).plain

theorem HasPods.regular (h : HasPods kind spec pods) (hr : spec.Regular) : pods.Regular := by
  cases h with
  | pod h => exact hr
  | workload h hyes ht hp =>
    obtain ⟨k, hmem, -⟩ := Fields.mem_of_find? ht
    obtain ⟨k', hmem', -⟩ := Fields.mem_of_find? hp
    exact (hr.of_mem_map hmem).of_mem_map hmem'

/-- A specification restates what its pods restate. -/
theorem HasPods.restates_withPods (h : HasPods kind spec pods) (hr : spec.Regular) (hw : Restates pods w) :
    Restates spec (Resource.withPods kind spec w) := by
  cases h with
  | pod h =>
    rw [withPods_of_pod h]
    exact hw
  | @workload fs template pods mark tmark pmark h hyes ht hp =>
    rw [withPods_of_workload h ht]
    refine restates_set "template" mark mark hr ?_
    have htemplate := Fields.get_of_find? ht
    have htr : Regular (.map template tmark) := htemplate ▸ hr.get "template"
    rw [htemplate]
    refine restates_map ((htr.keyed.filter _).set "spec" w) tmark tmark fun name => ?_
    change Restates (Fields.get template name) (Fields.get (withSpec template w) name)
    by_cases hne : name = "spec"
    · subst hne
      rw [Fields.get_of_find? hp, get_withSpec_self]
      exact hw
    · rw [get_withSpec_ne template w hne]
      exact Restates.refl (htr.get name)

/-- Pods that are read and written again hold the same scalars. -/
theorem restates_pods {ps : Fields} {mark : Option Mark} (hr : Regular (.map ps mark))
    (hlists : TypedLists (some (.map ps mark))) (hw : PodSpec.layout.write ps = some w) :
    Restates (.map ps mark) w := by
  have hfits : (Shape.model PodSpec.layout).Fits (.map ps mark) := by
    rw [Shape.Fits]
    intro gs hgs
    obtain rfl : ps = gs := Option.some.inj hgs
    exact hlists.fits
  exact Layout.restates_write (by decide) hr hfits hw

/-! ## Entries -/

theorem regular_bodyOf (hr : Regular (.ofFields fs)) : Regular (.ofFields (bodyOf fs)) := by
  refine .map (isKeyedBody_bodyOf hr.keyed).keyed (fun e he => ?_) none
  obtain ⟨e', he', rfl⟩ := List.mem_map.mp he
  exact (restates_plain (hr.of_mem_map (List.mem_filter.mp he').1)).regular

theorem typedLists_bodyOf (hr : Regular (.ofFields fs))
    (hlists : TypedLists ((Fields.find? fs "spec").bind (pods? kind))) (spec pods : Value)
    (hspec : Fields.find? (bodyOf fs) "spec" = some spec) (hpods : HasPods kind spec pods) :
    TypedLists (some pods) := by
  rw [find?_bodyOf (by decide), Option.map_eq_some_iff] at hspec
  obtain ⟨own, hown, rfl⟩ := hspec
  obtain ⟨k, hmem, -⟩ := Fields.mem_of_find? hown
  have hown' := hr.of_mem_map hmem
  obtain ⟨ownPods, hownPods, rfl⟩ := exists_hasPods_of_plain hown'.textual hpods
  rw [hown, Option.bind_some, pods?_eq_some.mpr hownPods] at hlists
  refine hlists.plain fun x hx => ?_
  obtain rfl := Option.some.inj hx
  exact (hownPods.regular hown').textual

/-- The entries beside kind, version and metadata hold the same scalars when their pods are written again. -/
theorem restates_rewriteBody (hb : IsKeyedBody body) (hr : Regular (.ofFields body))
    (hlists : ∀ spec pods, Fields.find? body "spec" = some spec → HasPods kind spec pods → TypedLists (some pods))
    (h : rewriteBody kind body = some out) (name : String) : Restates (Fields.get body name) (Fields.get out name) := by
  rcases rewriteBody_cases hb.toIsBody h with ⟨-, rfl⟩ | ⟨spec, ps, mark, w, rest, hspec, hpods, hleft, hw, rfl⟩
  · rw [hb.keyed.get_plain]
    exact restates_plain (hr.get name)
  · by_cases hne : name = "spec"
    · subst hne
      have hold := Fields.get_of_find? hspec
      have hspecr : spec.Regular := hold ▸ hr.get "spec"
      rw [hold, Fields.get_set_self]
      exact hpods.restates_withPods hspecr (restates_pods (hpods.regular hspecr) (hlists spec _ hspec hpods) hw)
    · have hkeyed : rest.Keyed := by
        refine ⟨fun e he => ?_, hleft.distinct⟩
        obtain ⟨e', he', hk⟩ := hleft.keys e he
        exact hk ▸ hb.texts e' he'
      have hnew : Fields.get (Fields.set (Fields.plain rest) "spec" (withPods kind spec w)) name =
          (Fields.get body name).plain := by
        rw [Fields.get_set_ne _ _ (Ne.symm hne), hkeyed.get_plain, Fields.get, hleft.find? name hne, ← Fields.get]
      rw [hnew]
      exact restates_plain (hr.get name)

/-- A resource that is read and written again holds the same scalars. -/
theorem restates_rewrite {written : Fields} (hr : Regular (.ofFields fs)) (hmap : MapOrNull (Fields.find? fs "metadata"))
    (hmaps : TypedMaps (Fields.find? fs "metadata"))
    (hlists : TypedLists ((Fields.find? fs "spec").bind (pods? (Fields.get fs "kind"))))
    (h : rewrite fs = some written) : Restates (.ofFields fs) (.ofFields written) := by
  rw [rewrite, Option.bind_eq_bind, Option.bind_eq_some_iff] at h
  obtain ⟨metadata, hmetadata, h⟩ := h
  rw [Option.bind_eq_bind, Option.bind_eq_some_iff] at h
  obtain ⟨body, hbody, h⟩ := h
  obtain rfl := Option.some.inj h
  have hb := isKeyedBody_bodyOf hr.keyed
  have hplain := rewriteBody_isPlain hb.toIsBody hbody
  have hno := Headless.rewriteBody hb.toIsBody hbody hb.header
  refine restates_map (named_manifest hplain.toNamed hno).keyed none none fun name => ?_
  by_cases hname : name ∈ headerNames
  · simp only [headerNames, List.mem_cons, List.not_mem_nil, or_false] at hname
    rcases hname with rfl | rfl | rfl
    · exact Restates.refl (hr.get _)
    · exact Restates.refl (hr.get _)
    · exact restates_metadata (hr.get _) hmap hmaps hmetadata
  · have hcopy : Fields.get (bodyOf fs) name = (Fields.get fs name).plain :=
      Fields.get_of_find?_map (find?_bodyOf hname)
    have hnew : Fields.get (manifest (Fields.get fs "apiVersion") (Fields.get fs "kind") metadata body) name =
        Fields.get body name := congrArg (fun v => v.getD Value.null) (find?_manifest hname)
    have hrest := restates_rewriteBody hb (regular_bodyOf hr) (typedLists_bodyOf hr hlists) hbody name
    rw [hcopy] at hrest
    exact hnew ▸ (restates_plain (hr.get name)).trans hrest

end Resource

namespace Exportable

/-- **A manifest holds exactly the scalars of the mapping that it is made from.** The mapping has different texts as
keys, no null and no empty list in its lists, mappings as metadata, labels and annotations, and lists as
containers, variables, ports and mounts. Then every scalar but null stands in the manifest of the resource that is read
from it at the same place, and no other one does. -/
theorem tree_scalars_iff {fs out : Fields} {r : Resource} (hr : (Value.ofFields fs).Regular)
    (hmap : Resource.MapOrNull (Fields.find? fs "metadata")) (hmaps : Resource.TypedMaps (Fields.find? fs "metadata"))
    (hlists : Resource.TypedLists ((Fields.find? fs "spec").bind (Resource.pods? (Fields.get fs "kind"))))
    (hread : Resource.ofFields fs = .ok r) (htree : (resource r).tree = .ok out) (path : List Step) (s : Scalar)
    (mark : Option Mark) (hs : s ≠ .null) :
    (Value.ofFields out).at? path = some (.scalar s mark) ↔ (Value.ofFields fs).at? path = some (.scalar s mark) := by
  obtain ⟨written, hwritten, hout⟩ := bind_eq_ok.mp htree
  obtain rfl : Manifest.arrange written = out := Except.ok.inj hout
  have hrewrite := Resource.toOption_ofFields fs
  rw [hread, ok_bind] at hrewrite
  rw [show r.toFields? = .ok written from hwritten, toOption_ok] at hrewrite
  have hrestates := Resource.restates_rewrite hr hmap hmaps hlists hrewrite.symm
  rw [Manifest.at?_arrange_iff hrestates.regular hs]
  exact hrestates.scalars path s mark hs

/-- A pod with empty labels and a container without ports: what is empty is left out, and the names stay. -/
theorem tree_scalars_iff_pod :
    let entry (name : String) (v : Value) : Value × Value := (.ofString name, v)
    let container := Value.ofFields [entry "name" (.ofString "web"), entry "ports" .null]
    let pods := Value.ofFields [entry "containers" (.ofList [container])]
    let fs := [entry "kind" (.ofString "Pod"), entry "metadata" (.ofFields [entry "labels" (.ofFields [])]),
      entry "spec" pods]
    let r : Resource := {
      kind := .ofString "Pod", apiVersion := .null
      podSpec := some { containers := some [some { name := .ofString "web" }] } }
    let out := [entry "kind" (.ofString "Pod"), entry "metadata" (.ofFields []),
      entry "spec" (.ofFields [entry "containers" (.ofList [.ofFields [entry "name" (.ofString "web")]])])]
    (Value.ofFields fs).Regular ∧ Resource.MapOrNull (Fields.find? fs "metadata") ∧
      Resource.TypedMaps (Fields.find? fs "metadata") ∧
      Resource.TypedLists ((Fields.find? fs "spec").bind (Resource.pods? (Fields.get fs "kind"))) ∧
      Resource.ofFields fs = .ok r ∧ (resource r).tree = .ok out ∧
      ∀ path s mark, s ≠ .null →
        ((Value.ofFields out).at? path = some (.scalar s mark) ↔
          (Value.ofFields fs).at? path = some (.scalar s mark)) := by
  intro entry container pods fs r out
  have hcontainer : container.Regular := by
    refine .map ⟨by decide, by decide⟩ (fun e he => ?_) none
    simp only [List.mem_cons, List.not_mem_nil, or_false] at he
    rcases he with rfl | rfl <;> exact .scalar _ _
  have hlist : (Value.ofList [container]).Regular :=
    ⟨.list (List.forall_mem_singleton.mpr hcontainer.textual),
      .list (List.forall_mem_singleton.mpr ⟨rfl, fun m => Value.noConfusion⟩)
        (List.forall_mem_singleton.mpr hcontainer.solid)⟩
  have hpods : pods.Regular := .map ⟨by decide, by decide⟩ (List.forall_mem_singleton.mpr hlist) none
  have hlabels : (Value.ofFields [entry "labels" (.ofFields [])]).Regular :=
    .map ⟨by decide, by decide⟩ (List.forall_mem_singleton.mpr (.map ⟨by simp, by decide⟩ (by simp) none)) none
  have hr : (Value.ofFields fs).Regular := by
    refine .map ⟨by decide, by decide⟩ (fun e he => ?_) none
    simp only [fs, List.mem_cons, List.not_mem_nil, or_false] at he
    rcases he with rfl | rfl | rfl
    · exact .scalar _ _
    · exact hlabels
    · exact hpods
  have hmap : Resource.MapOrNull (Fields.find? fs "metadata") := fun x hx => .inr ⟨_, _, (Option.some.inj hx).symm⟩
  have hmaps : Resource.TypedMaps (Fields.find? fs "metadata") :=
    ⟨fun x hx => .inr ⟨_, _, (Option.some.inj hx).symm⟩, fun x hx => (by cases hx)⟩
  have hlists : Resource.TypedLists ((Fields.find? fs "spec").bind (Resource.pods? (Fields.get fs "kind"))) := by
    refine ⟨fun x hx => .inr ⟨_, _, (Option.some.inj hx).symm⟩, fun i name hname x hx => ?_⟩
    cases i with
    | succ i => cases hx
    | zero =>
      simp only [List.mem_cons, List.not_mem_nil, or_false] at hname
      rcases hname with rfl | rfl | rfl
      · cases hx
      · exact .inl ((Option.some.inj hx) ▸ rfl)
      · cases hx
  have hread : Resource.ofFields fs = .ok r := by rfl
  have htree : (resource r).tree = .ok out := by rfl
  exact ⟨hr, hmap, hmaps, hlists, hread, htree, tree_scalars_iff hr hmap hmaps hlists hread htree⟩

end Exportable

end KubeManifest
