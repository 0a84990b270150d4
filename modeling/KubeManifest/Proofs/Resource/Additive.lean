import KubeManifest.Proofs.Merge.Additive
import KubeManifest.Proofs.Resource.Rewrite

/-!
# Resources keep what they are read from

* `Resource.podsPlace` : where the specification of the pods stands in a controller;
* `Resource.TypedLists` : entries whose containers, variables, ports and mounts are lists or null;
* `Resource.lostInController` : what counts as lost of a controller: everything at the place of pods that are no
  mapping, and the name of the first container where it counts as nameless;
* `Resource.placed_of_read`, `Resource.placed_of_merge` : a resource that is read and written, and a controller that
  is merged with default pods in between, keep every other scalar.
-/

namespace KubeManifest

open Model Value

/-! ## Reading -/

theorem Model.many_eq_ok {α : Type} {read : Value → Except Misfit (Option α)} {v : Value}
    {ms : Option (List (Option α))} (h : many read v = .ok ms) {m : Option α} (hm : m ∈ ms.getD []) :
    ∃ x, read x = .ok m := by
  rw [many] at h
  split at h
  · obtain rfl : none = ms := Except.ok.inj h
    simp at hm
  · obtain ⟨items, -, h⟩ := bind_eq_ok.mp h
    obtain ⟨models, hread, h⟩ := bind_eq_ok.mp h
    obtain rfl : some models = ms := Except.ok.inj h
    obtain ⟨x, -, hx⟩ := mapM_eq_ok_mem hread m hm
    exact ⟨x, hx⟩

/-- The items of a list that is read. -/
theorem Model.many_list {α : Type} {read : Value → Except Misfit (Option α)} {items : List Value}
    {mark : Option Mark}
    {ms : Option (List (Option α))} (h : many read (.list items mark) = .ok ms) :
    ∃ models, ms = some models ∧ items.mapM read = .ok models := by
  change (items.mapM read >>= fun models => pure (some models)) = _ at h
  obtain ⟨models, hread, h⟩ := bind_eq_ok.mp h
  exact ⟨models, (Except.ok.inj h).symm, hread⟩

theorem Container.read?_eq_ok {v : Value} {c : Container} (h : Container.read? v = .ok (some c)) :
    ∃ fs mark, v = .map fs mark ∧ c.name = field fs "name" ∧ c.extra = extraOf names fs := by
  cases v with
  | scalar s mark => cases s <;> cases h
  | list items mark => cases h
  | map fs mark =>
    rw [Container.read?, entriesOf?_map_bind] at h
    obtain ⟨env, -, h⟩ := bind_eq_ok.mp h
    obtain ⟨liveness, -, h⟩ := bind_eq_ok.mp h
    obtain ⟨ports, -, h⟩ := bind_eq_ok.mp h
    obtain ⟨readiness, -, h⟩ := bind_eq_ok.mp h
    obtain ⟨security, -, h⟩ := bind_eq_ok.mp h
    obtain ⟨mounts, -, h⟩ := bind_eq_ok.mp h
    obtain rfl := Option.some.inj (Except.ok.inj h)
    exact ⟨fs, mark, rfl, rfl, rfl⟩

theorem PodSpec.read?_eq_ok {fs : Fields} {mark : Option Mark} {p : Option PodSpec}
    (h : PodSpec.read? (.map fs mark) = .ok p) :
    ∃ containers, p = some { containers, extra := extraOf ["containers"] fs } ∧
      (if Fields.has fs "containers" then many Container.read? (Fields.get fs "containers") else .ok (some [])) =
        .ok containers := by
  rw [PodSpec.read?, entriesOf?_map_bind] at h
  dsimp only at h
  split at h
  · obtain ⟨containers, hread, h⟩ := bind_eq_ok.mp h
    exact ⟨containers, (Except.ok.inj h).symm, by rw [if_pos ‹_›, hread]⟩
  · exact ⟨some [], (Except.ok.inj h).symm, if_neg ‹_›⟩

/-- The containers that are read hold no known entry among the others. -/
theorem PodSpec.find?_extra_of_read? {fs : Fields} {mark : Option Mark} {p : PodSpec}
    (h : PodSpec.read? (.map fs mark) = .ok (some p)) {c : Container} (hc : some c ∈ p.list) {name : String}
    (hname : name ∈ Container.names) : Fields.find? c.extra name = none := by
  obtain ⟨containers, hp, hread⟩ := read?_eq_ok h
  obtain rfl := Option.some.inj hp
  split at hread
  · obtain ⟨x, hx⟩ := many_eq_ok hread hc
    obtain ⟨gs, -, -, -, hextra⟩ := Container.read?_eq_ok hx
    rw [hextra]
    exact find?_extraOf_of_mem gs hname
  · obtain rfl := Except.ok.inj hread
    simp [PodSpec.list] at hc

namespace Resource

/-! ## Other pods in their place -/

def podsPlace : List Step := [.key "spec", .key "template", .key "spec"]

def everything : List Step → Scalar → Prop :=
  fun _ _ => True

theorem keeps_everything (v w : Value) : Keeps everything v w :=
  fun _ _ _ _ _ hl => absurd trivial hl

variable {lost : List Step → Scalar → Prop} {kind spec pods w : Value} {body body' : Fields}

/-- A controller with other pods keeps what these keep of its own. -/
theorem HasPods.keeps_withPods (hkind : kind.isText "Pod" = false) (h : HasPods kind spec pods)
    (hk : Keeps lost pods w) :
    Keeps (lostBelow [.key "template", .key "spec"] lost) spec (Resource.withPods kind spec w) := by
  cases h with
  | pod h =>
    rw [h] at hkind
    cases hkind
  | @workload fs template pods mark tmark pmark h hw ht hp =>
    rw [withPods_of_workload h ht]
    refine keeps_set ?_
    rw [Fields.get_of_find? ht]
    refine keeps_map fun name => ?_
    by_cases hne : name = "spec"
    · subst hne
      rw [Fields.get_of_find? hp, get_withSpec_self]
      exact hk.mono fun path s hl => lostBelow_cons (lostBelow_cons (lostBelow_nil hl))
    · rw [get_withSpec_ne template w hne]
      exact Keeps.refl _ _

theorem putPodSpec_eq_ok (hkind : kind.isText "Pod" = false) (h : putPodSpec kind body w = .ok body') :
    ∃ spec mark template tmark, (Fields.find? body "spec").getD (.ofFields []) = .map spec mark ∧
      (Fields.find? spec "template").getD (.ofFields []) = .map template tmark ∧
      body' = Fields.set body "spec"
        (.map (Fields.set spec "template" (.map (Fields.set template "spec" w) tmark)) mark) := by
  rw [putPodSpec, if_neg (by rw [hkind]; decide)] at h
  split at h
  · rename_i spec mark hspec
    split at h
    · rename_i template tmark htemplate
      exact ⟨spec, mark, template, tmark, hspec, htemplate, (Except.ok.inj h).symm⟩
    · cases h
  · cases h

/-- What stands at the place of the pods once they are put there. -/
theorem firm?_putPodSpec (hkind : kind.isText "Pod" = false) (h : putPodSpec kind body w = .ok body')
    (path : List Step) : firm? (.ofFields body') (podsPlace ++ path) = w.firm? path := by
  obtain ⟨spec, mark, template, tmark, -, -, rfl⟩ := putPodSpec_eq_ok hkind h
  change (Fields.find? (Fields.set body "spec" _) "spec").bind _ = _
  rw [Fields.find?_set_self]
  change (Fields.find? (Fields.set spec "template" _) "template").bind _ = _
  rw [Fields.find?_set_self]
  change (Fields.find? (Fields.set template "spec" _) "spec").bind _ = _
  rw [Fields.find?_set_self]
  rfl

theorem keeps_of_getD {fs gs : Fields} {v : Value} {mark : Option Mark} {name : String}
    (h : (Fields.find? fs name).getD (.ofFields []) = .map gs mark) (hk : Keeps lost (.map gs mark) v) :
    Keeps lost (Fields.get fs name) v := by
  rw [Fields.get]
  cases hf : Fields.find? fs name with
  | none => exact keeps_null lost rfl v
  | some x =>
    rw [hf] at h
    obtain rfl : x = .map gs mark := h
    exact hk

/-- Putting pods in their place keeps everything beside them. -/
theorem keeps_putPodSpec (hkind : kind.isText "Pod" = false) (h : putPodSpec kind body w = .ok body') :
    Keeps (lostBelow podsPlace everything) (.ofFields body) (.ofFields body') := by
  obtain ⟨spec, mark, template, tmark, hspec, htemplate, rfl⟩ := putPodSpec_eq_ok hkind h
  refine keeps_set (keeps_of_getD hspec (keeps_set (keeps_of_getD htemplate (keeps_set ?_))))
  refine (keeps_everything _ w).mono fun path s hl => ?_
  exact lostBelow_cons (lostBelow_cons (lostBelow_cons (lostBelow_nil hl)))

/-! ## Bodies -/

/-- Entries that are written in the place of those beside kind, version and metadata. -/
structure Placed (lost : List Step → Scalar → Prop) (body body' : Fields) : Prop where
  keeps : Keeps lost (.ofFields body) (.ofFields body')
  named : body'.Named
  header : Headless body'

/-- Plain values under different texts, of which none is kind, version or metadata. -/
structure IsKeyedBody (body : Fields) : Prop extends IsBody body where
  texts : ∀ e ∈ body, e.1.text?.isSome
  header : Headless body

theorem isKeyedBody_bodyOf {fs : Fields} (h : fs.Keyed) : IsKeyedBody (bodyOf fs) where
  toIsBody := isBody_bodyOf h.distinct
  texts := by
    have hkeyed : Fields.Keyed (bodyOf fs) := (h.filter fun e => !headerNames.any e.1.isText).of_map_fst
      (by rw [bodyOf, Fields.plainValues, List.map_map]; rfl)
    exact hkeyed.texts
  header := headless_bodyOf _

namespace IsKeyedBody

variable (h : IsKeyedBody body)
include h

theorem keyed : body.Keyed :=
  ⟨h.texts, h.distinct⟩

theorem get_isPlain (name : String) : (Fields.get body name).IsPlain := by
  unfold Fields.get
  cases hf : Fields.find? body name with
  | none => exact .scalar _ _
  | some v => exact h.of_find? hf

theorem placed_plain : Placed nothing body (Fields.plain body) where
  keeps := keeps_plain nothing (.map h.keyed fun e he => (h.values e he).textual)
  named := (Fields.plain_isPlain body).toNamed
  header name hname := by rw [h.keyed.find?_plain, h.header name hname]; rfl

/-- The entries without pods of their own, and other pods in their place. -/
theorem placed_of_taken (hspec : Fields.find? body "spec" = some spec) (hpods : HasPods kind spec pods) :
    ∃ rest, takePodSpec kind body = (some pods, rest) ∧
      ∀ w lost, Keeps (fun path s => lost (.key "spec" :: path) s) spec (withPods kind spec w) →
        ∃ body', putPodSpec kind (Fields.plain rest) w = .ok body' ∧ Placed lost body body' := by
  obtain ⟨rest, htake, hleft, hput⟩ := take_put h.toIsBody hspec hpods
  have hrest : rest.Keyed := by
    refine ⟨fun e he => ?_, hleft.distinct⟩
    obtain ⟨e', he', heq⟩ := hleft.keys e he
    exact heq ▸ h.texts e' he'
  refine ⟨rest, htake, fun w lost hk => ⟨_, hput w, ?_, ?_, fun name hname => ?_⟩⟩
  · refine keeps_map fun name => ?_
    by_cases hne : name = "spec"
    · subst hne
      rw [Fields.get_of_find? hspec, Fields.get_set_self]
      exact hk
    · have hrestname : Fields.get rest name = Fields.get body name := by rw [Fields.get, Fields.get, hleft.find? name hne]
      rw [Fields.get_set_ne _ _ (Ne.symm hne), hrest.get_plain, hrestname, (h.get_isPlain name).plain_eq]
      exact Keeps.refl _ _
  · exact (Fields.plain_isPlain rest).toNamed.set _ _
  · have hne : name ≠ "spec" := by
      rintro rfl
      exact absurd hname (by decide)
    rw [Fields.find?_set_ne _ _ hne.symm, hrest.find?_plain, hleft.find? name hne, h.header name hname]
    rfl

/-- Pods in a controller that has none of its own. -/
theorem placed_of_putPodSpec (hkind : kind.isText "Pod" = false)
    (hput : putPodSpec kind (Fields.plain body) w = .ok body') :
    Placed (lostBelow podsPlace everything) body body' := by
  have hplain := h.placed_plain
  refine ⟨(hplain.keeps.trans (keeps_putPodSpec hkind hput)).mono fun path s hl => hl.elim False.elim id, ?_, ?_⟩
  · obtain ⟨spec, mark, template, tmark, -, -, rfl⟩ := putPodSpec_eq_ok hkind hput
    exact hplain.named.set _ _
  · obtain ⟨spec, mark, template, tmark, -, -, rfl⟩ := putPodSpec_eq_ok hkind hput
    intro name hname
    have hne : name ≠ "spec" := by
      rintro rfl
      exact absurd hname (by decide)
    rw [Fields.find?_set_ne _ _ hne.symm, hplain.header name hname]

end IsKeyedBody

/-! ## Typed entries -/

def ListOrNull (v : Option Value) : Prop :=
  ∀ x, v = some x → x.isNull = true ∨ ∃ items mark, x = .list items mark

def MapOrNull (v : Option Value) : Prop :=
  ∀ x, v = some x → x.isNull = true ∨ ∃ fs mark, x = .map fs mark

/-- A specification of pods whose containers, and their variables, ports and mounts, are lists or null. -/
structure TypedLists (pods : Option Value) : Prop where
  containers : ListOrNull (pods.bind (·.at? [.key "containers"]))
  parts : ∀ i, ∀ name ∈ ["env", "ports", "volumeMounts"],
    ListOrNull (pods.bind (·.at? [.key "containers", .item i, .key name]))

/-- Metadata whose labels and annotations are mappings or null. -/
structure TypedMaps (metadata : Option Value) : Prop where
  labels : MapOrNull (metadata.bind (·.at? [.key "labels"]))
  annotations : MapOrNull (metadata.bind (·.at? [.key "annotations"]))

theorem at?_singleton {fs : Fields} {mark : Option Mark} {name : String} {v : Value} (h : Fields.get fs name = v)
    (hv : v.isNull = false) (path : List Step) : at? (.map fs mark) (.key name :: path) = v.at? path := by
  rw [at?_of_find? (Fields.find?_of_get h hv)]

theorem ListOrNull.get {fs : Fields} {mark : Option Mark} {name : String}
    (h : ListOrNull (at? (.map fs mark) [.key name])) :
    (Fields.get fs name).isNull = true ∨ ∃ items mark, Fields.get fs name = .list items mark := by
  cases hn : (Fields.get fs name).isNull with
  | true => exact .inl rfl
  | false => exact (h _ ((at?_singleton rfl hn []).trans (by cases Fields.get fs name <;> rfl))).imp_left fun h => hn ▸ h

theorem MapOrNull.get {fs : Fields} {mark : Option Mark} {name : String}
    (h : MapOrNull (at? (.map fs mark) [.key name])) :
    (Fields.get fs name).isNull = true ∨ ∃ gs mark, Fields.get fs name = .map gs mark := by
  cases hn : (Fields.get fs name).isNull with
  | true => exact .inl rfl
  | false => exact (h _ ((at?_singleton rfl hn []).trans (by cases Fields.get fs name <;> rfl))).imp_left fun h => hn ▸ h

theorem ListOrNull.plain {v : Option Value} (h : ListOrNull v) : ListOrNull (v.map Value.plain) := by
  intro y hy
  obtain ⟨x, hx, rfl⟩ := Option.map_eq_some_iff.mp hy
  rcases h x hx with hn | ⟨items, mark, rfl⟩
  · obtain ⟨m, rfl⟩ := isNull_iff.mp hn
    exact .inl rfl
  · exact .inr ⟨_, _, rfl⟩

theorem TypedMaps.fits {ms : Fields} {mark : Option Mark} (h : TypedMaps (some (.map ms mark))) :
    ObjectMeta.layout.Fits ms := by
  simp only [ObjectMeta.layout, Layout.ofList, Layout.Fits, Shape.Fits, and_true, true_and]
  have hlabels : MapOrNull (at? (.map ms mark) [.key "labels"]) := h.labels
  have hannotations : MapOrNull (at? (.map ms mark) [.key "annotations"]) := h.annotations
  exact ⟨hannotations.get, hlabels.get⟩

theorem container_fits {fs : Fields} {mark : Option Mark}
    (h : ∀ name ∈ ["env", "ports", "volumeMounts"], ListOrNull (at? (.map fs mark) [.key name])) :
    Container.layout.Fits fs := by
  have hlist : ∀ name ∈ ["env", "ports", "volumeMounts"],
      (Fields.get fs name).isNull = true ∨ ∃ items mark, Fields.get fs name = .list items mark :=
    fun name hname => (h name hname).get
  have hmodels : ∀ (layout : Layout) (name : String), (∀ gs, layout.Fits gs) → name ∈ ["env", "ports", "volumeMounts"] →
      (Shape.models layout).Fits (Fields.get fs name) := by
    intro layout name hlayout hname
    rw [Shape.Fits]
    exact (hlist name hname).imp_right fun ⟨items, mark, heq⟩ => ⟨items, mark, heq, fun _ _ gs _ => hlayout gs⟩
  simp only [Container.layout, Layout.ofList, Layout.Fits, Shape.Fits.eq_1, Shape.Fits.eq_3, true_and, and_true]
  refine ⟨hmodels _ _ ?_ (by simp), ?_, hmodels _ _ ?_ (by simp), ?_, ?_, hmodels _ _ ?_ (by simp)⟩ <;> intro gs <;>
    simp [EnvVar.layout, Probe.layout, Exec.layout, HttpGet.layout, TcpSocket.layout, ContainerPort.layout,
      SecurityContext.layout, VolumeMount.layout, Layout.ofList, Layout.Fits, Shape.Fits]

theorem TypedLists.fits {fs : Fields} {mark : Option Mark} (h : TypedLists (some (.map fs mark))) :
    PodSpec.layout.Fits fs := by
  simp only [PodSpec.layout, Layout.ofList, Layout.Fits, and_true]
  rw [Shape.Fits]
  have hcontainers : ListOrNull (at? (.map fs mark) [.key "containers"]) := h.containers
  rcases hcontainers.get with hnull | ⟨items, mark', heq⟩
  · exact .inl hnull
  refine .inr ⟨items, mark', heq, fun x hx gs hgs => ?_⟩
  obtain ⟨i, hi⟩ := List.mem_iff_getElem?.mp hx
  have hpart : ∀ name, at? (.map fs mark) [.key "containers", .item i, .key name] = x.at? [.key name] := by
    intro name
    rw [at?_singleton heq rfl, at?_of_getElem? hi]
  cases x with
  | map gs' m =>
    obtain rfl : gs' = gs := Option.some.inj hgs
    have hparts : ∀ name ∈ ["env", "ports", "volumeMounts"], ListOrNull (at? (.map gs' m) [.key name]) :=
      fun name hname => hpart name ▸ h.parts i name hname
    exact container_fits hparts
  | _ => cases hgs

/-! ## Reading and writing -/

/-- A resource that was read from entries. -/
structure ReadFrom (fs : Fields) (r : Resource) : Prop where
  kind : r.kind = Fields.get fs "kind"
  apiVersion : r.apiVersion = Fields.get fs "apiVersion"
  metadata : (metadataOf fs).withFields ObjectMeta.layout.write = some r.metadata.toValue
  pods : takePodSpec (Fields.get fs "kind") (bodyOf fs) = (none, r.body) ∧ r.podSpec = none ∨
    ∃ pods, takePodSpec (Fields.get fs "kind") (bodyOf fs) = (some pods, r.body) ∧ PodSpec.read? pods = .ok r.podSpec

theorem readFrom_of_ofFields {fs : Fields} {r : Resource} (h : ofFields fs = .ok r) : ReadFrom fs r := by
  rw [ofFields] at h
  obtain ⟨metadata, hmeta, h⟩ := bind_eq_ok.mp h
  have hwrite := read_metadataOf fs
  rw [metadataOf, hmeta] at hwrite
  rw [show Fields.plainValues (Fields.except fs headerNames) = bodyOf fs from rfl] at h
  rcases htake : takePodSpec (Fields.get fs "kind") (bodyOf fs) with ⟨pods, rest⟩
  rw [htake] at h
  cases pods with
  | none =>
    obtain rfl := Except.ok.inj h
    exact ⟨rfl, rfl, hwrite.symm, .inl ⟨htake, rfl⟩⟩
  | some pods =>
    obtain ⟨p, hread, h⟩ := bind_eq_ok.mp h
    obtain rfl := Except.ok.inj h
    exact ⟨rfl, rfl, hwrite.symm, .inr ⟨pods, htake, hread⟩⟩

theorem ReadFrom.headless {fs : Fields} {r : Resource} (h : ReadFrom fs r) : Headless r.body := by
  have htaken := (headless_bodyOf fs).take (Fields.get fs "kind")
  rcases h.pods with ⟨htake, -⟩ | ⟨pods, htake, -⟩ <;> rwa [htake] at htaken

theorem toFields?_eq_ok {r : Resource} {written : Fields} (h : r.toFields? = .ok written) :
    ∃ body, written = withHeader r.apiVersion r.kind r.metadata.toValue body ∧
      (r.podSpec = none ∧ body = Fields.plain r.body ∨
        ∃ p w, r.podSpec = some p ∧ p.toValue? = .ok w ∧ putPodSpec r.kind (Fields.plain r.body) w = .ok body) := by
  rw [toFields?] at h
  cases hp : r.podSpec with
  | none =>
    rw [hp] at h
    exact ⟨_, (Except.ok.inj h).symm, .inl ⟨rfl, rfl⟩⟩
  | some p =>
    rw [hp] at h
    obtain ⟨w, hw, h⟩ := bind_eq_ok.mp h
    obtain ⟨body, hput, h⟩ := bind_eq_ok.mp h
    exact ⟨body, (Except.ok.inj h).symm, .inr ⟨p, w, rfl, hw, hput⟩⟩

/-- What is written for a resource whose other entries hold none that opens a manifest. -/
theorem Headless.toFields? {r : Resource} {written : Fields} (hno : Headless r.body) (h : r.toFields? = .ok written) :
    ∃ body, Headless body ∧ written = manifest r.apiVersion r.kind r.metadata.toValue body ∧
      (r.podSpec = none ∧ body = Fields.plain r.body ∨
        ∃ p w, r.podSpec = some p ∧ p.toValue? = .ok w ∧ putPodSpec r.kind (Fields.plain r.body) w = .ok body) := by
  obtain ⟨body, rfl, hbody⟩ := toFields?_eq_ok h
  have hbody' : Headless body := by
    rcases hbody with ⟨-, rfl⟩ | ⟨p, w, -, -, hput⟩
    · exact hno.plain
    · exact hno.plain.put hput
  exact ⟨body, hbody', hbody'.withHeader _ _ _, hbody⟩

theorem merge_eq_ok {r r' : Resource} {other : PodSpec} {fallback : Value}
    (h : (r.merge other fallback).finished = .ok r') :
    ∃ p, ((r.podSpec.getD {}).merge other fallback).finished = .ok p ∧ r' = { r with podSpec := some p } := by
  rw [Resource.merge] at h
  rcases hm : (r.podSpec.getD {}).merge other fallback with ⟨p, misfit⟩
  rw [hm] at h
  cases misfit with
  | some misfit => cases h
  | none => exact ⟨p, rfl, (Except.ok.inj h).symm⟩

/-- Pods that are read and written again keep every scalar. -/
theorem keeps_pods {pods : Fields} {mark : Option Mark} {p : PodSpec} {w : Value} (ht : Textual (.map pods mark))
    (hl : TypedLists (some (.map pods mark))) (hread : PodSpec.read? (.map pods mark) = .ok (some p))
    (hw : p.toValue? = .ok w) : Keeps nothing (.map pods mark) w := by
  have hwrite := PodSpec.writes.map pods mark
  rw [hread, ok_bind, writeOne, hw, toOption_ok] at hwrite
  have hfits : (Shape.model PodSpec.layout).Fits (.map pods mark) := by
    rw [Shape.Fits]
    intro fs hfs
    obtain rfl : pods = fs := Option.some.inj hfs
    exact hl.fits
  exact Layout.keeps_write (by decide) ht hfits (by rw [withFields]; exact hwrite.symm)

/-! ## Resources without a merge -/

theorem isText_pod_of_workload {kind : Value} (h : (Workload.ofKind? kind).isSome = true) :
    kind.isText "Pod" = false := by
  obtain ⟨w, hw⟩ := Option.isSome_iff_exists.mp h
  have htext := List.find?_some hw
  cases hpod : kind.isText "Pod" with
  | false => rfl
  | true =>
    rw [isText_iff] at htext hpod
    have hname : w.name = "Pod" := Option.some.inj (htext.symm.trans hpod)
    cases w <;> exact absurd hname (by decide)

theorem body_of_not_taken {e : Fields} {r : Resource} {kind : Value}
    (h : takePodSpec kind (bodyOf e) = (none, r.body)) :
    r.body = bodyOf e := by
  have hfst := takePodSpec_fst kind (bodyOf e)
  rw [h] at hfst
  rw [takePodSpec_of_none hfst.symm] at h
  exact (Prod.mk.inj h).2.symm

theorem hasPods_of_taken {body rest : Fields} {kind pods : Value} (h : takePodSpec kind body = (some pods, rest)) :
    ∃ spec, Fields.find? body "spec" = some spec ∧ HasPods kind spec pods := by
  have hfst := takePodSpec_fst kind body
  rw [h] at hfst
  obtain ⟨spec, hspec, hpods⟩ := Option.bind_eq_some_iff.mp hfst.symm
  exact ⟨spec, hspec, pods?_eq_some.mp hpods⟩

variable {e written : Fields} {r r' : Resource}

/-- A resource that is read and written keeps all its other entries. -/
theorem placed_of_read (he : e.Keyed) (hr : ReadFrom e r)
    (hno : (Workload.ofKind? (Fields.get e "kind")).isSome = false)
    (hlists : (Fields.get e "kind").isText "Pod" = true → TypedLists (Fields.find? (bodyOf e) "spec"))
    (hw : r.toFields? = .ok written) :
    ∃ body, written = manifest r.apiVersion r.kind r.metadata.toValue body ∧ Placed nothing (bodyOf e) body := by
  have hbody := isKeyedBody_bodyOf he
  obtain ⟨body, -, hwritten, hbodyeq⟩ := hr.headless.toFields? hw
  refine ⟨body, hwritten, ?_⟩
  rcases hr.pods with ⟨htake, hnone⟩ | ⟨pods, htake, hread⟩
  · rcases hbodyeq with ⟨-, rfl⟩ | ⟨p, w, hp, -, -⟩
    · rw [body_of_not_taken htake]
      exact hbody.placed_plain
    · rw [hnone] at hp
      cases hp
  · obtain ⟨spec, hspec, hpods⟩ := hasPods_of_taken htake
    obtain ⟨rest, htake', hput⟩ := hbody.placed_of_taken hspec hpods
    obtain ⟨-, rfl⟩ := Prod.mk.inj (htake.symm.trans htake')
    cases hpods with
    | workload _ hyes _ _ =>
      rw [← Option.not_isSome, hno] at hyes
      cases hyes
    | @pod fs mark hpod =>
      obtain ⟨containers, hp, -⟩ := PodSpec.read?_eq_ok hread
      rcases hbodyeq with ⟨hnone, -⟩ | ⟨p, w, hp', hpw, hputw⟩
      · rw [hnone] at hp
        cases hp
      · rw [hp'] at hread
        have hlists := hlists hpod
        rw [hspec] at hlists
        have hplain := hbody.of_find? hspec
        have hkeeps := keeps_pods hplain.textual hlists hread hpw
        obtain ⟨body', hput', hplaced⟩ := hput w nothing (by rw [withPods_of_pod hpod]; exact hkeeps)
        rw [hr.kind] at hputw
        obtain rfl : body' = body := Except.ok.inj (hput'.symm.trans hputw)
        exact hplaced

/-! ## Merged controllers -/

/-- What counts as lost of a controller: everything at the place of pods that are no mapping, and the name of the
first container where it counts as nameless and no default container is there. -/
def lostInController (d : PodSpec) (body : Fields) : List Step → Scalar → Prop :=
  lostBelow podsPlace fun path s =>
    (∀ pods mark, at? (.ofFields body) podsPlace ≠ some (.map pods mark)) ∨ d.lostInMerge path s

theorem HasPods.at?_podsPlace {body pods : Fields} {kind spec : Value} {mark : Option Mark}
    (hkind : kind.isText "Pod" = false) (hspec : Fields.find? body "spec" = some spec)
    (h : HasPods kind spec (.map pods mark)) : at? (.ofFields body) podsPlace = some (.map pods mark) := by
  cases h with
  | pod h =>
    rw [h] at hkind
    cases hkind
  | workload h hw ht hp =>
    rw [podsPlace, at?_of_find? hspec, at?_of_find? ht, at?_of_find? hp, at?_nil]

theorem hasPods_of_at? {body pods : Fields} {kind : Value} {mark : Option Mark}
    (hyes : (Workload.ofKind? kind).isSome = true) (h : at? (.ofFields body) podsPlace = some (.map pods mark)) :
    ∃ spec, Fields.find? body "spec" = some spec ∧ HasPods kind spec (.map pods mark) := by
  obtain ⟨spec, hspec, h⟩ := Option.bind_eq_some_iff.mp h
  obtain ⟨fs, m, template, rfl, htemplate, h⟩ := exists_map_of_at?_key h
  obtain ⟨gs, m', x, rfl, hx, h⟩ := exists_map_of_at?_key h
  obtain rfl : x = .map pods mark := by
    cases x <;> exact Option.some.inj h
  have hnone : (Workload.ofKind? kind).isNone = false := by
    rw [← Option.not_isSome, hyes]
    rfl
  exact ⟨_, hspec, .workload (isText_pod_of_workload hyes) hnone htemplate hx⟩

/-- The pods that are read for a controller that has some. -/
theorem ReadFrom.read?_of_at? (hr : ReadFrom e r) (he : e.Keyed) {pods : Fields} {mark : Option Mark}
    (hyes : (Workload.ofKind? (Fields.get e "kind")).isSome = true)
    (hat : at? (.ofFields (bodyOf e)) podsPlace = some (.map pods mark)) :
    ∃ p, r.podSpec = some p ∧ PodSpec.read? (.map pods mark) = .ok (some p) := by
  obtain ⟨spec, hspec, hpods⟩ := hasPods_of_at? hyes hat
  obtain ⟨rest, htake, -⟩ := (isKeyedBody_bodyOf he).placed_of_taken hspec hpods
  rcases hr.pods with ⟨htake', -⟩ | ⟨pods', htake', hread⟩
  · rw [htake] at htake'
    cases htake'
  · rw [htake] at htake'
    obtain ⟨hpods', -⟩ := Prod.mk.inj htake'
    obtain rfl := Option.some.inj hpods'
    obtain ⟨containers, hp, -⟩ := PodSpec.read?_eq_ok hread
    exact ⟨_, hp, hp ▸ hread⟩

/-- A controller that is read, merged with default pods and written keeps all its other entries, but for what counts
as lost. Its pods are the merged ones. -/
theorem placed_of_merge {d : PodSpec} {fallback : Value} (he : e.Keyed) (hr : ReadFrom e r)
    (hyes : (Workload.ofKind? (Fields.get e "kind")).isSome = true)
    (hlists : TypedLists (at? (.ofFields (bodyOf e)) podsPlace))
    (hmerge : (r.merge d fallback).finished = .ok r') (hw : r'.toFields? = .ok written) :
    ∃ body p w, written = manifest r.apiVersion r.kind r.metadata.toValue body ∧
      Placed (lostInController d (bodyOf e)) (bodyOf e) body ∧
      ((r.podSpec.getD {}).merge d fallback).finished = .ok p ∧ p.toValue? = .ok w ∧
      ∀ path, firm? (.ofFields body) (podsPlace ++ path) = w.firm? path := by
  have hbody := isKeyedBody_bodyOf he
  have hkind := isText_pod_of_workload hyes
  obtain ⟨p, hp, rfl⟩ := merge_eq_ok hmerge
  obtain ⟨body, -, hwritten, hbodyeq⟩ := Headless.toFields? (r := { r with podSpec := some p }) hr.headless hw
  obtain ⟨p', w, hp', hpw, hput⟩ : ∃ p' w, some p = some p' ∧ p'.toValue? = .ok w ∧
      putPodSpec r.kind (Fields.plain r.body) w = .ok body := by
    rcases hbodyeq with ⟨hnone, -⟩ | h
    · cases hnone
    · exact h
  obtain rfl := Option.some.inj hp'
  rw [hr.kind] at hput
  refine ⟨body, p, w, hwritten, ?_, hp, hpw, firm?_putPodSpec hkind hput⟩
  rcases hr.pods with ⟨htake, -⟩ | ⟨pods, htake, hread⟩
  · rw [body_of_not_taken htake] at hput htake
    have hno : ∀ pods mark, at? (.ofFields (bodyOf e)) podsPlace ≠ some (.map pods mark) := by
      intro pods mark hat
      obtain ⟨spec, hspec, hpods⟩ := hasPods_of_at? hyes hat
      obtain ⟨rest, htake', -⟩ := hbody.placed_of_taken hspec hpods
      rw [htake] at htake'
      cases htake'
    have hplaced := hbody.placed_of_putPodSpec hkind hput
    exact { hplaced with keeps := hplaced.keeps.mono fun path s ⟨rest, hpath, _⟩ => ⟨rest, hpath, .inl hno⟩ }
  · obtain ⟨spec, hspec, hpods⟩ := hasPods_of_taken htake
    obtain ⟨fs, mark, rfl⟩ := hpods.isMap
    obtain ⟨rest, htake', hput'⟩ := hbody.placed_of_taken hspec hpods
    obtain ⟨-, rfl⟩ := Prod.mk.inj (htake.symm.trans htake')
    have hplain := hpods.isPlain (hbody.of_find? hspec)
    rw [hpods.at?_podsPlace hkind hspec] at hlists
    obtain ⟨containers, hpod, -⟩ := PodSpec.read?_eq_ok hread
    rw [hpod] at hread hp
    obtain ⟨v, hv, hkeeps⟩ := PodSpec.keeps_merge hp (find?_extraOf_of_mem fs (by decide))
      (fun c hc name hname => PodSpec.find?_extra_of_read? hread hc hname) hpw
    have hmerged : Keeps d.lostInMerge (.map fs mark) w :=
      ((keeps_pods hplain.textual hlists hread hv).trans hkeeps).mono fun path s hl => hl.elim False.elim id
    obtain ⟨body', hbody', hplaced⟩ := hput' w (lostInController d (bodyOf e))
      ((hpods.keeps_withPods hkind hmerged).mono fun path s ⟨rest, hpath, hl⟩ => ⟨rest, by rw [hpath]; rfl, .inr hl⟩)
    obtain rfl : body' = body := Except.ok.inj (hbody'.symm.trans hput)
    exact hplaced

/-! ## Manifests -/

/-- Metadata that are read and written keep every scalar. -/
theorem ReadFrom.keeps_metadata (hr : ReadFrom e r) {ms : Fields} {mark : Option Mark}
    (hms : Fields.get e "metadata" = .map ms mark) (ht : Textual (.map ms mark))
    (hmaps : TypedMaps (some (.map ms mark))) : Keeps nothing (Fields.get e "metadata") r.metadata.toValue := by
  have hwrite := hr.metadata
  rw [metadataOf, hms, Value.orElse] at hwrite
  rw [hms]
  split at hwrite
  · have hfits : (Shape.model ObjectMeta.layout).Fits (.map ms mark) := by
      rw [Shape.Fits]
      intro fs hfs
      obtain rfl : ms = fs := Option.some.inj hfs
      exact hmaps.fits
    exact Layout.keeps_write (by decide) ht hfits hwrite
  · rename_i hempty
    cases ms with
    | nil => exact keeps_of_not_isWritten nothing rfl _
    | cons x xs => exact absurd rfl hempty

/-- A manifest keeps what its parts keep of the entries that it was made from. -/
theorem Placed.keeps_manifest {lost : List Step → Scalar → Prop} {metadata : Value} {body : Fields}
    (h : Placed lost (bodyOf e) body) (ht : ∀ name, name ∉ headerNames → (Fields.get e name).Textual)
    (hm : Keeps nothing (Fields.get e "metadata") metadata) :
    Keeps lost (.ofFields e)
      (.ofFields (manifest (Fields.get e "apiVersion") (Fields.get e "kind") metadata body)) := by
  refine keeps_map fun name => ?_
  by_cases hname : name ∈ headerNames
  · simp only [headerNames, List.mem_cons, List.not_mem_nil, or_false] at hname
    rcases hname with rfl | rfl | rfl
    · exact Keeps.refl _ _
    · exact Keeps.refl _ _
    · exact hm.mono fun _ _ hl => hl.elim
  · have hbody : Fields.get (bodyOf e) name = (Fields.get e name).plain :=
      Fields.get_of_find?_map (find?_bodyOf hname)
    have hwritten : Fields.get (manifest (Fields.get e "apiVersion") (Fields.get e "kind") metadata body) name =
        Fields.get body name := congrArg (fun v => v.getD Value.null) (find?_manifest hname)
    have hk := h.keeps.get name
    rw [hbody] at hk
    rw [hwritten]
    exact ((keeps_plain nothing (ht name hname)).trans hk).mono fun path s hl => hl.elim False.elim id

end Resource

/-! ## The first container -/

def PodSpec.firstName : List Step := [.key "containers", .item 0, .key "name"]

/-- The first container that is read. -/
theorem PodSpec.exists_first {pods : Fields} {mark m : Option Mark} {p : PodSpec} {s : Scalar}
    (hread : PodSpec.read? (.map pods mark) = .ok (some p))
    (hs : at? (.map pods mark) firstName = some (.scalar s m)) :
    ∃ c rest, p.containers = some (some c :: rest) ∧ c.name = .scalar s m ∧ c.extra.find? "name" = none := by
  obtain ⟨_, _, x, hmap, hx, hs⟩ := exists_map_of_at?_key hs
  obtain ⟨rfl, -⟩ := Value.map.inj hmap
  cases x with
  | scalar _ _ => cases hs
  | map _ _ => cases hs
  | list items mark' =>
    obtain ⟨y, hy, hs⟩ := Option.bind_eq_some_iff.mp hs
    obtain ⟨fs, mark'', z, rfl, hz, hs⟩ := exists_map_of_at?_key hs
    obtain rfl : z = .scalar s m := by cases z <;> exact Option.some.inj hs
    obtain ⟨containers, hp, hmany⟩ := read?_eq_ok hread
    obtain rfl := Option.some.inj hp
    rw [Fields.has, hx, Fields.get, hx] at hmany
    obtain ⟨models, rfl, hmodels⟩ := many_list hmany
    obtain ⟨first, hfirst, hreadfirst⟩ := mapM_ok_getElem? hmodels hy
    cases first with
    | none => exact absurd hreadfirst (Container.writes.given fs mark'')
    | some c =>
      obtain ⟨gs, _, hgs, hname, hextra⟩ := Container.read?_eq_ok hreadfirst
      obtain ⟨rfl, -⟩ := Value.map.inj hgs
      obtain ⟨rest, rfl⟩ : ∃ rest, models = some c :: rest := by
        cases models with
        | nil => cases hfirst
        | cons m' rest =>
          obtain rfl : m' = some c := Option.some.inj hfirst
          exact ⟨rest, rfl⟩
      refine ⟨c, rest, rfl, ?_, by rw [hextra]; exact find?_extraOf_of_mem fs (by decide)⟩
      rw [hname, field, Fields.get, hz]
      rfl

/-- The first container that is written. -/
theorem PodSpec.firm?_firstName {p : PodSpec} {c : Container} {rest : List (Option Container)} {w : Value}
    (hp : p.containers = some (some c :: rest)) (hno : c.extra.find? "name" = none)
    (hname : isWritten c.name = true)
    (hw : p.toValue? = .ok w) : w.firm? firstName = some c.name := by
  obtain ⟨containers, hcs, rfl⟩ := toValue?_eq_ok hw
  rw [hp, writeAll, List.mapM_cons] at hcs
  obtain ⟨ws, hws, hcs⟩ := bind_eq_ok.mp hcs
  obtain ⟨v, hv, hws⟩ := bind_eq_ok.mp hws
  obtain ⟨vs, -, hws⟩ := bind_eq_ok.mp hws
  obtain rfl : v :: vs = ws := Except.ok.inj hws
  obtain rfl : .ofList (v :: vs) = containers := Except.ok.inj hcs
  obtain ⟨env, ports, mounts, -, -, -, rfl⟩ := Container.toValue?_eq_ok hv
  change (Fields.find? (compact (c.pairs env ports mounts) ++ c.extra) "name").bind (fun v => v.firm? []) = _
  have hkeys : (c.pairs env ports mounts).map Prod.fst = Container.names := rfl
  rw [Fields.find?_append, find?_compact (hkeys ▸ (by decide)), hno, Option.or_none]
  change (Option.filter isWritten (some c.name)).bind _ = _
  rw [Option.filter, if_pos hname]
  cases c.name <;> rfl

/-- A first container that counts as nameless has the name of the application after merging. -/
theorem PodSpec.firm?_of_merge {pods : Fields} {mark m : Option Mark} {p p' d : PodSpec} {s : Scalar}
    {fallback w : Value} (hread : PodSpec.read? (.map pods mark) = .ok (some p))
    (hs : at? (.map pods mark) firstName = some (.scalar s m)) (hless : CountsAsNameless s) (hd : d.list = [])
    (hmerge : (p.merge d fallback).finished = .ok p') (hf : isWritten fallback = true) (hw : p'.toValue? = .ok w) :
    w.firm? firstName = some fallback := by
  obtain ⟨c, rest, hp, hname, hextra⟩ := exists_first hread hs
  have hlist : p.list = some c :: rest := by rw [list, hp]; rfl
  obtain ⟨-, ⟨-, hfirst⟩ | ⟨hne, -⟩⟩ := list_of_merge hmerge
  · rw [hlist, nameFirst, hname, lacksName_scalar, hless] at hfirst
    have hlist' : p'.list = some { c with name := fallback } :: rest := (congrArg Merged.result hfirst).symm
    have hp' : p'.containers = some (some { c with name := fallback } :: rest) := by
      rw [list] at hlist'
      cases hcs : p'.containers with
      | none =>
        rw [hcs] at hlist'
        cases hlist'
      | some cs =>
        rw [hcs] at hlist'
        exact congrArg some hlist'
    exact firm?_firstName hp' hextra hf hw
  · exact absurd hd hne

end KubeManifest
