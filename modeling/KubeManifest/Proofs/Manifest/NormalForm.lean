import KubeManifest.Manifest.Tree
import KubeManifest.Proofs.Resource.Rewrite

/-!
# The normal form of manifests

* `Manifest.Settled` : a manifest in which no known entry is an empty mapping, at any depth;
* `Resource.rewrite_arrange` : a resource that was written and arranged can be read again, and comes out the same
  exactly if it is settled;
* `Exportable.tree_tree_eq_iff` : so it is with everything that is exported as a resource.
-/

namespace KubeManifest

namespace Resource

/-- Whether metadata and pods among some entries are settled. -/
def Settled (fs : Fields) : Prop :=
  (Shape.model ObjectMeta.layout).Settled (Fields.get fs "metadata") ∧ PodsSettled (Fields.get fs "kind") fs

/-! ## Arranged manifests -/

variable {fs : Fields} {apiVersion kind metadata : Value} {body : Fields}

/-- The other entries of an arranged manifest. -/
theorem bodyOf_arrange (hb : body.IsPlain) (hno : ∀ name ∈ headerNames, Fields.find? body name = none) :
    bodyOf (Manifest.arrange (manifest apiVersion kind metadata body)) = Manifest.order (Value.pruneEntries body) := by
  have hexcept : Fields.except (Manifest.arrange (manifest apiVersion kind metadata body)) headerNames =
      Manifest.order (Value.pruneEntries body) := by
    have hself : Fields.except (manifest apiVersion kind metadata body) headerNames = body := except_manifest hno
    rw [Fields.except, Manifest.arrange, Manifest.filter_order]
    congr 1
    refine (Value.pruneEntries_filter _ fun k => !headerNames.any k.isText).symm.trans ?_
    exact congrArg Value.pruneEntries hself
  rw [bodyOf, hexcept]
  exact (hb.prune.perm (Manifest.order_perm _)).plainValues_eq

/-! ## What an entry shows -/

/-- What an entry shows of its value after pruning. -/
def shownEntry (v : Value) : Option Value :=
  (some v.prune).filter fun v => !v.isNull

theorem shownEntry_eq_none {v : Value} (h : v.prune.isNull = true) : shownEntry v = none := by
  simp [shownEntry, Option.filter, h]

theorem shownEntry_eq_some {v : Value} (h : v.prune.isNull = false) : shownEntry v = some v.prune := by
  simp [shownEntry, Option.filter, h]

/-- What is found of an entry shows the same again. -/
theorem shownEntry_getD (v : Value) : shownEntry ((shownEntry v).getD .null) = shownEntry v := by
  cases hn : v.prune.isNull with
  | true =>
    rw [shownEntry_eq_none hn]
    rfl
  | false =>
    have hn' : v.prune.prune.isNull = false := by rw [Value.prune_prune, hn]
    rw [shownEntry_eq_some hn, Option.getD_some, shownEntry_eq_some hn', Value.prune_prune]

theorem text?_shownEntry (v : Value) : ((shownEntry v).getD .null).text? = v.text? := by
  cases hn : v.prune.isNull with
  | false => rw [shownEntry_eq_some hn, Option.getD_some, Value.text?_prune]
  | true =>
    obtain ⟨mark, heq⟩ := Value.isNull_iff.mp hn
    rw [shownEntry_eq_none hn, ← Value.text?_prune v, heq]
    rfl

theorem find?_pruneEntries_some {name : String} {v : Value} (h : fs.Named) (hv : Fields.find? fs name = some v) :
    Fields.find? (Value.pruneEntries fs) name = shownEntry v := by
  rw [Fields.find?_pruneEntries h.distinct, hv]
  rfl

theorem get_arrange {name : String} {v : Value} (h : fs.Named) (hv : Fields.find? fs name = some v) :
    Fields.get (Manifest.arrange fs) name = (shownEntry v).getD .null := by
  rw [Fields.get, Manifest.arrange, Manifest.find?_order h.prune.distinct, find?_pruneEntries_some h hv]

theorem find?_pruneEntries_manifest (h : (manifest apiVersion kind metadata body).Named) (hb : body.Named)
    {name : String} (hname : name ∉ headerNames) :
    Fields.find? (Value.pruneEntries (manifest apiVersion kind metadata body)) name =
      Fields.find? (Value.pruneEntries body) name := by
  rw [Fields.find?_pruneEntries h.distinct, Fields.find?_pruneEntries hb.distinct, find?_manifest hname]

/-- Manifests whose other entries show the same are equal exactly if their metadata and specifications show the
same. -/
theorem arrange_manifest_eq_iff {apiVersion' kind' metadata' : Value} {body' : Fields}
    (h : (manifest apiVersion kind metadata body).Named) (h' : (manifest apiVersion' kind' metadata' body').Named)
    (hb : body.Named) (hb' : body'.Named) (hversion : shownEntry apiVersion' = shownEntry apiVersion)
    (hkind : shownEntry kind' = shownEntry kind)
    (hothers : Manifest.others Manifest.leadingNames (Value.pruneEntries body') =
      Manifest.others Manifest.leadingNames (Value.pruneEntries body))
    (hfind : ∀ name, name ≠ "spec" →
      Fields.find? (Value.pruneEntries body') name = Fields.find? (Value.pruneEntries body) name) :
    Manifest.arrange (manifest apiVersion' kind' metadata' body') =
        Manifest.arrange (manifest apiVersion kind metadata body) ↔
      shownEntry metadata' = shownEntry metadata ∧
        Fields.find? (Value.pruneEntries body') "spec" = Fields.find? (Value.pruneEntries body) "spec" := by
  have hrest : Manifest.others Manifest.leadingNames (Value.pruneEntries (manifest apiVersion' kind' metadata' body')) =
      Manifest.others Manifest.leadingNames (Value.pruneEntries (manifest apiVersion kind metadata body)) := by
    rw [Fields.others_pruneEntries, Fields.others_pruneEntries] at hothers ⊢
    exact hothers
  have hheader : ∀ name v v', Fields.find? (manifest apiVersion kind metadata body) name = some v →
      Fields.find? (manifest apiVersion' kind' metadata' body') name = some v' →
      (Fields.find? (Value.pruneEntries (manifest apiVersion' kind' metadata' body')) name =
        Fields.find? (Value.pruneEntries (manifest apiVersion kind metadata body)) name ↔
        shownEntry v' = shownEntry v) := by
    intro name v v' hv hv'
    rw [find?_pruneEntries_some h hv, find?_pruneEntries_some h' hv']
  have hbody : ∀ name, name ∉ headerNames →
      (Fields.find? (Value.pruneEntries (manifest apiVersion' kind' metadata' body')) name =
        Fields.find? (Value.pruneEntries (manifest apiVersion kind metadata body)) name ↔
        Fields.find? (Value.pruneEntries body') name = Fields.find? (Value.pruneEntries body) name) := by
    intro name hname
    rw [find?_pruneEntries_manifest h hb hname, find?_pruneEntries_manifest h' hb' hname]
  refine (Manifest.order_eq_order_iff h'.prune h.prune hrest).trans ⟨fun hall => ?_, ?_⟩
  · exact ⟨(hheader "metadata" _ _ rfl rfl).mp (hall "metadata" (by decide)),
      (hbody "spec" (by decide)).mp (hall "spec" (by decide))⟩
  · rintro ⟨hm, hs⟩ name hname
    simp only [Manifest.leadingNames, List.mem_cons, List.not_mem_nil, or_false] at hname
    rcases hname with rfl | rfl | rfl | rfl | rfl | rfl
    · exact (hheader "apiVersion" _ _ rfl rfl).mpr hversion
    · exact (hheader "kind" _ _ rfl rfl).mpr hkind
    · exact (hheader "metadata" _ _ rfl rfl).mpr hm
    · exact (hbody "spec" (by decide)).mpr hs
    · exact (hbody "data" (by decide)).mpr (hfind "data" (by decide))
    · exact (hbody "status" (by decide)).mpr (hfind "status" (by decide))

/-! ## Writing twice -/

/-- The empty mapping that stands for no metadata is no other than metadata without entries. -/
theorem orElse_ofFields (fs : Fields) : (Value.ofFields fs).orElse (.ofFields []) = .ofFields fs := by
  cases fs <;> rfl

/-- Metadata that was written and pruned can be written again. -/
theorem write_metadata {v metadata : Value} (h : v.withFields ObjectMeta.layout.write = some metadata) :
    ∃ out again, metadata = .ofFields out ∧
      (Value.ofFields (Value.pruneEntries out)).withFields ObjectMeta.layout.write = some (.ofFields again) ∧
      (Value.pruneEntries again = Value.pruneEntries out ↔
        (Shape.model ObjectMeta.layout).Settled (.ofFields (Value.pruneEntries out))) := by
  rw [Value.withFields, Option.bind_eq_some_iff] at h
  obtain ⟨ms, -, h⟩ := h
  obtain ⟨ps, -, heq⟩ := Layout.write_eq_some h
  rw [heq] at h
  obtain ⟨again, hagain, hiff⟩ := Layout.write_prune (by decide) h
  exact ⟨_, again, heq, hagain, hiff.trans settled_model_iff.symm⟩

/-- The other entries that were written, pruned and ordered can be written again, and show the same exactly if
their pods are settled. -/
theorem rewriteBody_arrange {out : Fields} {kind' : Value} (hk : kind'.text? = kind.text?) (hb : IsBody body)
    (h : rewriteBody kind body = some out) :
    ∃ again, rewriteBody kind' (Manifest.order (Value.pruneEntries out)) = some again ∧ again.IsPlain ∧
      Manifest.others Manifest.leadingNames (Value.pruneEntries again) =
        Manifest.others Manifest.leadingNames (Value.pruneEntries out) ∧
      (∀ name, name ≠ "spec" →
        Fields.find? (Value.pruneEntries again) name = Fields.find? (Value.pruneEntries out) name) ∧
      (Fields.find? (Value.pruneEntries again) "spec" = Fields.find? (Value.pruneEntries out) "spec" ↔
        PodsSettled kind' (Value.pruneEntries out)) := by
  have hplain := (rewriteBody_isPlain hb h).prune
  have hfind := Manifest.find?_order hplain.distinct
  have hpruned : Value.pruneEntries (Manifest.order (Value.pruneEntries out)) =
      Manifest.order (Value.pruneEntries out) := by
    rw [Manifest.pruneEntries_order, Value.pruneEntries_pruneEntries]
  obtain ⟨again, hagain, hplain', hothers, hnames, hiff⟩ :=
    rewriteBody_repeat kind' (hplain.perm (Manifest.order_perm _)) hpruned fun spec pods hspec hpods => by
      rw [hfind] at hspec
      rw [withPods_of_text?_eq hk]
      exact rewriteBody_pods hb h hspec (hpods.of_text?_eq hk.symm)
  refine ⟨again, hagain, hplain', by rw [hothers, Manifest.others_order],
    fun name hname => by rw [hnames name hname, hfind], ?_⟩
  rw [PodsSettled, hfind] at hiff
  exact hiff

theorem text?_kind_arrange {written : Fields} (hn : written.Named) (h : rewrite fs = some written) :
    (Fields.get (Manifest.arrange written) "kind").text? = (Fields.get fs "kind").text? := by
  rw [rewrite, Option.bind_eq_bind, Option.bind_eq_some_iff] at h
  obtain ⟨metadata, -, h⟩ := h
  rw [Option.bind_eq_bind, Option.bind_eq_some_iff] at h
  obtain ⟨body, -, h⟩ := h
  obtain rfl : manifest _ _ metadata body = written := Option.some.inj h
  rw [get_arrange hn rfl, text?_shownEntry]

/-- **A resource that was written and arranged comes out the same again exactly if it is settled.** -/
theorem rewrite_arrange {written : Fields} (hd : Fields.Distinct fs) (h : rewrite fs = some written) :
    written.Named ∧ ∃ again, rewrite (Manifest.arrange written) = some again ∧
      (Manifest.arrange again = Manifest.arrange written ↔ Settled (Manifest.arrange written)) := by
  rw [rewrite, Option.bind_eq_bind, Option.bind_eq_some_iff] at h
  obtain ⟨metadata, hmeta, h⟩ := h
  rw [Option.bind_eq_bind, Option.bind_eq_some_iff] at h
  obtain ⟨body, hbody, h⟩ := h
  obtain rfl : manifest _ _ metadata body = written := Option.some.inj h
  have hb := isBody_bodyOf hd
  have hplain := rewriteBody_isPlain hb hbody
  have hno := Headless.rewriteBody hb hbody (headless_bodyOf _)
  have hnamed : (manifest (Fields.get fs "apiVersion") (Fields.get fs "kind") metadata body).Named :=
    named_manifest hplain.toNamed hno
  refine ⟨hnamed, ?_⟩
  generalize hT : Manifest.arrange (manifest (Fields.get fs "apiVersion") (Fields.get fs "kind") metadata body) = T
  have hget : ∀ name v, Fields.find? (manifest (Fields.get fs "apiVersion") (Fields.get fs "kind") metadata body) name =
      some v → Fields.get T name = (shownEntry v).getD .null :=
    fun name v hv => hT ▸ get_arrange hnamed hv
  have hversion := hget "apiVersion" _ rfl
  have hkind := hget "kind" _ rfl
  obtain ⟨out, meta', rfl, hmeta', hmiff⟩ := write_metadata hmeta
  have hgetmeta : Fields.get T "metadata" = .ofFields (Value.pruneEntries out) := hget "metadata" _ rfl
  have htext : (Fields.get T "kind").text? = (Fields.get fs "kind").text? := by rw [hkind, text?_shownEntry]
  obtain ⟨body', hbody', hplain', hothers, hfind, hsiff⟩ := rewriteBody_arrange htext hb hbody
  have hbodyT : bodyOf T = Manifest.order (Value.pruneEntries body) := hT ▸ bodyOf_arrange hplain hno
  have hrewrite :
      rewrite T = some (manifest (Fields.get T "apiVersion") (Fields.get T "kind") (.ofFields meta') body') := by
    rw [rewrite, metadataOf, hgetmeta, orElse_ofFields, hmeta', hbodyT, hbody']
    rfl
  refine ⟨_, hrewrite, ?_⟩
  have hno' : ∀ name ∈ headerNames, Fields.find? body' name = none := by
    have hordered := hplain.prune.perm (Manifest.order_perm _)
    refine Headless.rewriteBody ⟨hordered.distinct, hordered.values⟩ hbody' fun name hname => ?_
    rw [Manifest.find?_order hplain.prune.distinct, Fields.find?_pruneEntries hplain.distinct, hno name hname]
    rfl
  have hnamed' : (manifest (Fields.get T "apiVersion") (Fields.get T "kind") (.ofFields meta') body').Named :=
    named_manifest hplain'.toNamed hno'
  have hiff := arrange_manifest_eq_iff hnamed hnamed' hplain.toNamed hplain'.toNamed
    (by rw [hversion, shownEntry_getD]) (by rw [hkind, shownEntry_getD]) hothers hfind
  have hmetadata : shownEntry (.ofFields meta') = shownEntry (.ofFields out) ↔
      (Shape.model ObjectMeta.layout).Settled (Fields.get T "metadata") := by
    rw [hgetmeta, ← hmiff]
    change (some (Value.ofFields (Value.pruneEntries meta')) = some (Value.ofFields (Value.pruneEntries out))) ↔ _
    rw [Option.some.injEq, Value.map.injEq, and_iff_left rfl]
  have hspec : Fields.find? T "spec" = Fields.find? (Value.pruneEntries body) "spec" := by
    rw [← hT, Manifest.arrange, Manifest.find?_order hnamed.prune.distinct,
      find?_pruneEntries_manifest hnamed hplain.toNamed (by decide)]
  rw [hT] at hiff
  rw [hiff, hmetadata, hsiff, Settled, PodsSettled, PodsSettled, hspec]

end Resource

/-! ## Exported manifests -/

namespace Manifest

/-- Whether a manifest is written as it is, or nothing known in it is an empty mapping. -/
def Settled (fs : Fields) : Prop :=
  (Fields.get fs "kind").isTruthy = true → Resource.Settled fs

end Manifest

namespace Exportable

/-- The entries of a mapping that is exported as a resource. -/
theorem toOption_tree (fs : Fields) (mark : Option Mark) (hkind : (Fields.get fs "kind").isTruthy = true)
    (hlist : (Fields.get fs "kind").isText "List" = false) :
    (mapping (.map fs mark)).tree.toOption = (Resource.rewrite fs).map Manifest.arrange := by
  rw [← Resource.toOption_ofFields, tree, source]
  simp only [hkind, hlist, Bool.not_false, Bool.and_self, if_true]
  cases Resource.ofFields fs with
  | error e => rfl
  | ok r => cases hr : r.toFields? <;> simp [bind, Except.bind, pure, Except.pure, Except.toOption, hr]

/-- The entries of a mapping that is exported as it is. -/
theorem tree_of_not_isTruthy {fs : Fields} {mark : Option Mark} (hkind : (Fields.get fs "kind").isTruthy = false) :
    (mapping (.map fs mark)).tree = .ok (Manifest.arrange fs) := by
  simp [tree, source, hkind, bind, Except.bind, pure, Except.pure]

/-- **Exporting a resource twice gives the same manifest exactly if the first one is settled.** The second export
always comes to its end. -/
theorem tree_tree_eq_iff {fs manifest : Fields} {mark : Option Mark} (hd : Fields.Distinct fs)
    (hkind : (Fields.get fs "kind").isTruthy = true) (hlist : (Fields.get fs "kind").isText "List" = false)
    (h : (mapping (.map fs mark)).tree = .ok manifest) :
    ∃ again, (mapping (.ofFields manifest)).tree = .ok again ∧ (again = manifest ↔ Manifest.Settled manifest) := by
  have hopt := toOption_tree fs mark hkind hlist
  rw [h] at hopt
  obtain ⟨written, hwritten, rfl⟩ := Option.map_eq_some_iff.mp hopt.symm
  obtain ⟨hnamed, again, hagain, hiff⟩ := Resource.rewrite_arrange hd hwritten
  cases ht : (Fields.get (Manifest.arrange written) "kind").isTruthy with
  | false =>
    refine ⟨_, tree_of_not_isTruthy ht, iff_of_true (Manifest.arrange_arrange hnamed) fun h => ?_⟩
    rw [ht] at h
    cases h
  | true =>
    have hno : (Fields.get (Manifest.arrange written) "kind").isText "List" = false := by
      rw [Value.isText, Resource.text?_kind_arrange hnamed hwritten]
      exact hlist
    have htree := toOption_tree (Manifest.arrange written) none ht hno
    rw [hagain, Option.map_some] at htree
    refine ⟨_, toOption_eq_some.mp htree, hiff.trans ?_⟩
    exact ⟨fun h _ => h, fun h => h ht⟩

/-- A service whose only label is null has no labels in the first manifest, an empty mapping in their place, and
nothing in the second one. -/
theorem tree_tree_eq_iff_labels :
    let fs : Fields := [(.ofString "kind", .ofString "Service"), (.ofString "metadata", .ofFields [
      (.ofString "name", .ofString "a"), (.ofString "labels", .ofFields [(.ofString "x", .null)])])]
    let manifest : Fields := [(.ofString "kind", .ofString "Service"), (.ofString "metadata", .ofFields [
      (.ofString "labels", .ofFields []), (.ofString "name", .ofString "a")])]
    Fields.Distinct fs ∧ (Fields.get fs "kind").isTruthy = true ∧ (Fields.get fs "kind").isText "List" = false ∧
      (mapping (.ofFields fs)).tree = .ok manifest ∧
      ∃ again, (mapping (.ofFields manifest)).tree = .ok again ∧ (again = manifest ↔ Manifest.Settled manifest) := by
  intro fs manifest
  have htree : (mapping (.ofFields fs)).tree = .ok manifest := by rfl
  exact ⟨by decide, by decide, by decide, htree, tree_tree_eq_iff (by decide) (by decide) (by decide) htree⟩

end Exportable

end KubeManifest
