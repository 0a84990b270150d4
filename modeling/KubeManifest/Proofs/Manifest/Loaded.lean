import KubeManifest.Manifest.Format
import KubeManifest.Proofs.Manifest.Aggregate
import KubeManifest.Proofs.Manifest.Flattened
import KubeManifest.Proofs.Resource.Readable
import KubeManifest.Text.Decode
import KubeManifest.Proofs.Value.Decidable

/-!
# Reading the aggregate back

* `Resource.Titled` : a resource whose kind and name are texts, the kind not one of templates or lists;
* `Resource.WellFormed.exists_ofFields` : what is written for such a resource in order, pruned and read without labels,
  is read as a resource of the same kind and name;
* `Manifest.Holds` : a file whose text reads as a tree;
* `Manifest.Restores` : a file that is read as one resource of each kind and name in a collection;
* `Manifest.load_collection` : so is the aggregate of resources in order;
* `Manifest.not_restores` : others may be read as something else.
-/

namespace KubeManifest

open Value

namespace Value

/-- A text shows as itself, also where it does not count as given. -/
theorem display_orElse_of_text? {v : Value} {s : String} (h : v.text? = some s) :
    (v.orElse (.ofString "")).display = s := by
  obtain ⟨style, mark, rfl⟩ := text?_eq_some_iff.mp h
  rw [orElse]
  split
  · rfl
  · rename_i ht
    simp only [isTruthy, bne_iff_ne, ne_eq, not_not] at ht
    rw [ht]
    rfl

theorem isNull_of_text? {v : Value} {s : String} (h : v.text? = some s) : v.isNull = false := by
  obtain ⟨style, mark, rfl⟩ := text?_eq_some_iff.mp h
  rfl

theorem text?_plain (v : Value) : v.plain.text? = v.text? := by
  cases v <;> rfl

end Value

/-- What is found first is still found, if something remains of it. -/
theorem Fields.find?_pruneEntries_of_find? {fs : Fields} {name : String} {v : Value} (h : find? fs name = some v)
    (hv : v.prune.isNull = false) : find? (pruneEntries fs) name = some v.prune := by
  induction fs with
  | nil => cases h
  | cons e fs ih =>
    obtain ⟨k, w⟩ := e
    rw [find?_cons] at h
    rw [pruneEntries]
    split at h <;> rename_i hk
    · obtain rfl : w = v := Option.some.inj h
      rw [hv]
      simp [find?_cons, hk]
    · cases hw : w.prune.isNull with
      | true => simpa using ih h
      | false => simpa [find?_cons, hk] using ih h

namespace Resource

/-- A resource whose kind and name are texts. Its kind is not one of templates or lists. -/
structure Titled (r : Resource) : Prop where
  kind : ∃ s, r.kind.text? = some s ∧ s ≠ "Template" ∧ Text.endsWith s "List" = false
  name : ∃ s, r.name.text? = some s

variable {r : Resource} {fs : Fields}

/-- The entries that are read from the text of some entries. -/
def reread (fs : Fields) : Fields :=
  Fields.relabel .bare (pruneEntries fs)

theorem find?_reread {name : String} {v : Value} (h : Fields.find? fs name = some v) (hv : v.prune.isNull = false) :
    Fields.find? (reread fs) name = some v.prune.bare := by
  rw [reread, Fields.find?_relabel, Fields.find?_pruneEntries_of_find? h hv]
  rfl

/-- Nothing else is written for kind and metadata of a resource in order. -/
theorem WellFormed.find?_toFields? (hr : r.WellFormed) (h : r.toFields? = .ok fs) :
    Fields.find? fs "kind" = some r.kind ∧ Fields.find? fs "metadata" = some r.metadata.toValue := by
  obtain ⟨body, rfl, hbody⟩ := toFields?_eq_ok h
  have hnone : ∀ name ∈ Value.wellKnown, name ≠ "spec" → Fields.find? r.body name = none →
      Fields.find? body name = none := by
    intro name hname hne hno
    have hplain := Fields.find?_plain_eq_none hname hno
    rcases hbody with ⟨-, rfl⟩ | ⟨p, w, -, -, hput⟩
    · exact hplain
    · rw [find?_putPodSpec hne hput, hplain]
  constructor
  · change some ((Fields.find? body "kind").getD r.kind) = _
    rw [hnone "kind" (by decide) (by decide) hr.noKind, Option.getD_none]
  · change some ((Fields.find? body "metadata").getD r.metadata.toValue) = _
    rw [hnone "metadata" (by decide) (by decide) hr.noMetadata, Option.getD_none]

theorem text?_get_reread {name s : String} {v : Value} (h : Fields.find? fs name = some v) (hs : v.text? = some s) :
    (Fields.get (reread fs) name).text? = some s := by
  have hprune : v.prune.text? = some s := by rw [text?_prune, hs]
  rw [Fields.get, find?_reread h (isNull_of_text? hprune), Option.getD_some, bare, text?_relabel, hprune]

theorem find?_metadata {s : String} (h : r.name.text? = some s) :
    ∃ ms, r.metadata.toValue = .ofFields ms ∧ Fields.find? ms "name" = some r.name := by
  refine ⟨_, rfl, ?_⟩
  have hwritten : Model.isWritten r.metadata.name = true := by
    obtain ⟨style, mark, hv⟩ := text?_eq_some_iff.mp h
    rw [name] at hv
    rw [hv]
    rfl
  rw [Fields.find?_append, Model.find?_compact (by simp)]
  simp [List.lookup_cons, Option.filter, hwritten, name]

/-- What is written for a resource is read as one of the same kind and name. -/
theorem WellFormed.exists_ofFields (hr : r.WellFormed) (ht : r.Titled) (h : r.toFields? = .ok fs) :
    ∃ r', ofFields (reread fs) = .ok r' ∧ r'.sortKey = r.sortKey := by
  obtain ⟨hkind, hmeta⟩ := hr.find?_toFields? h
  obtain ⟨kind, hk, -⟩ := ht.kind
  obtain ⟨name, hn⟩ := ht.name
  obtain ⟨ms, hms, hname⟩ := find?_metadata hn
  rw [hms] at hmeta
  have hkind' := text?_get_reread hkind hk
  have hmeta' : Fields.get (reread fs) "metadata" = .ofFields (reread ms) := by
    rw [Fields.get, find?_reread hmeta rfl, Option.getD_some, bare, prune, relabel_ofFields]
    rfl
  have hspec : ∀ spec, Fields.find? (reread fs) "spec" = some spec →
      PodsReadable (Fields.get (reread fs) "kind") spec := by
    intro spec hfind
    rw [reread, Fields.find?_relabel, Option.map_eq_some_iff] at hfind
    obtain ⟨pruned, hfind, rfl⟩ := hfind
    obtain ⟨k, hmem, hkey⟩ := Fields.mem_of_find? hfind
    obtain ⟨v, hv, rfl, -⟩ := mem_pruneEntries.mp hmem
    have hpods := hr.podsReadable h (k, v) hv hkey
    exact ((hpods.thin thinning_prune).thin (thinning_relabel .bare)).of_text?_eq (hkind'.trans hk.symm)
  obtain ⟨r', hread, hrk, hrn⟩ := Resource.exists_ofFields hmeta' hspec
  have hname' : r'.name.text? = some name := by
    rw [hrn, Model.field, text?_plain, text?_get_reread hname hn]
  refine ⟨r', hread, ?_⟩
  rw [sortKey, sortKey, display_orElse_of_text? hk, display_orElse_of_text? hn, display_orElse_of_text? hname',
    display_orElse_of_text? (hrk ▸ hkind')]

end Resource

namespace Manifest

/-- A file whose text reads as a tree, whatever its values were marked with and in whatever way they were written. -/
def Holds (files : Files) (path : Path) (tree : Fields) : Prop :=
  ∃ bytes text, files.read path = .ok bytes ∧ Text.decode? bytes = some text ∧
    Yaml.readAll .plain text = .ok [(Value.ofFields tree).bare]

variable {c : Collection} {processor : Option Processor}

theorem isLeaf_of_kind {doc : Fields} {s : String} (hs : (Fields.get doc "kind").text? = some s)
    (ht : s ≠ "Template") (hl : Text.endsWith s "List" = false) : IsLeaf doc where
  notTemplate h := ht (Option.some.inj (hs.symm.trans h))
  notList := by
    rintro ⟨item, h⟩
    obtain rfl : s = item ++ "List" := Option.some.inj (hs.symm.trans h)
    rw [Text.endsWith_iff.mpr ⟨item, rfl⟩] at hl
    cases hl
  kind := .inl (by rw [hs]; rfl)

/-- The items of the aggregate that is read back. -/
theorem expansion_reread (fss : List Fields) :
    expansion processor (Fields.relabel .bare ((.ofString "apiVersion", .ofString "v1") ::
      (.ofString "kind", .ofString "List") ::
        if fss = [] then [] else [(.ofString "items", .ofList ((fss.map pruneEntries).map .ofFields))])) =
      .ok (some (fss.map fun fs => .ofFields (Resource.reread fs))) := by
  rw [expansion_of_isList]
  · cases fss with
    | nil => rfl
    | cons fs fss =>
      rw [if_neg (List.cons_ne_nil _ _), objectsOf]
      simp [Fields.relabel, Fields.get, Fields.find?_cons, Model.itemsOf, isTruthy, Resource.reread]
  · exact ⟨"", rfl⟩

/-- The resources of items that are read back. -/
theorem resources_reread (processor : Option Processor) {rs : List Resource} {fss : List Fields}
    (hrs : ∀ r ∈ rs, r.WellFormed ∧ r.Titled) (h : List.Forall₂ (fun r fs => r.toFields? = .ok fs) rs fss)
    (depth : Nat) :
    ∃ rs', ((fss.map fun fs => Value.ofFields (Resource.reread fs)).flatMap (leaves processor (depth + 1))).mapM
        resourceOf = .ok rs' ∧ rs'.map Resource.sortKey = rs.map Resource.sortKey := by
  induction h with
  | nil => exact ⟨[], rfl, rfl⟩
  | @cons r fs rs fss hfs _ ih =>
    obtain ⟨⟨hr, htitle⟩, hrs⟩ := List.forall_mem_cons.mp hrs
    obtain ⟨rs', hmap, hkeys⟩ := ih hrs
    obtain ⟨r', hread, hkey⟩ := hr.exists_ofFields htitle hfs
    obtain ⟨s, hs, ht, hl⟩ := htitle.kind
    have hleaf : IsLeaf (Resource.reread fs) :=
      isLeaf_of_kind (Resource.text?_get_reread (hr.find?_toFields? hfs).1 hs) ht hl
    refine ⟨r' :: rs', ?_, by rw [List.map_cons, List.map_cons, hkey, hkeys]⟩
    rw [List.map_cons, List.flatMap_cons, Value.ofFields, leaves_of_isLeaf hleaf, List.singleton_append,
      mapM_cons_eq_ok]
    refine ⟨r', rs', ?_, hmap, rfl⟩
    rw [resourceOf, ok_bind, hread]
    rfl

theorem documentsOf_of_holds {files : Files} {path : Path} {tree : Fields} (h : Holds files path tree)
    (hne : tree ≠ []) : documentsOf files path = .ok [(Value.ofFields tree).bare] := by
  obtain ⟨bytes, text, hread, htext, hdocs⟩ := h
  have htruthy : (Value.ofFields tree).bare.isTruthy = true := by
    rw [bare, isTruthy_relabel]
    cases tree with
    | nil => exact absurd rfl hne
    | cons e fs => rfl
  have hkept : [(Value.ofFields tree).bare].filter isTruthy = [(Value.ofFields tree).bare] := by
    rw [List.filter_cons, if_pos htruthy, List.filter_nil]
  rw [documentsOf, hread, show (Except.ok bytes).mapError Failure.file = .ok bytes from rfl, ok_bind]
  dsimp only
  rw [htext]
  dsimp only
  rw [hdocs]
  change (if ([(Value.ofFields tree).bare].filter isTruthy).isEmpty then _ else pure _) = _
  rw [hkept]
  rfl

theorem load_of_holds {files : Files} {path : Path} {tree : Fields} (h : Holds files path tree) (hne : tree ≠ []) :
    load files path processor = resourcesOf processor [(Value.ofFields tree).bare] := by
  rw [load, documentsOf_of_holds h hne, ok_bind]

/-- The resources in the aggregate are those of its items, of each kind and name the first. -/
theorem load_aggregate {tree : Fields} {files : Files} {path : Path} (hc : ∀ r ∈ c.items, r.WellFormed ∧ r.Titled)
    (htree : (Exportable.collection c).tree = .ok tree) (hfile : Holds files path tree) :
    ∃ rs, load files path processor =
        .ok ((firsts rs).mergeSort fun a b => Collection.pairLE a.sortKey b.sortKey) ∧
      rs.map Resource.sortKey = c.sorted.map Resource.sortKey := by
  obtain ⟨fss, hfss, rfl⟩ := Exportable.tree_collection_iff.mp htree
  have hsorted : ∀ r ∈ c.sorted, r.WellFormed ∧ r.Titled := fun r hr => hc r (c.sorted_perm.subset hr)
  obtain ⟨rs, hrs, hkeys⟩ := resources_reread processor hsorted hfss 998
  refine ⟨rs, ?_, hkeys⟩
  rw [load_of_holds hfile (by simp), resourcesOf, List.flatMap_singleton, bare, relabel_ofFields, maxDepth,
    leaves_of_expansion (expansion_reread fss), hrs]
  rfl

/-- A file from which the resources of a collection are read, sorted by kind and name, one of each kind and name. -/
def Restores (processor : Option Processor) (files : Files) (path : Path) (c : Collection) : Prop :=
  ∃ rs, load files path processor = .ok rs ∧
    (rs.map Resource.sortKey).Pairwise (fun a b => toLex a < toLex b) ∧
    ∀ key, key ∈ rs.map Resource.sortKey ↔ key ∈ c.items.map Resource.sortKey

theorem restores_of_load {files : Files} {path : Path} {rs : List Resource}
    (h : load files path processor = .ok ((firsts rs).mergeSort fun a b => Collection.pairLE a.sortKey b.sortKey))
    (hkeys : rs.map Resource.sortKey = c.sorted.map Resource.sortKey) : Restores processor files path c := by
  refine ⟨_, h, sorted_firsts rs, fun key => ?_⟩
  have hperm := List.mergeSort_perm (firsts rs) fun a b => Collection.pairLE a.sortKey b.sortKey
  rw [(hperm.map Resource.sortKey).mem_iff, mem_firsts_keys, hkeys, (c.sorted_perm.map Resource.sortKey).mem_iff]

/-- **Loading undoes exporting**, where the resources are in order: their kinds and names are read again from the
aggregate, each once. -/
theorem load_collection {tree : Fields} {files : Files} {path : Path}
    (hc : ∀ r ∈ c.items, r.WellFormed ∧ r.Titled) (htree : (Exportable.collection c).tree = .ok tree)
    (hfile : Holds files path tree) : Restores processor files path c := by
  obtain ⟨rs, hload, hkeys⟩ := load_aggregate hc htree hfile
  exact restores_of_load hload hkeys

/-! ## Aggregates in files -/

def textFile (text : String) : Files where
  contents := [(["work", "kubernetes.yml"], text.toUTF8)]

def textPath : Path :=
  Path.ofText "kubernetes.yml"

theorem holds_textFile {text : String} {tree : Fields} (hbreaks : '\r' ∉ text.toList)
    (hread : (Yaml.readAll .plain text.toList).toOption = some [(Value.ofFields tree).bare]) :
    Holds (textFile text) textPath tree :=
  ⟨text.toUTF8, text.toList, rfl, Text.decode?_toUTF8 hbreaks, toOption_eq_some.mp hread⟩

/-- The aggregate of two pods of one name, and a file with its text: one of them is read again. -/
theorem load_collection_of_two :
    let pod (spec : Option PodSpec) : Resource :=
      ⟨.ofString "Pod", .ofString "v1", { name := .ofString "p" }, [], spec⟩
    let c : Collection := ⟨[pod (some { containers := some [some { name := .ofString "c" }] }), pod none]⟩
    let item (rest : Fields) : Value := .ofFields ((.ofString "apiVersion", .ofString "v1") ::
      (.ofString "kind", .ofString "Pod") ::
      (.ofString "metadata", .ofFields [(.ofString "name", .ofString "p")]) :: rest)
    let tree : Fields := [(.ofString "apiVersion", .ofString "v1"), (.ofString "kind", .ofString "List"),
      (.ofString "items", .ofList [item [(.ofString "spec", .ofFields [(.ofString "containers",
        .ofList [.ofFields [(.ofString "name", .ofString "c")]])])], item []])]
    let text := "apiVersion: v1\nkind: List\nitems:\n" ++
      "  - apiVersion: v1\n    kind: Pod\n    metadata:\n      name: p\n" ++
      "    spec:\n      containers:\n        - name: c\n" ++
      "  - apiVersion: v1\n    kind: Pod\n    metadata:\n      name: p\n"
    (∀ r ∈ c.items, r.WellFormed ∧ r.Titled) ∧ (Exportable.collection c).tree = .ok tree ∧
      Format.yaml.write tree = .ok text ∧ Holds (textFile text) textPath tree ∧
      Restores none (textFile text) textPath c := by
  intro pod c item tree text
  have hcontainer : Container.WellFormed { name := .ofString "c" } :=
    ⟨nofun, nofun, nofun, nofun, nofun, nofun, Model.foreign_nil _⟩
  have hall : ∀ r ∈ c.items, r.WellFormed ∧ r.Titled := by
    simp only [c, List.forall_mem_cons]
    refine ⟨⟨⟨rfl, rfl, nofun, fun p hp => ?_⟩, ⟨_, rfl, by decide, by decide⟩, ⟨_, rfl⟩⟩,
      ⟨⟨rfl, rfl, fun _ => rfl, nofun⟩, ⟨_, rfl, by decide, by decide⟩, ⟨_, rfl⟩⟩, nofun⟩
    obtain rfl := Option.some.inj hp
    refine ⟨fun c hc => ?_, Model.foreign_nil _⟩
    obtain rfl := Option.some.inj (List.mem_singleton.mp hc)
    exact hcontainer
  have hsorted : c.sorted = c.items :=
    List.mergeSort_of_pairwise (by decide)
  have htree : (Exportable.collection c).tree = .ok tree := by
    rw [Exportable.tree_collection_iff, hsorted]
    exact ⟨_, .cons rfl (.cons rfl .nil), rfl⟩
  have hwrite : Format.yaml.write tree = .ok text := toOption_eq_some.mp (by decide +kernel)
  have hholds : Holds (textFile text) textPath tree := by
    refine holds_textFile ?_ ?_
    all_goals
      simp only [text, String.reduceAppend, String.reduceToList]
      decide +kernel
  exact ⟨hall, htree, hwrite, hholds, load_collection hall htree hholds⟩

/-! ### Resources that are not in order -/

/-- A configuration map with another kind among its other entries. -/
def relabelled : Resource :=
  ⟨.ofString "ConfigMap", .ofString "v1", { name := .ofString "a" }, [(.ofString "kind", .ofString "Service")], none⟩

/-- A pod with containers among its other entries that are none. -/
def unlifted : Resource :=
  ⟨.ofString "Pod", .ofString "v1", { name := .ofString "p" },
    [(.ofString "spec", .ofFields [(.ofString "containers", .scalar (.int 5 none) none)])], none⟩

def aggregateOf (item : Fields) : Fields :=
  [(.ofString "apiVersion", .ofString "v1"), (.ofString "kind", .ofString "List"),
    (.ofString "items", .ofList [.ofFields (pruneEntries item)])]

/-- A file with the aggregate of one resource from which it is not read again. -/
theorem exists_not_restores {r : Resource} {out : Fields} (text : String) (hout : r.toFields? = .ok out)
    (hbreaks : '\r' ∉ text.toList)
    (hread : (Yaml.readAll .plain text.toList).toOption = some [(Value.ofFields (aggregateOf out)).bare])
    (hkeys : r.sortKey ∉ ((resourcesOf none [(Value.ofFields (aggregateOf out)).bare]).toOption.getD []).map
      Resource.sortKey) :
    ∃ files path tree, (Exportable.collection ⟨[r]⟩).tree = .ok tree ∧ Holds files path tree ∧
      ¬ Restores none files path ⟨[r]⟩ := by
  have htree : (Exportable.collection ⟨[r]⟩).tree = .ok (aggregateOf out) := by
    have hsorted : (Collection.mk [r]).sorted = [r] := List.mergeSort_singleton r
    rw [Exportable.tree_collection_iff, hsorted]
    exact ⟨_, .cons hout .nil, rfl⟩
  refine ⟨_, _, _, htree, holds_textFile hbreaks hread, ?_⟩
  rintro ⟨rs, hload, -, hall⟩
  rw [load_of_holds (holds_textFile hbreaks hread) (by simp [aggregateOf])] at hload
  rw [hload, toOption_ok, Option.getD_some] at hkeys
  exact hkeys ((hall r.sortKey).mpr (by simp))

/-- The aggregate of the one is read as a service, and the aggregate of the other is not read at all. -/
theorem not_restores :
    (relabelled.Titled ∧ ∃ files path tree, (Exportable.collection ⟨[relabelled]⟩).tree = .ok tree ∧
      Holds files path tree ∧ ¬ Restores none files path ⟨[relabelled]⟩) ∧
    unlifted.Titled ∧ ∃ files path tree, (Exportable.collection ⟨[unlifted]⟩).tree = .ok tree ∧
      Holds files path tree ∧ ¬ Restores none files path ⟨[unlifted]⟩ := by
  refine ⟨⟨⟨⟨_, rfl, by decide, by decide⟩, ⟨_, rfl⟩⟩, ?_⟩, ⟨⟨_, rfl, by decide, by decide⟩, ⟨_, rfl⟩⟩, ?_⟩
  · refine exists_not_restores ("apiVersion: v1\nkind: List\nitems:\n" ++
      "  - apiVersion: v1\n    kind: Service\n    metadata:\n      name: a\n") rfl ?_ ?_ (by decide +kernel)
    all_goals
      simp only [String.reduceAppend, String.reduceToList]
      decide +kernel
  · refine exists_not_restores ("apiVersion: v1\nkind: List\nitems:\n" ++
      "  - apiVersion: v1\n    kind: Pod\n    metadata:\n      name: p\n    spec:\n      containers: 5\n") rfl ?_ ?_
      (by decide +kernel)
    all_goals
      simp only [String.reduceAppend, String.reduceToList]
      decide +kernel

end Manifest

end KubeManifest
