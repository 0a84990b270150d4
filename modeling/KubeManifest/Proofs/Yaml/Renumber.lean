import KubeManifest.Proofs.Value.Renumber
import KubeManifest.Yaml.Reader

/-!
# Reading YAML under other numbers

* `Yaml.Mode.renumber` : the way values are read, with another number for their document;
* `Yaml.assemble_renumber`, `Yaml.Node.read_renumber` : the values of nodes differ in these numbers alone;
* `Yaml.readOne_renumber` : and so does the value of a text;
* `Yaml.readOne_plain_unnumbered` : a value that is read plainly names no document.
-/

namespace KubeManifest

open Relabeling (renumber)

variable (f : Nat → Nat)

theorem Fields.assign_renumber (fs : Fields) (key v : Value) :
    assign (fs.relabel (renumber f)) (key.relabel (renumber f)) (v.relabel (renumber f)) =
      (assign fs key v).relabel (renumber f) := by
  induction fs with
  | nil => rfl
  | cons e fs ih =>
    obtain ⟨k, old⟩ := e
    rw [relabel_cons, assign, assign, Value.same_renumber, ih]
    split <;> rfl

namespace Yaml

/-! ## Ways of reading -/

/-- The way values are read, with another number for their document. -/
def Mode.renumber : Mode → Mode
  | plain => plain
  | styled document => styled (f document)

def Names.renumber (names : Names) : Names :=
  names.map fun e => (e.1, e.2.map (Value.relabel (.renumber f)))

def Reading.renumber (r : Reading) : Reading :=
  ⟨r.value.relabel (.renumber f), Names.renumber f r.names, r.faults⟩

def EntryReading.renumber (e : EntryReading) : EntryReading where
  isMerge := e.isMerge
  key := e.key.relabel (.renumber f)
  value := e.value.relabel (.renumber f)
  keyFaults := e.keyFaults
  valueFaults := e.valueFaults

namespace Mode

@[simp] theorem isPlain_renumber (mode : Mode) : (mode.renumber f).isPlain = mode.isPlain := by
  cases mode <;> rfl

@[simp] theorem deeper_renumber (mode : Mode) (inKey : Bool) (depth : Nat) :
    (mode.renumber f).deeper inKey depth = mode.deeper inKey depth := by
  simp [deeper]

@[simp] theorem collectionMark_renumber (mode : Mode) (props : Props) :
    (mode.renumber f).collectionMark props = (Relabeling.renumber f).mark (mode.collectionMark props) := by
  cases mode <;> rfl

@[simp] theorem scalarMark_renumber (mode : Mode) (props : Props) (s : Scalar) :
    (mode.renumber f).scalarMark props s = (Relabeling.renumber f).mark (mode.scalarMark props s) := by
  cases mode with
  | plain => rfl
  | styled document =>
    simp only [renumber, scalarMark, apply_ite (Relabeling.renumber f).mark]
    rfl

end Mode

namespace Names

@[simp] theorem renumber_nil : renumber f [] = [] := rfl

theorem lookup_renumber (names : Names) (name : String) :
    (renumber f names).lookup name = (names.lookup name).map (Option.map (Value.relabel (.renumber f))) := by
  induction names with
  | nil => rfl
  | cons e names ih =>
    obtain ⟨other, v⟩ := e
    change List.lookup name ((other, v.map (Value.relabel (.renumber f))) :: renumber f names) = _
    rw [List.lookup_cons, List.lookup_cons, ih]
    cases name == other <;> rfl

/-- The names with a name before them, if a node gives one. -/
@[simp] theorem renumber_anchor (anchor : Option String) (v : Option Value) (names : Names) :
    renumber f ((anchor.map fun name => (name, v)).toList ++ names) =
      (anchor.map fun name => (name, v.map (Value.relabel (.renumber f)))).toList ++ renumber f names := by
  cases anchor <;> rfl

end Names

/-! ## Mappings -/

theorem mergedMaps?_relabel (ρ : Relabeling) (v : Value) :
    mergedMaps? (v.relabel ρ) = (mergedMaps? v).map (List.map (Fields.relabel ρ)) := by
  cases v with
  | scalar s mark => simp [mergedMaps?]
  | map fs mark => simp [mergedMaps?]
  | list items mark =>
    rw [Value.relabel_list, mergedMaps?, mergedMaps?]
    induction items with
    | nil => rfl
    | cons x xs ih =>
      rw [List.map_cons, List.mapM_cons, List.mapM_cons, ih, Value.fields?_relabel]
      cases x.fields? <;> cases xs.mapM Value.fields? <;> rfl

theorem keyFault?_relabel (ρ : Relabeling) (mode : Mode) (v : Value) :
    keyFault? (mode.renumber f) (v.relabel ρ) = keyFault? mode v := by
  cases v with
  | scalar s mark => simp [keyFault?]
  | list items mark => simp [keyFault?, List.all_map, Function.comp_def]
  | map fs mark =>
    have hall : (Fields.relabel ρ fs).all (fun e => e.2.isScalar) = fs.all fun e => e.2.isScalar := by
      simp [Fields.relabel, List.all_map, Function.comp_def]
    rw [Value.relabel_map, keyFault?, keyFault?, Mode.isPlain_renumber, hall]

theorem mergesOf_renumber (mode : Mode) (depth : Nat) (entries : List EntryReading) :
    mergesOf (mode.renumber f) depth (entries.map (EntryReading.renumber f)) =
      ((mergesOf mode depth entries).1.map (Fields.relabel (.renumber f)), (mergesOf mode depth entries).2) := by
  unfold mergesOf
  rw [List.filter_map, List.foldl_map]
  change List.foldl _ (Prod.map (List.map (Fields.relabel (.renumber f))) id ([], [])) _ = _
  refine List.foldl_hom (Prod.map (List.map (Fields.relabel (.renumber f))) id) fun acc e => ?_
  obtain ⟨maps, faults⟩ := acc
  have hgiven : (maps.map (Fields.relabel (.renumber f))).any (! ·.isEmpty) = maps.any (! ·.isEmpty) := by
    simp [Fields.relabel, List.any_map, Function.comp_def]
  simp only [Prod.map, EntryReading.renumber, mergedMaps?_relabel, Mode.isPlain_renumber, hgiven, List.isEmpty_map]
  cases mergedMaps? e.value with
  | none => rfl
  | some new =>
    simp only [Option.map_some]
    generalize (if mode.isPlain = true then maps.any (! ·.isEmpty) else !maps.isEmpty) = given
    cases given <;> rfl

theorem ownEntries_renumber (mode : Mode) (distinct : Bool) (depth : Nat) (base : Fields)
    (entries : List EntryReading) :
    ownEntries (mode.renumber f) distinct depth (base.relabel (.renumber f)) (entries.map (EntryReading.renumber f)) =
      ((ownEntries mode distinct depth base entries).1.relabel (.renumber f),
        (ownEntries mode distinct depth base entries).2) := by
  unfold ownEntries
  rw [List.filter_map, List.foldl_map]
  change List.foldl _ (Prod.map (Fields.relabel (.renumber f)) id (base, [])) _ = _
  refine List.foldl_hom (Prod.map (Fields.relabel (.renumber f)) id) fun acc e => ?_
  obtain ⟨fs, faults⟩ := acc
  simp [EntryReading.renumber, keyFault?_relabel, Fields.assign_renumber]

theorem flatten_relabel (ρ : Relabeling) (maps : List Fields) :
    (maps.map (Fields.relabel ρ)).flatten = Fields.relabel ρ maps.flatten := by
  rw [Fields.relabel, List.map_flatten]
  rfl

theorem assignAll_renumber (fs : Fields) :
    (fs.relabel (.renumber f)).foldl (fun fs (k, v) => Fields.assign fs k v) [] =
      Fields.relabel (.renumber f) (fs.foldl (fun fs (k, v) => Fields.assign fs k v) []) := by
  refine Fields.foldl_relabel (.renumber f) (fun gs e => ?_) fs []
  exact Fields.assign_renumber f gs e.1 e.2

theorem fillAll_renumber (fs own : Fields) :
    (fs.relabel (.renumber f)).foldl (fun fs (k, v) => if Fields.hasKey fs k then fs else fs ++ [(k, v)])
        (own.relabel (.renumber f)) =
      Fields.relabel (.renumber f)
        (fs.foldl (fun fs (k, v) => if Fields.hasKey fs k then fs else fs ++ [(k, v)]) own) := by
  refine Fields.foldl_relabel (.renumber f) (fun gs e => ?_) fs own
  dsimp only
  rw [Fields.hasKey_renumber]
  split
  · rfl
  · exact (Fields.relabel_append _ gs [(e.1, e.2)]).symm

theorem assemble_renumber (mode : Mode) (depth : Nat) (entries : List EntryReading) :
    assemble (mode.renumber f) depth (entries.map (EntryReading.renumber f)) =
      ((assemble mode depth entries).1.relabel (.renumber f), (assemble mode depth entries).2) := by
  unfold assemble
  rw [mergesOf_renumber, Mode.isPlain_renumber]
  rcases mergesOf mode depth entries with ⟨maps, mergeFaults⟩
  dsimp only
  split
  · rw [← List.map_reverse, flatten_relabel, assignAll_renumber]
    generalize maps.reverse.flatten.foldl (fun fs (k, v) => Fields.assign fs k v) [] = merged
    rw [ownEntries_renumber, Fields.isEmpty_relabel]
  · have hown := ownEntries_renumber f mode true depth [] entries
    rw [Fields.relabel_nil] at hown
    rw [flatten_relabel, hown, fillAll_renumber]

/-! ## Nodes -/

theorem readScalar_renumber (mode : Mode) (isKey : Bool) (depth : Nat) (names : Names) (props : Props) (text : String)
    (style : TextStyle) (version : Version) :
    readScalar (mode.renumber f) isKey depth (names.renumber f) props text style version =
      (readScalar mode isKey depth names props text style version).renumber f := by
  unfold readScalar
  rw [Mode.isPlain_renumber]
  dsimp only
  cases Scalar.read version props.tag props.anchor.isSome text style with
  | error fault => split <;> simp [Reading.renumber]
  | ok s => split <;> simp [Reading.renumber]

mutual

theorem Node.read_renumber (mode : Mode) (inKey isKey : Bool) (depth : Nat) (names : Names) : ∀ node : Node,
    node.read (mode.renumber f) inKey isKey depth (names.renumber f) =
      (node.read mode inKey isKey depth names).renumber f
  | .reference name => by
    rw [Node.read, Node.read, Names.lookup_renumber]
    cases names.lookup name with
    | none => simp [Reading.renumber]
    | some v => cases v <;> simp [Reading.renumber]
  | .scalar props text style version => by
    rw [Node.read, Node.read, readScalar_renumber]
  | .list props items => by
    have hitems := readItems_renumber mode inKey (mode.deeper inKey depth)
      ((props.anchor.map fun name => (name, none)).toList ++ names) items
    rw [Names.renumber_anchor, Option.map_none] at hitems
    rw [Node.read, Node.read, Mode.deeper_renumber, hitems]
    simp [Reading.renumber]
  | .map props entries => by
    have hentries := readEntries_renumber mode inKey depth (mode.deeper inKey depth)
      ((props.anchor.map fun name => (name, none)).toList ++ names) entries
    rw [Names.renumber_anchor, Option.map_none] at hentries
    rw [Node.read, Node.read, Mode.deeper_renumber, hentries]
    simp [Reading.renumber, assemble_renumber]

theorem readItems_renumber (mode : Mode) (inKey : Bool) (depth : Nat) (names : Names) : ∀ nodes : List Node,
    readItems (mode.renumber f) inKey depth (names.renumber f) nodes =
      ((readItems mode inKey depth names nodes).1.map (Value.relabel (.renumber f)),
        (readItems mode inKey depth names nodes).2.1.renumber f, (readItems mode inKey depth names nodes).2.2)
  | [] => rfl
  | node :: nodes => by
    rw [readItems, readItems, Node.read_renumber mode inKey false depth names node]
    simp [Reading.renumber, readItems_renumber mode inKey depth _ nodes]

theorem readEntries_renumber (mode : Mode) (inKey : Bool) (depth inside : Nat) (names : Names) :
    ∀ entries : List (Node × Node),
      readEntries (mode.renumber f) inKey depth inside (names.renumber f) entries =
        ((readEntries mode inKey depth inside names entries).1.map (EntryReading.renumber f),
          (readEntries mode inKey depth inside names entries).2.renumber f)
  | [] => rfl
  | (key, value) :: rest => by
    rw [readEntries, readEntries]
    split
    · rw [Node.read_renumber mode inKey false depth names value]
      simp [Reading.renumber, EntryReading.renumber, readEntries_renumber mode inKey depth inside _ rest]
    · rw [Node.read_renumber mode true true inside names key]
      dsimp only [Reading.renumber]
      rw [Node.read_renumber mode inKey false inside _ value]
      simp [Reading.renumber, EntryReading.renumber, readEntries_renumber mode inKey depth inside _ rest]

end

/-! ## Documents -/

theorem readRoot_renumber (mode : Mode) (root : Node) :
    readRoot (mode.renumber f) root = (readRoot mode root).map (Value.relabel (.renumber f)) := by
  have hread := Node.read_renumber f mode false false 0 [] root
  rw [Names.renumber_nil] at hread
  unfold readRoot
  rw [hread]
  split
  · rfl
  · dsimp only [Reading.renumber]
    cases firstFault? (root.read mode false false 0 []).faults <;> rfl

/-- The value of a text is the same up to the number of its document. -/
theorem readOne_renumber (mode : Mode) (text : List Char) :
    readOne (mode.renumber f) text = (readOne mode text).map (Value.relabel (.renumber f)) := by
  unfold readOne
  rw [Mode.isPlain_renumber]
  dsimp only
  cases Document.implicit? (Token.scan (!mode.isPlain) text) with
  | finished => exact congrArg Except.ok (Value.relabel_null _).symm
  | broken => rfl
  | document root rest =>
    dsimp only
    cases Document.after rest with
    | finished => exact readRoot_renumber f mode root
    | broken => rfl
    | document root rest => rfl

theorem readOne_plain_unnumbered {text : List Char} {v : Value} (h : readOne .plain text = .ok v) : v.Unnumbered := by
  intro f
  have hread := readOne_renumber f .plain text
  rw [Mode.renumber, h] at hread
  exact (Except.ok.inj hread).symm

end Yaml
end KubeManifest
