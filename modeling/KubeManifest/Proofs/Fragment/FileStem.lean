import KubeManifest.Proofs.Fragment.Filename
import KubeManifest.Proofs.Kind.TwoWay
import KubeManifest.Proofs.Text.Case

/-!
# Stems are read back

The stem of a resource's own file ends with the token of its kind, behind the last dash. So its name and kind are read
back from the file name, whatever the name looks like.

* `KindTable.Unambiguous` : tables whose tokens can stand at the end of a stem and name one kind each;
* `KindTable.Unambiguous.exists_fileStem` : the stem of a name and a kind of such a table;
* `Classification.ofFilename_fileStem` : the file name is read back, and different resources have different stems.
-/

namespace KubeManifest

namespace KindTable

/-- A table of kinds and tokens that are not empty. No token holds a dash, and no two differ in case only. -/
structure Unambiguous (t : KindTable) : Prop where
  kind_ne : ∀ m ∈ t.mappings, m.2 ≠ ""
  token_ne : ∀ m ∈ t.mappings, m.1 ≠ ""
  dash_notMem : ∀ m ∈ t.mappings, '-' ∉ m.1.toList
  distinct : t.mappings.Pairwise fun m m' => Text.lower m.1 ≠ Text.lower m'.1

theorem unambiguous_standard : standard.Unambiguous where
  kind_ne := by decide +kernel
  token_ne := by decide +kernel
  dash_notMem := by decide +kernel
  distinct := by decide +kernel

variable {t : KindTable} {name name' kind kind' token : String}

namespace Unambiguous

variable (h : t.Unambiguous)

include h

/-- Tables without ambiguous tokens are consistent. -/
theorem consistent : t.Consistent where
  kind_ne := h.kind_ne
  token_ne := h.token_ne
  agree m hm m' hm' heq := by
    have hnodup : (t.mappings.map fun m => Text.lower m.1).Nodup := List.pairwise_map.mpr h.distinct
    rw [List.inj_on_of_nodup_map hnodup hm hm' heq]

/-- A token that is listed names its kind, in lower case as well. -/
theorem names_lower (hm : (token, kind) ∈ t.mappings) : t.Names (Text.lower token) kind :=
  kindFor?_eq_some_iff.mp (h.consistent.kindFor?_iff.mpr ⟨_, hm, rfl, (Text.lower_lower token).symm⟩)

/-- The stem of a name and a kind: a dash parts them, and none stands behind it. -/
theorem exists_fileStem (hkind : kind ∈ t.kinds) :
    ∃ token, t.tokenFor? kind = some token ∧ t.Names token kind ∧ token ≠ "" ∧ '-' ∉ token.toList ∧
      ∀ name, t.fileStem name kind = name ++ "-" ++ token := by
  have hlisted : kind ∈ t.mappings.map Prod.snd := List.mem_eraseDups.mp hkind
  obtain ⟨token, hstands, htoken⟩ := exists_standsFor (h.consistent.kind_ne_of_mem hlisted) hlisted
  have hm : (token, kind) ∈ t.mappings := hstands.mem
  have hne : Text.lower token ≠ "" := Text.lower_ne_empty (h.token_ne _ hm)
  refine ⟨Text.lower token, htoken, h.names_lower hm, hne, Text.dash_notMem_lower (h.dash_notMem _ hm), fun name => ?_⟩
  simp only [fileStem, htoken]
  rw [if_neg (by simpa using hne)]

/-- Different names and kinds have different stems. -/
theorem fileStem_inj (hkind : kind ∈ t.kinds) (hkind' : kind' ∈ t.kinds)
    (heq : t.fileStem name kind = t.fileStem name' kind') : name = name' ∧ kind = kind' := by
  obtain ⟨token, -, hnames, -, hdash, hstem⟩ := h.exists_fileStem hkind
  obtain ⟨token', -, hnames', -, hdash', hstem'⟩ := h.exists_fileStem hkind'
  rw [hstem, hstem', ← String.toList_inj] at heq
  simp only [String.toList_append, List.append_assoc] at heq
  obtain ⟨hname, htoken⟩ := Text.append_cons_inj heq hdash hdash'
  obtain rfl := String.toList_inj.mp htoken
  refine ⟨String.toList_inj.mp hname, ?_⟩
  rw [← kindFor?_eq_some_iff] at hnames hnames'
  exact Option.some.inj (hnames.symm.trans hnames')

end Unambiguous

/-- The usual table works both ways. -/
theorem consistent_standard : standard.Consistent :=
  unambiguous_standard.consistent

end KindTable

namespace Filename

def extensions : List String := ["yaml", "yml", "json"]

theorem ascii_of_mem_extensions : ∀ e ∈ extensions, ∀ c ∈ e.toList, c.toNat < 128 := by
  simp [extensions]

theorem isExtension_of_toLower {ext e : String} (he : e ∈ extensions) (hext : ext.toList.map Char.toLower = e.toList) :
    IsExtension ext.toList := by
  refine ⟨e, he, ?_⟩
  rw [← hext, List.forall₂_map_right_iff, List.forall₂_same]
  intro c _
  simp [sameLetter]

/-- A name and a type behind a dash are the parts of the file name that they make up. -/
theorem spells_append {name type ext : String} (hname : '\n' ∉ name.toList) (hne : type ≠ "")
    (hdash : '-' ∉ type.toList) (hext : IsExtension ext.toList) :
    Spells (name ++ "-" ++ type ++ "." ++ ext) ⟨name, some type, ext⟩ := by
  refine ⟨name.toList ++ '-' :: type.toList, ?_, hext, ⟨rfl, hdash, ?_⟩, hname⟩
  · have hbreak := hext.dropFinalBreak_append (name.toList ++ '-' :: type.toList) (.inl rfl)
    rw [List.append_nil] at hbreak
    simpa using hbreak
  · simpa using hne

end Filename

namespace Classification

/-- **File names are read back.** In a table without ambiguous tokens, the stem of every name and kind is read back
with every spelling of an extension, and no other name and kind have this stem. The usual table is one of these. -/
theorem ofFilename_fileStem :
    KindTable.standard.Unambiguous ∧ ∀ t : KindTable, t.Unambiguous →
      (∀ kind ∈ t.kinds, ∀ name : String, '\n' ∉ name.toList → ∀ e ∈ Filename.extensions, ∀ ext : String,
        ext.toList.map Char.toLower = e.toList → ∃ token, t.tokenFor? kind = some token ∧
          ofFilename t (t.fileStem name kind ++ "." ++ ext) = .ok ⟨some name, some token, e, some kind⟩) ∧
      ∀ kind ∈ t.kinds, ∀ kind' ∈ t.kinds, ∀ name name' : String,
        (name, kind) ≠ (name', kind') → t.fileStem name kind ≠ t.fileStem name' kind' := by
  refine ⟨KindTable.unambiguous_standard, fun t ht => ⟨fun kind hkind name hname e he ext hext => ?_, ?_⟩⟩
  · obtain ⟨token, htoken, hnames, hne, hdash, hstem⟩ := ht.exists_fileStem hkind
    refine ⟨token, htoken, ?_⟩
    have hspells := Filename.spells_append hname hne hdash (Filename.isExtension_of_toLower he hext)
    have hlower : Text.lower ext = e := Text.lower_of_ascii hext (Filename.ascii_of_mem_extensions e he)
    rw [hstem, (Says.typed hspells hnames).ofFilename_eq, hlower]
  · intro kind hkind kind' hkind' name name' hne heq
    obtain ⟨hname, hkinds⟩ := ht.fileStem_inj hkind hkind' heq
    exact hne (Prod.ext hname hkinds)

/-- A name that looks like a file name itself, and two stems that begin alike. -/
theorem ofFilename_fileStem_service :
    KindTable.standard.Unambiguous ∧ "Service" ∈ KindTable.standard.kinds ∧ "ConfigMap" ∈ KindTable.standard.kinds ∧
      '\n' ∉ "my-app-cm.yml".toList ∧ "yaml" ∈ Filename.extensions ∧ "YamL".toList.map Char.toLower = "yaml".toList ∧
      (∃ token, KindTable.standard.tokenFor? "Service" = some token ∧
        ofFilename .standard (KindTable.standard.fileStem "my-app-cm.yml" "Service" ++ "." ++ "YamL") =
          .ok ⟨some "my-app-cm.yml", some token, "yaml", some "Service"⟩) ∧
      KindTable.standard.fileStem "my-app-cm" "Service" ≠ KindTable.standard.fileStem "my-app" "ConfigMap" := by
  have hservice : "Service" ∈ KindTable.standard.kinds := by decide +kernel
  have hmap : "ConfigMap" ∈ KindTable.standard.kinds := by decide +kernel
  have hname : '\n' ∉ "my-app-cm.yml".toList := by decide +kernel
  have he : "yaml" ∈ Filename.extensions := by decide
  have hext : "YamL".toList.map Char.toLower = "yaml".toList := by decide +kernel
  obtain ⟨ht, h⟩ := ofFilename_fileStem
  obtain ⟨hread, hdiffer⟩ := h .standard ht
  exact ⟨ht, hservice, hmap, hname, he, hext, hread _ hservice _ hname _ he _ hext,
    hdiffer _ hservice _ hmap _ _ (by decide)⟩

end Classification

end KubeManifest
