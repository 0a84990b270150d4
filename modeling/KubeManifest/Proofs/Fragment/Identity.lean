import KubeManifest.Proofs.Fragment.Filename
import KubeManifest.Proofs.Fragment.Mentioned
import KubeManifest.Proofs.Results
import KubeManifest.Proofs.Value.Entries

/-!
# What enriching keeps

Enriching gives a fragment a kind, a version, and metadata with a name, each where it is vacant, and leaves all else in
its place. The one exception is a mapping that is mentioned twice: where the mapping of the metadata stands under other
keys as well, it has the new name there, too.

* `Versions.Given`, `Versions.exists_apiVersion` : versions that are not blank, one of which every kind has;
* `Fragment.Filled` : values that are filled where they are vacant;
* `Fragment.Identified` : what is known of an enriched fragment;
* `Fragment.enrich_cases` : when a fragment cannot be enriched, and what it is otherwise.
-/

namespace KubeManifest

/-! ## Kinds of file names, and versions -/

theorem KindTable.Names.mem {kinds : KindTable} {token kind : String} (h : kinds.Names token kind) :
    ∃ other, (other, kind) ∈ kinds.mappings := by
  obtain ⟨-, before, other, after, hsplit, -⟩ := h
  exact ⟨other, by simp [hsplit]⟩

theorem Classification.isBlankText_kind {kinds : KindTable}
    (hkinds : ∀ m ∈ kinds.mappings, Text.isBlankText m.2 = false) {filename : String} {info : Classification}
    (h : ofFilename kinds filename = .ok info) : ∀ k ∈ info.kind, Text.isBlankText k = false := by
  have hnames : ∀ {token kind : String}, kinds.Names token kind → ∀ k ∈ some kind, Text.isBlankText k = false := by
    rintro token kind hkind _ ⟨⟩
    obtain ⟨other, hmem⟩ := hkind.mem
    exact hkinds _ hmem
  have hsays : Says kinds filename (.ok info) := h ▸ says_ofFilename
  cases hsays with
  | typed _ hkind => exact hnames hkind
  | token _ hkind => exact hnames hkind
  | named _ _ => simp

theorem KindTable.isBlankText_standard : ∀ m ∈ KindTable.standard.mappings, Text.isBlankText m.2 = false := by
  decide +kernel

/-- Versions that are texts, none of them blank. -/
structure Versions.Given (versions : Versions) : Prop where
  core : ∃ s, versions.core.text? = some s ∧ Text.isBlankText s = false
  extensions : ∃ s, versions.extensions.text? = some s ∧ Text.isBlankText s = false
  apps : ∃ s, versions.apps.text? = some s ∧ Text.isBlankText s = false

theorem Versions.given_default : Versions.Given {} :=
  ⟨⟨"v1", rfl, rfl⟩, ⟨"extensions/v1beta1", rfl, rfl⟩, ⟨"apps/v1beta1", rfl, rfl⟩⟩

/-- A kind without parts belongs to some group. -/
theorem Versions.exists_apiVersion (versions : Versions) {kind : Value} (hkind : kind.isScalar = true) :
    ∃ version, versions.apiVersion kind = .ok version ∧
      (version = versions.core ∨ version = versions.extensions ∨ version = versions.apps) := by
  unfold apiVersion
  rw [hkind, if_neg (by decide)]
  split
  · exact ⟨_, rfl, .inr (.inl rfl)⟩
  · split
    · exact ⟨_, rfl, .inr (.inr rfl)⟩
    · exact ⟨_, rfl, .inl rfl⟩

theorem Versions.Given.apiVersion {versions : Versions} (h : versions.Given) {kind : Value}
    (hkind : kind.isScalar = true) :
    ∃ version s, versions.apiVersion kind = .ok version ∧ version.text? = some s ∧ Text.isBlankText s = false := by
  obtain ⟨version, hversion, rfl | rfl | rfl⟩ := versions.exists_apiVersion hkind
  · obtain ⟨s, hs⟩ := h.core
    exact ⟨_, s, hversion, hs⟩
  · obtain ⟨s, hs⟩ := h.extensions
    exact ⟨_, s, hversion, hs⟩
  · obtain ⟨s, hs⟩ := h.apps
    exact ⟨_, s, hversion, hs⟩

namespace Fragment

open Value
open Fields (Grows)

/-! ## Filling -/

variable {fs e ms : Fields} {v : Value} {name s : String}

@[simp] theorem text?_inPlaceOf (old new : Value) : (inPlaceOf old new).text? = new.text? := by
  unfold inPlaceOf
  split <;> rfl

theorem isVacant_of_text? (h : v.text? = some s) : isVacant v = Text.isBlankText s := by
  obtain ⟨style, mark, rfl⟩ := text?_eq_some_iff.mp h
  rfl

/-- A value that is filled with a text if it is vacant, and kept otherwise. -/
structure Filled (R : Value → Value → Prop) (text : Option String) (old new : Value) : Prop where
  given : isVacant new = false
  kept : isVacant old = false → R old new
  filled : isVacant old = true → new.text? = text

theorem filled_fill (h : isVacant (Fields.get fs name) = true → ∃ s, v.text? = some s ∧ Text.isBlankText s = false) :
    Filled Eq v.text? (Fields.get fs name) (Fields.get (fill fs name v) name) := by
  rw [fill_eq]
  split
  · rename_i hvacant
    obtain ⟨s, hs, hblank⟩ := h hvacant
    rw [Fields.get_set_self]
    refine ⟨?_, fun hgiven => ?_, fun _ => text?_inPlaceOf _ _⟩
    · rw [isVacant_of_text? (s := s) (by rw [text?_inPlaceOf, hs]), hblank]
    · rw [hvacant] at hgiven
      cases hgiven
  · rename_i hgiven
    rw [Bool.not_eq_true] at hgiven
    refine ⟨hgiven, fun _ => rfl, fun hvacant => ?_⟩
    rw [hgiven] at hvacant
    cases hvacant

theorem grows_fill (fs : Fields) (name : String) (v : Value) : Grows Eq [name] fs (fill fs name v) := by
  rw [fill_eq]
  split
  · exact Fields.grows_set fs name _
  · exact Fields.grows_refl _ fs

theorem get_fill_ne {other : String} (h : name ≠ other) : Fields.get (fill fs name v) other = Fields.get fs other := by
  rw [Fields.get, Fields.get, find?_fill_ne h]

theorem grows_replaceEntries (names : List String) (origin : Origin) (new fs : Fields) :
    Grows (fun v w => w = replaceAt origin new v) names fs (replaceEntries origin new fs) where
  keys := ⟨[], List.nil_sublist names, by simp, by simp [map_fst_replaceEntries]⟩
  values i k v hi _ := by
    refine ⟨replaceAt origin new v, ?_, rfl⟩
    rw [replaceEntries_eq, List.getElem?_map, hi]
    rfl

/-! ## Enriching -/

/-- A value under some key before and after enriching: it is the same, unless the mapping of the metadata is mentioned
in it. Then that mapping has its new entries there, too. -/
structure Keeps (e : Fields) (v w : Value) : Prop where
  same_iff : w = v ↔ ∀ new mark, Fields.get e "metadata" = .map new (some mark) → ¬ v.Outdated mark.origin new
  replaced : ∀ new mark, Fields.get e "metadata" = .map new (some mark) → w = replaceAt mark.origin new v

theorem keeps_refl {new : Fields} (h : Fields.get e "metadata" = .ofFields new) (v : Value) : Keeps e v v where
  same_iff := by simp [h]
  replaced := by simp [h]

theorem keeps_replaceAt {new : Fields} {mark : Mark} (h : Fields.get e "metadata" = .map new (some mark)) (v : Value) :
    Keeps e v (replaceAt mark.origin new v) where
  same_iff := by
    rw [replaceAt_eq_self_iff]
    simp [h]
  replaced := by
    simp [h]

def metadataOf (fs : Fields) : Fields :=
  (Fields.get fs "metadata").fields?.getD []

theorem metadataOf_of_get {mark : Option Mark} (h : Fields.get fs "metadata" = .map ms mark) : metadataOf fs = ms := by
  rw [metadataOf, h]
  rfl

/-- An enriched fragment: kind, version and name are given, all else is kept in its order. -/
structure Identified (kind version : Option String) (name : String) (fs e : Fields) : Prop where
  kind : Filled Eq kind (Fields.get fs "kind") (Fields.get e "kind")
  version : Filled (Keeps e) version (Fields.get fs "apiVersion") (Fields.get e "apiVersion")
  metadata : (Fields.get e "metadata").isMap = true
  name : Filled Eq (some name) (Fields.get (metadataOf fs) "name") (Fields.get (metadataOf e) "name")
  members : Grows Eq ["name"] (metadataOf fs) (metadataOf e)
  entries : Grows (Keeps e) ["kind", "apiVersion", "metadata"] fs e

structure Titled (kind version : Option String) (fs header : Fields) : Prop where
  kind : Filled Eq kind (Fields.get fs "kind") (Fields.get header "kind")
  kindText : ∃ s, (Fields.get header "kind").text? = some s
  version : Filled Eq version (Fields.get fs "apiVersion") (Fields.get header "apiVersion")
  metadata : Fields.get header "metadata" = Fields.get fs "metadata"
  entries : Grows Eq ["kind", "apiVersion"] fs header

theorem Titled.identified {kind version : Option String} {header : Fields} {mark : Option Mark}
    (h : Titled kind version fs header) (hname : Text.isBlankText name = false)
    (hkind : Fields.get e "kind" = Fields.get header "kind")
    (hversion : Keeps e (Fields.get header "apiVersion") (Fields.get e "apiVersion"))
    (hvacant : isVacant (Fields.get e "apiVersion") = isVacant (Fields.get header "apiVersion"))
    (htext : (Fields.get e "apiVersion").text? = (Fields.get header "apiVersion").text?)
    (hmetadata : Fields.get e "metadata" = .map (fill (metadataOf fs) "name" (.ofString name)) mark)
    (hentries : Grows (Keeps e) ["metadata"] header e) : Identified kind version name fs e where
  kind := hkind ▸ h.kind
  version := by
    refine ⟨hvacant.trans h.version.given, fun hgiven => ?_, fun hold => htext.trans (h.version.filled hold)⟩
    rw [h.version.kept hgiven]
    exact hversion
  metadata := by rw [hmetadata]; rfl
  name := by
    rw [metadataOf_of_get hmetadata]
    exact filled_fill (v := .ofString name) fun _ => ⟨name, rfl, hname⟩
  members := by
    rw [metadataOf_of_get hmetadata]
    exact grows_fill _ _ _
  entries := h.entries.trans hentries

/-- A name for metadata that are mentioned once, or for new ones. -/
theorem Titled.identified_set {kind version : Option String} {header : Fields} (h : Titled kind version fs header)
    (hname : Text.isBlankText name = false) :
    Identified kind version name fs
      (Fields.set header "metadata" (.ofFields (fill (metadataOf fs) "name" (.ofString name)))) := by
  have hget : ∀ other, "metadata" ≠ other → ∀ v,
      Fields.get (Fields.set header "metadata" v) other = Fields.get header other :=
    fun other hne v => Fields.get_set_ne header v hne
  have hmetadata := Fields.get_set_self header "metadata" (.ofFields (fill (metadataOf fs) "name" (.ofString name)))
  have hkeeps := keeps_refl hmetadata
  refine h.identified hname (hget _ (by decide) _) ?_ ?_ ?_ hmetadata ((Fields.grows_set _ _ _).mono ?_)
  · rw [hget _ (by decide)]
    exact hkeeps _
  · rw [hget _ (by decide)]
  · rw [hget _ (by decide)]
  · rintro v _ rfl
    exact hkeeps v

/-- A name for metadata wherever their mapping is mentioned. -/
theorem Titled.identified_replace {kind version : Option String} {header : Fields} {mark : Mark}
    (h : Titled kind version fs header) (hname : Text.isBlankText name = false)
    (hms : Fields.get fs "metadata" = .map ms (some mark)) :
    Identified kind version name fs (replaceEntries mark.origin (fill ms "name" (.ofString name)) header) := by
  obtain rfl : ms = metadataOf fs := (metadataOf_of_get hms).symm
  have hget := get_replaceEntries mark.origin (fill (metadataOf fs) "name" (.ofString name)) header
  have hmetadata := hget "metadata"
  rw [h.metadata, hms, replaceAt, if_pos (by simp)] at hmetadata
  have hkeeps := keeps_replaceAt hmetadata
  obtain ⟨s, hs⟩ := h.kindText
  refine h.identified hname ?_ ?_ ?_ ?_ hmetadata ((grows_replaceEntries _ _ _ _).mono ?_)
  · rw [hget, replaceAt_of_text? hs]
  · rw [hget]
    exact hkeeps _
  · rw [hget, isVacant_replaceAt]
  · rw [hget, text?_replaceAt]
  · rintro v _ rfl
    exact hkeeps v

/-! ## Kinds and versions -/

/-- Whether a file name or a fragment gives a kind. -/
def HasKind (info : Classification) (fs : Fields) : Prop :=
  info.kind ≠ none ∨ isVacant (Fields.get fs "kind") = false

/-- Whether the metadata of a fragment are a mapping, or can become one. -/
def HasMetadata (fs : Fields) : Prop :=
  (Fields.get fs "metadata").isNull = true ∨ (Fields.get fs "metadata").isMap = true

/-- The kind whose group decides the version: that of the file name, or else that of the fragment. -/
def decidingKind (info : Classification) (fs : Fields) : Value :=
  (info.kind.map Value.ofString).getD (Fields.get fs "kind")

/-- Whether the kind of a fragment is left open or a text. -/
def TextKind (fs : Fields) : Prop :=
  (Fields.get fs "kind").isNull = true ∨ ∃ s, (Fields.get fs "kind").text? = some s

variable {info : Classification} {versions : Versions} {filename defaultName : String}

theorem text?_impliedKind (info : Classification) : (impliedKind info).text? = info.kind := by
  unfold impliedKind
  cases info.kind <;> rfl

theorem isNull_impliedKind (info : Classification) : (impliedKind info).isNull = info.kind.isNone := by
  unfold impliedKind
  cases info.kind <;> rfl

theorem isNull_statedKind (fs : Fields) : (statedKind fs).isNull = isVacant (Fields.get fs "kind") := by
  unfold statedKind
  dsimp only
  split
  · rename_i h
    rw [h]
    rfl
  · rename_i h
    rw [Bool.not_eq_true] at h
    rw [h]
    cases hv : Fields.get fs "kind" with
    | scalar s mark =>
      rw [hv] at h
      cases s with
      | null => cases h
      | _ => rfl
    | _ => rfl

theorem hasKind_iff : HasKind info fs ↔ ((impliedKind info).isNull && (statedKind fs).isNull) = false := by
  rw [isNull_impliedKind, isNull_statedKind, Bool.and_eq_false_iff, HasKind, Option.isNone_eq_false_iff,
    Option.isSome_iff_ne_none]

theorem orElse_statedKind (hinfo : ∀ k ∈ info.kind, Text.isBlankText k = false) (h : HasKind info fs) :
    (impliedKind info).orElse (statedKind fs) = decidingKind info fs := by
  unfold impliedKind decidingKind
  cases hk : info.kind with
  | none =>
    have hgiven : isVacant (Fields.get fs "kind") = false := h.resolve_left (absurd hk)
    change statedKind fs = Fields.get fs "kind"
    unfold statedKind
    dsimp only
    rw [hgiven]
    rfl
  | some k =>
    have hne : k ≠ "" := by
      rintro rfl
      cases hinfo "" hk
    exact if_pos (bne_iff_ne.mpr hne)

theorem isScalar_decidingKind (info : Classification) (htext : TextKind fs) :
    (decidingKind info fs).isScalar = true := by
  unfold decidingKind
  cases info.kind with
  | some k => rfl
  | none =>
    rcases htext with h | ⟨s, h⟩
    · obtain ⟨mark, h⟩ := isNull_iff.mp h
      exact h ▸ rfl
    · obtain ⟨style, mark, h⟩ := text?_eq_some_iff.mp h
      exact h ▸ rfl

/-! ## Outcomes -/

theorem isBlankText_nameFor (info : Classification) (h : Text.isBlankText defaultName = false) :
    Text.isBlankText (nameFor info defaultName) = false := by
  unfold nameFor
  split
  · split
    · exact h
    · rename_i hgiven
      rwa [Bool.not_eq_true] at hgiven
  · exact h

theorem nameFor_eq (info : Classification) (defaultName : String) :
    nameFor info defaultName = (info.name.filter fun name => !Text.isBlankText name).getD defaultName := by
  unfold nameFor
  cases info.name with
  | none => rfl
  | some name => cases h : Text.isBlankText name <;> simp [h, Option.filter]

theorem titled_fill (hinfo : ∀ k ∈ info.kind, Text.isBlankText k = false) (htext : TextKind fs)
    (hkind : HasKind info fs) {version : Value} (hversion : version.text? = some s ∧ Text.isBlankText s = false) :
    Titled info.kind version.text? fs (fill (fill fs "kind" (impliedKind info)) "apiVersion" version) := by
  have hfilled :
      Filled Eq info.kind (Fields.get fs "kind") (Fields.get (fill fs "kind" (impliedKind info)) "kind") := by
    rw [← text?_impliedKind info]
    refine filled_fill fun hvacant => ?_
    obtain ⟨k, hk⟩ := Option.ne_none_iff_exists'.mp (hkind.resolve_right (by simp [hvacant]))
    exact ⟨k, by rw [text?_impliedKind, hk], hinfo k hk⟩
  have hkeep : Fields.get (fill fs "kind" (impliedKind info)) "apiVersion" = Fields.get fs "apiVersion" :=
    get_fill_ne (by decide)
  refine ⟨?_, ?_, ?_, ?_, (grows_fill fs "kind" _).trans (grows_fill _ "apiVersion" version)⟩
  · rwa [get_fill_ne (by decide)]
  · rw [get_fill_ne (by decide)]
    cases hvacant : isVacant (Fields.get fs "kind") with
    | true =>
      obtain ⟨k, hk⟩ := Option.ne_none_iff_exists'.mp (hkind.resolve_right (by simp [hvacant]))
      exact ⟨k, (hfilled.filled hvacant).trans hk⟩
    | false =>
      rw [← hfilled.kept hvacant]
      refine htext.resolve_left fun hnull => ?_
      obtain ⟨mark, hnull⟩ := isNull_iff.mp hnull
      rw [hnull] at hvacant
      cases hvacant
  · rw [← hkeep]
    exact filled_fill fun _ => ⟨s, hversion⟩
  · rw [get_fill_ne (by decide), get_fill_ne (by decide)]

theorem enrich_of_not_hasKind (h : ¬ HasKind info fs) :
    enrich versions info filename defaultName fs = .error (.noKind filename) := by
  rw [enrich_eq, if_pos]
  rwa [hasKind_iff, Bool.not_eq_false] at h

/-- Once there is a kind, the metadata decide. -/
theorem enrich_of_hasKind (filename defaultName : String) (hinfo : ∀ k ∈ info.kind, Text.isBlankText k = false)
    (hversions : versions.Given) (htext : TextKind fs) (h : HasKind info fs) :
    ∃ version header, versions.apiVersion (decidingKind info fs) = .ok version ∧
      Titled info.kind version.text? fs header ∧
      enrich versions info filename defaultName fs =
        nameMetadata filename (.ofString (nameFor info defaultName)) header := by
  obtain ⟨version, s, hversion, hs⟩ := hversions.apiVersion (isScalar_decidingKind info htext)
  refine ⟨version, _, hversion, titled_fill hinfo htext h hs, ?_⟩
  rw [enrich_eq, if_neg (by rw [hasKind_iff.mp h]; decide), orElse_statedKind hinfo h, hversion]
  rfl

theorem Titled.nameMetadata_of_not_hasMetadata {kind version : Option String} {header : Fields}
    (h : Titled kind version fs header) (hmetadata : ¬ HasMetadata fs) :
    nameMetadata filename (.ofString name) header =
      .error (.badMetadata filename (Fields.get fs "metadata").kindName) := by
  unfold nameMetadata
  rw [h.metadata]
  cases hv : Fields.get fs "metadata" with
  | scalar s mark =>
    cases s with
    | null => exact absurd (.inl (by rw [hv]; rfl)) hmetadata
    | _ => rfl
  | list items mark => rfl
  | map ms mark => exact absurd (.inr (by rw [hv]; rfl)) hmetadata

theorem Titled.exists_nameMetadata {kind version : Option String} {header : Fields} (h : Titled kind version fs header)
    (filename : String) (hname : Text.isBlankText name = false) (hmetadata : HasMetadata fs) :
    ∃ e, nameMetadata filename (.ofString name) header = .ok e ∧ Identified kind version name fs e := by
  unfold nameMetadata
  rw [h.metadata]
  cases hv : Fields.get fs "metadata" with
  | scalar s mark =>
    cases s with
    | null =>
      have hof : metadataOf fs = [] := by rw [metadataOf, hv]; rfl
      exact ⟨_, rfl, hof ▸ h.identified_set hname⟩
    | _ => rcases hmetadata with hnot | hnot <;> rw [hv] at hnot <;> cases hnot
  | list items mark => rcases hmetadata with hnot | hnot <;> rw [hv] at hnot <;> cases hnot
  | map ms mark =>
    cases mark with
    | none => exact ⟨_, rfl, metadataOf_of_get hv ▸ h.identified_set hname⟩
    | some m => exact ⟨_, rfl, h.identified_replace hname hv⟩

/-- **Enriching gives identity and leaves all else in its place.** Without a kind it fails, then without room for
metadata, and for no other reason. -/
theorem enrich_cases {kinds : KindTable} (hkinds : ∀ m ∈ kinds.mappings, Text.isBlankText m.2 = false)
    (hinfo : Classification.ofFilename kinds filename = .ok info) (hversions : versions.Given)
    (hdefault : Text.isBlankText defaultName = false) (htext : TextKind fs) :
    (enrich versions info filename defaultName fs = .error (.noKind filename) ↔ ¬ HasKind info fs) ∧
    (enrich versions info filename defaultName fs = .error (.badMetadata filename (Fields.get fs "metadata").kindName) ↔
      HasKind info fs ∧ ¬ HasMetadata fs) ∧
    ((∃ e, enrich versions info filename defaultName fs = .ok e) ↔ HasKind info fs ∧ HasMetadata fs) ∧
    ∀ e, enrich versions info filename defaultName fs = .ok e →
      ∃ version, versions.apiVersion (decidingKind info fs) = .ok version ∧
        Identified info.kind version.text? ((info.name.filter fun name => !Text.isBlankText name).getD defaultName)
          fs e := by
  have hblank := Classification.isBlankText_kind hkinds hinfo
  rw [← nameFor_eq]
  by_cases hkind : HasKind info fs
  · obtain ⟨version, header, hversion, htitled, henrich⟩ := enrich_of_hasKind filename defaultName hblank
      hversions htext hkind
    rw [henrich]
    by_cases hmetadata : HasMetadata fs
    · obtain ⟨e, he, hidentified⟩ := htitled.exists_nameMetadata filename (isBlankText_nameFor info hdefault) hmetadata
      rw [he]
      refine ⟨by simp [hkind], by simp [hmetadata], by simp [hkind, hmetadata], ?_⟩
      rintro _ ⟨⟩
      exact ⟨version, hversion, hidentified⟩
    · rw [htitled.nameMetadata_of_not_hasMetadata hmetadata]
      simp [hkind, hmetadata]
  · rw [enrich_of_not_hasKind hkind]
    simp [hkind]

/-- Labels and more, at a place that has a name. -/
def labelled (rest : Fields) : Value :=
  .map ((.ofString "labels", .ofFields [(.ofString "x", .ofString "y")]) :: rest) (some ⟨⟨0, 10⟩, some "m"⟩)

/-- Metadata that are mentioned a second time get their name there, too. -/
theorem enrich_cases_mentioned :
    (∀ m ∈ KindTable.standard.mappings, Text.isBlankText m.2 = false) ∧
    Classification.ofFilename .standard "a-cm.yml" = .ok ⟨some "a", some "cm", "yml", some "ConfigMap"⟩ ∧
    Versions.Given {} ∧ Text.isBlankText "foo" = false ∧
    TextKind [(.ofString "metadata", labelled []), (.ofString "data", labelled [])] ∧
    ∃ e, enrich {} ⟨some "a", some "cm", "yml", some "ConfigMap"⟩ "a-cm.yml" "foo"
        [(.ofString "metadata", labelled []), (.ofString "data", labelled [])] = .ok e ∧
      Identified (some "ConfigMap") (some "v1") "a"
        [(.ofString "metadata", labelled []), (.ofString "data", labelled [])] e ∧
      Fields.find? e "data" = some (labelled [(.ofString "name", .ofString "a")]) := by
  have hinfo : Classification.ofFilename .standard "a-cm.yml" =
      .ok ⟨some "a", some "cm", "yml", some "ConfigMap"⟩ := rfl
  have hdefault : Text.isBlankText "foo" = false := rfl
  have htext : TextKind [(.ofString "metadata", labelled []), (.ofString "data", labelled [])] := .inl rfl
  obtain ⟨-, -, -, h⟩ := enrich_cases KindTable.isBlankText_standard hinfo Versions.given_default hdefault htext
  obtain ⟨version, hversion, hidentified⟩ := h _ rfl
  obtain rfl := Except.ok.inj hversion
  exact ⟨KindTable.isBlankText_standard, hinfo, Versions.given_default, hdefault, htext, _, rfl, hidentified, rfl⟩

end Fragment

end KubeManifest
