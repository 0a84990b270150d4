import KubeManifest.Build.ImageName
import KubeManifest.Proofs.Fragment.Filename

/-!
# Names of images put together again

A colon may stand before a tag, before a port or in a digest, a slash behind a registry or in a repository, and any
part may be empty. Yet a name is cut in one way only, and its parts give it back.

* `ImageName.base`, `ImageName.text` : registry and repository, and the whole name, as they are written;
* `ImageName.Spells`, `ImageName.ValidTag`, `ImageName.RegistryParts` : the grammar of names;
* `ImageName.parse_of_spells`, `ImageName.parse_eq_error_iff` : a name is read as this grammar cuts it;
* `ImageName.parse_text` : what was read is read again from its parts;
* `ImageName.parse_lossless` : nothing of a name is lost.
-/

namespace KubeManifest

namespace ImageName

variable {cs before path repository : List Char} {tag digest registry : Option (List Char)} {s : String} {n : ImageName}

def base (n : ImageName) : String :=
  match n.registry with
  | some registry => registry ++ "/" ++ n.repository
  | none => n.repository

def text (n : ImageName) : String :=
  n.base ++ (n.tag.map (":" ++ ·)).getD "" ++ (n.digest.map ("@" ++ ·)).getD ""

/-! ## The grammar -/

/-- What stands before the digest. It follows the first at sign. -/
def DigestParts (cs before : List Char) : Option (List Char) → Prop
  | some digest => cs = before ++ '@' :: digest ∧ '@' ∉ before
  | none => before = cs ∧ '@' ∉ cs

/-- What stands before the tag. It follows the last colon, if no slash stands behind that. -/
def TagParts (cs path : List Char) : Option (List Char) → Prop
  | some tag => cs = path ++ ':' :: tag ∧ ':' ∉ tag ∧ '/' ∉ tag
  | none => path = cs ∧ ∀ before after, cs = before ++ ':' :: after → '/' ∈ after

/-- A name, what stands in it before tag and digest, and these two. -/
def Spells (cs path : List Char) (tag digest : Option (List Char)) : Prop :=
  ∃ before, DigestParts cs before digest ∧ TagParts before path tag

/-- The letters of a tag: a character of words, and up to 127 more of them, dots and dashes. -/
structure TagLetters (first : Char) (rest : List Char) : Prop where
  first : Text.isWord first = true
  length : rest.length ≤ 127
  rest : ∀ c ∈ rest, Text.isWord c = true ∨ c = '.' ∨ c = '-'

/-- Whether a text is a tag. A line feed at its end does not count. -/
def ValidTag (tag : List Char) : Prop :=
  ∃ first rest brk, (brk = [] ∨ brk = ['\n']) ∧ tag = first :: rest ++ brk ∧ TagLetters first rest

/-- The first part of a name is a registry if it has a dot or a colon, or is this machine. -/
def NamesRegistry (part : List Char) : Prop :=
  '.' ∈ part ∨ ':' ∈ part ∨ part = "localhost".toList

/-- The repository of a name, and its registry if its first part names one. -/
def RegistryParts (path repository : List Char) : Option (List Char) → Prop
  | some registry => path = registry ++ '/' :: repository ∧ '/' ∉ registry ∧ NamesRegistry registry
  | none => repository = path ∧ ∀ first rest, path = first ++ '/' :: rest → '/' ∉ first → ¬NamesRegistry first

theorem digestParts_iff : DigestParts cs before digest ↔ cutDigest cs = (before, digest) := by
  unfold cutDigest
  cases hcut : Text.cutFirst? '@' cs with
  | none =>
    have hno : '@' ∉ cs := Text.cutFirst?_eq_none_iff.mp hcut
    cases digest with
    | none => simp [DigestParts, hno, eq_comm]
    | some digest =>
      refine iff_of_false ?_ (by simp)
      rintro ⟨rfl, -⟩
      simp at hno
  | some p =>
    obtain ⟨before', digest'⟩ := p
    cases digest with
    | none =>
      obtain ⟨rfl, -⟩ := Text.cutFirst?_eq_some hcut
      simp [DigestParts]
    | some digest =>
      rw [DigestParts, ← Text.cutFirst?_eq_some_iff, hcut]
      simp

/-- Where the last colon is known, so is whether it begins a tag. -/
theorem tagParts_append {last : List Char} (h : ':' ∉ last) :
    TagParts (before ++ ':' :: last) path tag ↔
      if '/' ∈ last then path = before ++ ':' :: last ∧ tag = none else path = before ∧ tag = some last := by
  cases tag with
  | none =>
    have hlast : (∀ before' after, before ++ ':' :: last = before' ++ ':' :: after → '/' ∈ after) ↔ '/' ∈ last := by
      refine ⟨fun hall => hall before last rfl, fun hslash before' after heq => ?_⟩
      exact (Text.suffix_of_append_cons heq h).subset hslash
    rw [TagParts, hlast]
    split <;> simp [*]
  | some tag =>
    have htag : before ++ ':' :: last = path ++ ':' :: tag ∧ ':' ∉ tag ↔ path = before ∧ tag = last := by
      constructor
      · rintro ⟨heq, htag⟩
        obtain ⟨rfl, rfl⟩ := Text.append_cons_inj heq h htag
        exact ⟨rfl, rfl⟩
      · rintro ⟨rfl, rfl⟩
        exact ⟨rfl, h⟩
    rw [TagParts, ← and_assoc, htag]
    split <;> grind

theorem tagParts_iff : TagParts cs path tag ↔ cutTag cs = (path, tag) := by
  unfold cutTag
  cases hcut : Text.cutLast? ':' cs with
  | none =>
    have hno : ':' ∉ cs := Text.cutLast?_eq_none hcut
    cases tag with
    | none =>
      refine ⟨fun h => by rw [h.1], fun h => ⟨(Prod.mk.inj h).1.symm, ?_⟩⟩
      rintro before after rfl
      simp at hno
    | some tag =>
      refine iff_of_false ?_ (by simp)
      rintro ⟨rfl, -⟩
      simp at hno
  | some p =>
    obtain ⟨before, last⟩ := p
    obtain ⟨rfl, hcolon⟩ := Text.cutLast?_eq_some hcut
    rw [tagParts_append hcolon]
    by_cases hslash : '/' ∈ last <;> simp [hslash, eq_comm]

theorem namesRegistry_iff {part : List Char} : isRegistry part = true ↔ NamesRegistry part := by
  simp [isRegistry, NamesRegistry, or_assoc]

theorem registryParts_iff : RegistryParts path repository registry ↔ cutRegistry path = (registry, repository) := by
  unfold cutRegistry
  cases hcut : Text.cutFirst? '/' path with
  | none =>
    have hno : '/' ∉ path := Text.cutFirst?_eq_none_iff.mp hcut
    cases registry with
    | none =>
      refine ⟨fun h => by rw [h.1], fun h => ⟨(Prod.mk.inj h).2.symm, ?_⟩⟩
      rintro first rest rfl
      simp at hno
    | some registry =>
      refine iff_of_false ?_ (by simp)
      rintro ⟨rfl, -⟩
      simp at hno
  | some p =>
    obtain ⟨first, rest⟩ := p
    -- the first slash is one place, so what stands before it is either a registry or not
    have hfirst : ∀ first' rest', path = first' ++ '/' :: rest' ∧ '/' ∉ first' ↔ first' = first ∧ rest' = rest := by
      intro first' rest'
      rw [← Text.cutFirst?_eq_some_iff, hcut]
      simp [eq_comm]
    have hnone : (∀ first' rest', path = first' ++ '/' :: rest' → '/' ∉ first' → ¬NamesRegistry first') ↔
        ¬NamesRegistry first := by
      constructor
      · intro hall
        obtain ⟨heq, hno⟩ := (hfirst first rest).mpr ⟨rfl, rfl⟩
        exact hall first rest heq hno
      · intro hnot first' rest' heq hno
        obtain ⟨rfl, -⟩ := (hfirst first' rest').mp ⟨heq, hno⟩
        exact hnot
    cases registry with
    | none =>
      rw [RegistryParts, hnone, ← namesRegistry_iff]
      dsimp only
      split
      · simp [*]
      · simp [*, eq_comm (a := repository)]
    | some registry =>
      rw [RegistryParts, ← and_assoc, hfirst, ← namesRegistry_iff]
      dsimp only
      split
      · grind
      · grind

theorem tagLetters_iff {first : Char} {rest : List Char} :
    ((first :: rest).head?.any Text.isWord && (first :: rest).length ≤ maxTag &&
      (first :: rest).all fun c => Text.isWord c || c == '.' || c == '-') = true ↔ TagLetters first rest := by
  have hmax : (first :: rest).length ≤ maxTag ↔ rest.length ≤ 127 := Nat.succ_le_succ_iff
  simp only [Bool.and_eq_true, decide_eq_true_eq, hmax, List.all_cons, List.all_eq_true, Bool.or_eq_true, beq_iff_eq,
    List.head?_cons, Option.any_some, or_assoc]
  constructor
  · rintro ⟨⟨hfirst, hlength⟩, -, hrest⟩
    exact ⟨hfirst, hlength, hrest⟩
  · rintro ⟨hfirst, hlength, hrest⟩
    exact ⟨⟨hfirst, hlength⟩, .inl hfirst, hrest⟩

theorem validTag_iff {tag : List Char} : isTag tag = true ↔ ValidTag tag := by
  constructor
  · intro h
    obtain ⟨brk, hbrk, heq⟩ := Text.exists_eq_dropFinalBreak_append tag
    unfold isTag at h
    cases hbody : Text.dropFinalBreak tag with
    | nil =>
      rw [hbody] at h
      cases h
    | cons first rest =>
      rw [hbody] at h heq
      exact ⟨first, rest, brk, hbrk, heq, tagLetters_iff.mp h⟩
  · rintro ⟨first, rest, brk, hbrk, rfl, hletters⟩
    have hbreak : Text.isWord '\n' = false := by decide
    have hlast : (first :: rest).getLast? ≠ some '\n' := by
      intro hlast
      obtain ⟨hfirst, -, hrest⟩ := hletters
      rcases List.mem_cons.mp (List.mem_of_getLast? hlast) with rfl | hmem
      · simp [hbreak] at hfirst
      · simpa [hbreak] using hrest _ hmem
    unfold isTag
    rw [Text.dropFinalBreak_append hbrk hlast]
    exact tagLetters_iff.mpr hletters

/-! ## Reading -/

theorem spells_iff : Spells cs path tag digest ↔ (cutDigest cs).2 = digest ∧ cutTag (cutDigest cs).1 = (path, tag) := by
  simp only [Spells, digestParts_iff, tagParts_iff]
  constructor
  · rintro ⟨before, hdigest, htag⟩
    rw [hdigest]
    exact ⟨rfl, htag⟩
  · rintro ⟨rfl, htag⟩
    exact ⟨_, rfl, htag⟩

/-- What is read of a name by what stands before tag and digest, and by these two. -/
def ofParts (path : List Char) (tag digest : Option (List Char)) : ImageName where
  repository := String.ofList (cutRegistry path).2
  registry := (cutRegistry path).1.map String.ofList
  tag := tagFor tag digest
  digest := digest.map String.ofList

theorem parse_of_spells (hs : s ≠ "") (h : Spells s.toList path tag digest) :
    parse s = if tag.all isTag then .ok (ofParts path tag digest)
      else .error (.badConfig none (.badTag (String.ofList (tag.getD [])) s)) := by
  obtain ⟨rfl, htag⟩ := spells_iff.mp h
  unfold parse
  rw [if_neg (by simpa using hs)]
  dsimp only
  rw [htag]
  cases hvalid : tag.all isTag <;> simp [ofParts]

theorem spells_cut (cs : List Char) :
    Spells cs (cutTag (cutDigest cs).1).1 (cutTag (cutDigest cs).1).2 (cutDigest cs).2 :=
  spells_iff.mpr ⟨rfl, rfl⟩

theorem parse_empty : parse "" = .error (.badConfig none .emptyImageName) := rfl

theorem ne_empty_of_spells {tag : List Char} (h : Spells s.toList path (some tag) digest) : s ≠ "" := by
  rintro rfl
  obtain ⟨-, htag⟩ := spells_iff.mp h
  cases htag

/-- A name is refused if it is empty or its tag is not valid. -/
theorem parse_eq_error_iff {e : Failure} : parse s = .error e ↔
    (s = "" ∧ e = .badConfig none .emptyImageName) ∨
      ∃ path tag digest, Spells s.toList path (some tag) digest ∧ ¬ValidTag tag ∧
        e = .badConfig none (.badTag (String.ofList tag) s) := by
  constructor
  · intro h
    by_cases hs : s = ""
    · subst hs
      exact .inl ⟨rfl, (Except.error.inj (parse_empty.symm.trans h)).symm⟩
    · have hspells := spells_cut s.toList
      rw [parse_of_spells hs hspells] at h
      split at h
      · cases h
      · rename_i hvalid
        cases htag : (cutTag (cutDigest s.toList).1).2 with
        | none => simp [htag] at hvalid
        | some tag =>
          rw [htag] at h hspells hvalid
          rw [Option.all_some, validTag_iff] at hvalid
          exact .inr ⟨_, tag, _, hspells, hvalid, (Except.error.inj h).symm⟩
  · rintro (⟨rfl, rfl⟩ | ⟨path, tag, digest, hspells, hvalid, rfl⟩)
    · exact parse_empty
    · rw [parse_of_spells (ne_empty_of_spells hspells) hspells, if_neg]
      · rfl
      · rwa [Option.all_some, validTag_iff]

/-- What is read is put together of the parts of the name. -/
theorem exists_of_parse_eq_ok (h : parse s = .ok n) : ∃ path tag digest, s ≠ "" ∧
    Spells s.toList path tag digest ∧ tag.all isTag = true ∧ n = ofParts path tag digest := by
  have hs : s ≠ "" := by
    rintro rfl
    cases h
  rw [parse_of_spells hs (spells_cut s.toList)] at h
  split at h
  · rename_i hvalid
    exact ⟨_, _, _, hs, spells_cut s.toList, hvalid, (Except.ok.inj h).symm⟩
  · cases h

/-! ## Putting together -/

variable (path) (tag digest)

theorem toList_base : (ofParts path tag digest).base.toList = path := by
  have hparts : RegistryParts path (cutRegistry path).2 (cutRegistry path).1 := registryParts_iff.mpr rfl
  unfold base ofParts
  cases hregistry : (cutRegistry path).1 with
  | none =>
    rw [hregistry] at hparts
    simp [hparts.1]
  | some registry =>
    rw [hregistry] at hparts
    simp [← hparts.1]

theorem registry_ofParts (registry : String) : (ofParts path tag digest).registry = some registry ↔
    ∃ rest, path = registry.toList ++ '/' :: rest ∧ '/' ∉ registry.toList ∧ NamesRegistry registry.toList := by
  constructor
  · intro h
    obtain ⟨letters, hletters, rfl⟩ := Option.map_eq_some_iff.mp h
    have hparts : RegistryParts path (cutRegistry path).2 (some letters) := registryParts_iff.mpr (by rw [← hletters])
    rw [String.toList_ofList]
    exact ⟨_, hparts⟩
  · rintro ⟨rest, hparts⟩
    have hcut : cutRegistry path = (some registry.toList, rest) := registryParts_iff.mp hparts
    simp [ofParts, hcut]

variable {path} {tag digest}

theorem Spells.eq_written (h : Spells cs path tag digest) :
    cs = path ++ (tag.map (':' :: ·)).getD [] ++ (digest.map ('@' :: ·)).getD [] := by
  obtain ⟨before, hdigest, htag⟩ := h
  have hbefore : before = path ++ (tag.map (':' :: ·)).getD [] := by
    cases tag with
    | none => simp [htag.1]
    | some tag => exact htag.1
  cases digest with
  | none => simp [← hdigest.1, hbefore]
  | some digest =>
    rw [hdigest.1, hbefore]
    rfl

theorem toList_text (n : ImageName) : n.text.toList = n.base.toList ++
    ((n.tag.map String.toList).map (':' :: ·)).getD [] ++ ((n.digest.map String.toList).map ('@' :: ·)).getD [] := by
  unfold text
  cases n.tag <;> cases n.digest <;> simp

/-- The parts of a name with a tag or a digest give it back. -/
theorem text_ofParts (h : Spells s.toList path tag digest) (hstated : ¬(tag = none ∧ digest = none)) :
    (ofParts path tag digest).text = s := by
  have htag : (tagFor tag digest).map String.toList = tag := by
    rw [tagFor, if_neg (by simpa using hstated)]
    simp [Function.comp_def]
  have hdigest : (digest.map String.ofList).map String.toList = digest := by
    simp [Function.comp_def]
  rw [← String.toList_inj, h.eq_written, toList_text, toList_base]
  exact congrArg₂ (fun t d => path ++ (Option.map (':' :: ·) t).getD [] ++ (Option.map ('@' :: ·) d).getD []) htag
    hdigest

/-- Without a tag and a digest a name is all that stands before them. -/
theorem base_ofParts (h : Spells s.toList path none none) : (ofParts path none none).base = s := by
  rw [← String.toList_inj, toList_base, h.eq_written]
  simp

/-- A name without tag and digest can get a tag. -/
theorem Spells.tagged {tag : List Char} (h : Spells cs path none none) (hat : '@' ∉ tag) (hcolon : ':' ∉ tag)
    (hslash : '/' ∉ tag) : Spells (path ++ ':' :: tag) path (some tag) none := by
  obtain ⟨before, ⟨rfl, hno⟩, rfl, -⟩ := h
  exact ⟨_, ⟨rfl, by simp [hno, hat]⟩, rfl, hcolon, hslash⟩

/-- A name that was read is read again from its parts. -/
theorem parse_text (h : parse s = .ok n) : parse n.text = .ok n := by
  obtain ⟨path, tag, digest, hs, hspells, hvalid, rfl⟩ := exists_of_parse_eq_ok h
  by_cases hstated : tag = none ∧ digest = none
  · obtain ⟨rfl, rfl⟩ := hstated
    have htext : (ofParts path none none).text.toList = path ++ ':' :: "latest".toList := by
      rw [toList_text, toList_base]
      simp [ofParts, tagFor, defaultTag]
    have hlatest : Spells (ofParts path none none).text.toList path (some "latest".toList) none := by
      rw [htext]
      exact hspells.tagged (by decide) (by decide) (by decide)
    have hvalid : (some "latest".toList).all isTag = true := by decide
    rw [parse_of_spells (ne_empty_of_spells hlatest) hlatest, if_pos hvalid]
    rfl
  · rwa [text_ofParts hspells hstated]

/-- **Reading the name of an image loses nothing.** It is refused exactly if it is empty, or what follows the last colon
of the part before the digest, with no slash behind that, is not a valid tag. Else the parts put together give the name,
but for the tag `latest` of a name that has neither tag nor digest; the registry is the first of several parts
separated by slashes, if that has a dot or a colon or is this machine; and the parts are read again from the name that
they make. -/
theorem parse_lossless (s : String) :
    (∀ e, parse s = .error e ↔ (s = "" ∧ e = .badConfig none .emptyImageName) ∨
      ∃ path tag digest, Spells s.toList path (some tag) digest ∧ ¬ValidTag tag ∧
        e = .badConfig none (.badTag (String.ofList tag) s)) ∧
    ∀ n, parse s = .ok n →
      (∃ tag, Spells s.toList n.base.toList tag (n.digest.map String.toList) ∧
        if tag = none ∧ n.digest = none then s = n.base ∧ n.tag = some "latest"
        else s = n.text ∧ n.tag = tag.map String.ofList) ∧
      (∀ registry, n.registry = some registry ↔ ∃ rest, n.base.toList = registry.toList ++ '/' :: rest ∧
        '/' ∉ registry.toList ∧ NamesRegistry registry.toList) ∧
      parse n.text = .ok n := by
  refine ⟨fun e => parse_eq_error_iff, fun n h => ⟨?_, fun registry => ?_, parse_text h⟩⟩
  · obtain ⟨path, tag, digest, -, hspells, -, rfl⟩ := exists_of_parse_eq_ok h
    refine ⟨tag, ?_, ?_⟩
    · rw [toList_base]
      simpa [ofParts, Function.comp_def] using hspells
    · by_cases hstated : tag = none ∧ digest = none
      · obtain ⟨rfl, rfl⟩ := hstated
        rw [if_pos ⟨rfl, rfl⟩]
        exact ⟨(base_ofParts hspells).symm, rfl⟩
      · rw [if_neg (by simpa [ofParts] using hstated)]
        exact ⟨(text_ofParts hspells hstated).symm, by rw [ofParts, tagFor, if_neg (by simpa using hstated)]⟩
  · obtain ⟨path, tag, digest, -, -, -, rfl⟩ := exists_of_parse_eq_ok h
    rw [registry_ofParts, toList_base]

/-- A registry with a port, a colon in the repository and one in the digest. -/
example : parse "localhost:5000/a:b:1.0@sha256:c" = .ok {
    repository := "a:b", registry := some "localhost:5000", tag := some "1.0", digest := some "sha256:c" } := by
  rfl

end ImageName

end KubeManifest
