import KubeManifest.Proofs.Fragment.FileStem
import KubeManifest.Proofs.Fragment.Renumber
import KubeManifest.Text.Decode

/-!
# Extensions and readers

The letters of an extension are compared but for their case, under which the long `s` is an `s`, and the reader of a
fragment is chosen by the lower case of the extension. The long `s` is its own lower case, and so the two do not agree
on it.

* `Filename.IsWord`, `Filename.lower_of_isWord`, `Filename.lower_of_long` : words but for the case of their letters, and
  their lower case without and with a long `s`;
* `Fragment.Reader`, `Fragment.ReadBy` : the readers of values, and which of them reads the files of an extension;
* `Classification.ofFilename_readBy` : the reader of a file whose name is accepted.
-/

namespace KubeManifest

/-! ## The long `s` -/

namespace Text

theorem long_notMem_capitals : ∀ r ∈ capitals, ¬r.contains 'ſ'.toNat = true := by
  unfold capitals
  apply Letters.words (P := fun words => ∀ r ∈ words.map CaseRun.ofHex, ¬r.contains 'ſ'.toNat = true)
  · repeat' apply Letters.append
    all_goals apply Letters.ofList
  · decide +kernel

theorem isLower_long : IsLower 'ſ' := by
  refine ⟨?_, by decide, by decide⟩
  rw [lowerChar, if_neg (by decide), List.find?_eq_none.mpr long_notMem_capitals]

end Text

namespace Filename

variable {ext : String} {e : String}

/-- A word but for the case of its letters. -/
def IsWord (word : String) (ext : List Char) : Prop :=
  List.Forall₂ (fun a b => sameLetter a b = true) ext word.toList

/-- Without a long `s`, the lower case of an extension is the word that it is. -/
theorem lower_of_isWord (he : e ∈ extensions) (h : IsWord e ext.toList) (hlong : 'ſ' ∉ ext.toList) :
    Text.lower ext = e := by
  refine Text.lower_of_ascii ?_ (ascii_of_mem_extensions e he)
  have hletters : ∀ {cs ds : List Char}, List.Forall₂ (fun a b => sameLetter a b = true) cs ds → 'ſ' ∉ cs →
      cs.map Char.toLower = ds := by
    intro cs ds h hcs
    induction h with
    | nil => rfl
    | @cons a b _ _ hab _ ih =>
      obtain ⟨ha, hcs⟩ := not_or.mp (mt List.mem_cons.mpr hcs)
      have hlower : a.toLower = b := by simpa [sameLetter, Ne.symm ha] using hab
      rw [List.map_cons, hlower, ih hcs]
  exact hletters h hlong

/-- With a long `s`, the lower case of an extension is none of the words. -/
theorem lower_of_long (hlong : 'ſ' ∈ ext.toList) : Text.lower ext ∉ extensions := by
  intro hmem
  have hlower : 'ſ' ∈ (Text.lower ext).toList := by
    rw [Text.lower, String.toList_ofList]
    exact Text.mem_lowerAfter_of_isLower Text.isLower_long hlong
  have hascii := ascii_of_mem_extensions _ hmem 'ſ' hlower
  exact absurd hascii (by decide)

theorem isWord_iff (he : e ∈ extensions) (h : IsWord e ext.toList) (hlong : 'ſ' ∉ ext.toList) :
    IsWord "json" ext.toList ↔ e = "json" := by
  refine ⟨fun hjson => ?_, fun heq => heq ▸ h⟩
  rw [← lower_of_isWord he h hlong]
  exact lower_of_isWord (by decide) hjson hlong

/-- Only `json` can be spelled with a long `s`. -/
theorem IsExtension.isWord_of_long (h : IsExtension ext.toList) (hlong : 'ſ' ∈ ext.toList) :
    IsWord "json" ext.toList := by
  obtain ⟨e, he, h⟩ := h
  by_cases hjson : e = "json"
  · exact hjson ▸ h
  · have hall : e.toList.all (fun b => !sameLetter 'ſ' b) = true := by
      simp only [List.mem_cons, List.not_mem_nil, or_false, hjson] at he
      rcases he with rfl | rfl <;> decide
    exact absurd hlong (notMem_of_sameLetters h (by simpa using hall))

end Filename

/-! ## Readers -/

namespace Fragment

inductive Reader
  | json
  | yaml
deriving DecidableEq

def Reader.read (reader : Reader) (document : Nat) (path : String) (text : List Char) : Except Failure Value :=
  match reader with
  | .json => ofJson path text
  | .yaml => (Yaml.readOne (.styled document) text).mapError (Yaml.Fault.failure (.unparsable path .badYaml))

/-- Whether a reader gives the values of the files with an extension. -/
def ReadBy (reader : Reader) (extension : String) : Prop :=
  ∀ files document path bytes text, Files.read files path = .ok bytes → Text.decode? bytes = some text →
    ofFile files document path extension =
      reader.read document path.text (Text.dropMark text) >>= entriesOf path.text

def readerFor (extension : String) : Reader :=
  if Text.lower extension = "json" then .json else .yaml

theorem readBy_readerFor (extension : String) : ReadBy (readerFor extension) extension := by
  intro files document path bytes text hread hdecode
  rw [ofFile, hread]
  dsimp only
  rw [hdecode]
  dsimp only
  rw [ofText_eq, valueOf, readerFor]
  by_cases h : Text.lower extension = "json" <;> simp [h, Reader.read]

/-- A text that is no JSON. -/
theorem read_json_letter (document : Nat) (path : String) : ∃ message,
    (Reader.json.read document path ['a'] >>= entriesOf path) = .error (.unparsable path (.badJson message)) :=
  ⟨_, rfl⟩

/-- Only the reader for JSON says what is wrong. -/
theorem read_yaml_ne (document : Nat) (path message : String) (text : List Char) :
    (Reader.yaml.read document path text >>= entriesOf path) ≠ .error (.unparsable path (.badJson message)) := by
  rw [Reader.read]
  cases Yaml.readOne (.styled document) text with
  | error fault => cases fault <;> nofun
  | ok v =>
    intro h
    cases v with
    | scalar s mark => cases s <;> cases h
    | list items mark => cases h
    | map fs mark => cases h

/-- No two readers read the same values, so an extension has one. -/
theorem readBy_iff {reader : Reader} {extension : String} :
    ReadBy reader extension ↔ reader = readerFor extension := by
  refine ⟨fun h => ?_, fun h => h ▸ readBy_readerFor extension⟩
  let files : Files := { contents := [(["work", "a"], "a".toUTF8)] }
  have hread : files.read ⟨"", ["a"]⟩ = .ok "a".toUTF8 := rfl
  have hdecode : Text.decode? "a".toUTF8 = some ['a'] := Text.decode?_toUTF8 (by decide)
  have heq := (h files 0 _ _ _ hread hdecode).symm.trans (readBy_readerFor extension files 0 _ _ _ hread hdecode)
  obtain ⟨message, hjson⟩ := read_json_letter 0 (Path.text ⟨"", ["a"]⟩)
  cases reader <;> cases hreader : readerFor extension
  · rfl
  · rw [hreader] at heq
    exact absurd (heq.symm.trans hjson) (read_yaml_ne _ _ _ _)
  · rw [hreader] at heq
    exact absurd (heq.trans hjson) (read_yaml_ne _ _ _ _)
  · rfl

end Fragment

/-! ## Accepted file names -/

namespace Classification

variable {kinds : KindTable} {s : String} {c : Classification}

theorem exists_spells (h : ofFilename kinds s = .ok c) :
    ∃ p, Filename.Spells s p ∧ c.extension = Text.lower p.extension := by
  have hsays : Says kinds s (.ok c) := h ▸ says_ofFilename
  cases hsays with
  | typed hspells => exact ⟨_, hspells, rfl⟩
  | token hspells => exact ⟨_, hspells, rfl⟩
  | named hspells => exact ⟨_, hspells, rfl⟩

/-- **An accepted file is read by the reader of its extension, unless that has a long `s`.** Without one the extension
is one of the three, and the file is read as JSON exactly if the extension is `json` but for the case of its letters.
With one it is such a `json`, but none of the three, and the file is read as YAML. -/
theorem ofFilename_readBy {kinds : KindTable} {s : String} {c : Classification} (h : ofFilename kinds s = .ok c) :
    ∃ p, Filename.Spells s p ∧
      ('ſ' ∉ p.extension.toList → c.extension ∈ Filename.extensions ∧
        (Fragment.ReadBy .json c.extension ↔ Filename.IsWord "json" p.extension.toList) ∧
        (Fragment.ReadBy .yaml c.extension ↔ ¬Filename.IsWord "json" p.extension.toList)) ∧
      ('ſ' ∈ p.extension.toList → c.extension ∉ Filename.extensions ∧
        Filename.IsWord "json" p.extension.toList ∧
        Fragment.ReadBy .yaml c.extension ∧ ¬Fragment.ReadBy .json c.extension) := by
  obtain ⟨p, hspells, hlower⟩ := exists_spells h
  have hextension : Filename.IsExtension p.extension.toList := by
    obtain ⟨-, -, hextension, -, -⟩ := hspells
    exact hextension
  rw [Fragment.readBy_iff, Fragment.readBy_iff, Fragment.readerFor, hlower, Text.lower_lower]
  refine ⟨p, hspells, fun hlong => ?_, fun hlong => ?_⟩
  · obtain ⟨e, he, hword⟩ := hextension
    rw [Filename.isWord_iff he hword hlong, Filename.lower_of_isWord he hword hlong]
    refine ⟨he, ?_, ?_⟩ <;> by_cases hjson : e = "json" <;> simp [hjson]
  · have hlower := Filename.lower_of_long hlong
    have hjson : Text.lower p.extension ≠ "json" := fun heq => hlower (heq ▸ by decide)
    rw [if_neg hjson]
    exact ⟨hlower, hextension.isWord_of_long hlong, rfl, by decide⟩

/-- A name that is accepted, with a long `s` in its extension. -/
theorem ofFilename_readBy_long :
    ofFilename .standard "a.Jſon" = .ok ⟨some "a", none, Text.lower "Jſon", none⟩ ∧
      Filename.Spells "a.Jſon" ⟨"a", none, "Jſon"⟩ ∧ Text.lower "Jſon" ∉ Filename.extensions ∧
      Filename.IsWord "json" "Jſon".toList ∧ Fragment.ReadBy .yaml (Text.lower "Jſon") ∧
      ¬Fragment.ReadBy .json (Text.lower "Jſon") := by
  have hsplit : Filename.split? "a.Jſon" = some ⟨"a", none, "Jſon"⟩ := by decide +kernel
  have hkind : KindTable.standard.kindFor? "a" = none := by decide +kernel
  have hspells := Filename.split?_eq_some_iff.mp hsplit
  have hread := (Says.named hspells (KindTable.kindFor?_eq_none_iff.mp hkind)).ofFilename_eq
  obtain ⟨p, hp, -, hlong⟩ := ofFilename_readBy hread
  obtain rfl : ⟨"a", none, "Jſon"⟩ = p := Option.some.inj (hsplit.symm.trans (Filename.split?_eq_some_iff.mpr hp))
  exact ⟨hread, hspells, hlong (by decide)⟩

end Classification

end KubeManifest
