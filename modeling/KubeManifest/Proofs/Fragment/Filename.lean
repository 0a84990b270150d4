import KubeManifest.Fragment.Filename
import KubeManifest.Proofs.Text.Cut
import KubeManifest.Proofs.Text.Pattern

/-!
# What file names say

* `Filename.Spells` : the grammar of file names. The last dot parts the stem from the extension, and the last
  dash of the stem the name from the type, if something stands behind it;
* `Filename.split?_eq_some_iff` : the pattern of file names finds the parts of this grammar;
* `KindTable.Names`, `KindTable.kindFor?_eq_some_iff` : the last mention of a token in any case counts;
* `Classification.Says`, `Classification.ofFilename_iff` : what a file name says, and that this is what is read.
-/

namespace KubeManifest

namespace Filename

open Text (Pattern dropFinalBreak)
open Text.Pattern

/-! ## The grammar -/

/-- Extensions of fragments, but for the case of their letters. -/
def IsExtension (ext : List Char) : Prop :=
  ∃ e ∈ ["yaml", "yml", "json"], List.Forall₂ (fun a b => sameLetter a b = true) ext e.toList

/-- The stem of a file name is cut at its last dash if something stands behind it. -/
def StemParts (stem name : List Char) : Option (List Char) → Prop
  | some type => stem = name ++ '-' :: type ∧ '-' ∉ type ∧ type ≠ []
  | none => name = stem ∧ ∀ before after, stem = before ++ '-' :: after → '-' ∉ after → after = []

/-- A file name with certain parts. A line feed at its end does not count, and the name holds none. -/
def Spells (s : String) (p : Parts) : Prop :=
  ∃ stem, dropFinalBreak s.toList = stem ++ '.' :: p.extension.toList ∧ IsExtension p.extension.toList ∧
    StemParts stem p.name.toList (p.type.map String.toList) ∧ '\n' ∉ p.name.toList

theorem notMem_of_sameLetters {c : Char} {ext letters : List Char}
    (h : List.Forall₂ (fun a b => sameLetter a b = true) ext letters) (hc : ∀ b ∈ letters, sameLetter c b = false) :
    c ∉ ext := by
  induction h with
  | nil => exact List.not_mem_nil
  | cons hab _ ih =>
    rw [List.forall_mem_cons] at hc
    rintro (_ | ⟨_, hmem⟩)
    · simp [hc.1] at hab
    · exact ih hc.2 hmem

theorem IsExtension.notMem {ext : List Char} (h : IsExtension ext) {c : Char}
    (hc : (["yaml", "yml", "json"].all fun e => e.toList.all fun b => !sameLetter c b) = true) : c ∉ ext := by
  obtain ⟨e, he, h⟩ := h
  refine notMem_of_sameLetters h fun b hb => ?_
  have hletters := List.all_eq_true.mp hc e he
  simpa using List.all_eq_true.mp hletters b hb

theorem IsExtension.dot_notMem {ext : List Char} (h : IsExtension ext) : '.' ∉ ext :=
  h.notMem (by decide)

theorem IsExtension.break_notMem {ext : List Char} (h : IsExtension ext) : '\n' ∉ ext :=
  h.notMem (by decide)

/-! ## What follows the name -/

def typePart : Option (List Char) → List Char
  | none => []
  | some type => '-' :: type

/-- A text that is a type and an extension, with a line feed at its end or without. -/
structure Ends (cs : List Char) (type : Option (List Char)) (ext brk : List Char) : Prop where
  eq : cs = typePart type ++ '.' :: (ext ++ brk)
  type_ok : ∀ t ∈ type, '-' ∉ t ∧ t ≠ []
  ext_ok : IsExtension ext
  brk_ok : brk = [] ∨ brk = ['\n']

variable {name cs ext brk : List Char} {type : Option (List Char)} {first : Bool} {o : Outcome}

theorem Ends.dot_notMem (h : Ends cs type ext brk) : '.' ∉ ext ++ brk := by
  obtain hbrk | hbrk := h.brk_ok <;> simp [hbrk, h.ext_ok.dot_notMem]

def endsOutcome (type : Option (List Char)) (ext brk : List Char) : Outcome :=
  ⟨typePart type ++ '.' :: ext, brk, (type.map fun t => ("type", t)).toList ++ [("ext", ext)]⟩

theorem mem_outcomes_word {s : String} :
    o ∈ outcomes (word s) first cs ↔
      ∃ taken rest, cs = taken ++ rest ∧ List.Forall₂ (fun a b => sameLetter a b = true) taken s.toList ∧
        o = ⟨taken, rest, []⟩ := by
  simp only [word, mem_outcomes_inTurn, List.forall₂_map_right_iff]

theorem mem_outcomes_typePattern :
    o ∈ outcomes typePattern first cs ↔
      ∃ t rest, cs = '-' :: t ++ rest ∧ ('-' ∉ t ∧ t ≠ []) ∧ o = ⟨'-' :: t, rest, [("type", t)]⟩ := by
  simp only [typePattern, mem_outcomes_char_seq, mem_outcomes_group, mem_outcomes_many]
  constructor
  · rintro ⟨d, _, rfl, hd, _, ⟨_, ⟨c, _, rfl, hc, _, ⟨t, rest, rfl, ht, rfl⟩, rfl⟩, rfl⟩, rfl⟩
    obtain rfl : d = '-' := by simpa using hd
    refine ⟨c :: t, rest, rfl, ⟨?_, List.cons_ne_nil _ _⟩, rfl⟩
    rintro (_ | ⟨_, hmem⟩)
    · simp at hc
    · simpa using ht _ hmem
  · rintro ⟨t, rest, rfl, ⟨hdash, hne⟩, rfl⟩
    obtain ⟨c, t, rfl⟩ := List.exists_cons_of_ne_nil hne
    rw [List.mem_cons, not_or] at hdash
    refine ⟨'-', _, rfl, rfl, _, ⟨_, ⟨c, _, rfl, ?_, _, ⟨t, rest, rfl, ?_, rfl⟩, rfl⟩, rfl⟩, rfl⟩
    · simpa using Ne.symm hdash.1
    · intro d hd
      have hne : d ≠ '-' := fun h => hdash.2 (h ▸ hd)
      simpa using hne

theorem mem_outcomes_extensionPattern :
    o ∈ outcomes extensionPattern first cs ↔
      ∃ ext rest, cs = ext ++ rest ∧ IsExtension ext ∧ o = ⟨ext, rest, [("ext", ext)]⟩ := by
  have hword : ∀ o₁ : Outcome, o₁ ∈ outcomes (.either (word "yaml") (.either (word "yml") (word "json"))) first cs ↔
      ∃ e ∈ ["yaml", "yml", "json"], o₁ ∈ outcomes (word e) first cs := by simp
  simp only [extensionPattern, mem_outcomes_group, hword, mem_outcomes_word]
  constructor
  · rintro ⟨_, ⟨e, he, ext, rest, rfl, hext, rfl⟩, rfl⟩
    exact ⟨ext, rest, rfl, ⟨e, he, hext⟩, rfl⟩
  · rintro ⟨ext, rest, rfl, ⟨e, he, hext⟩, rfl⟩
    exact ⟨_, ⟨e, he, ext, rest, rfl, hext, rfl⟩, rfl⟩

theorem mem_outcomes_extensionPattern_finish :
    o ∈ outcomes (.seq extensionPattern .finish) first cs ↔
      ∃ ext brk, cs = ext ++ brk ∧ IsExtension ext ∧ (brk = [] ∨ brk = ['\n']) ∧ o = ⟨ext, brk, [("ext", ext)]⟩ := by
  simp only [mem_outcomes_seq, mem_outcomes_extensionPattern, mem_outcomes_finish]
  constructor
  · rintro ⟨_, ⟨ext, brk, rfl, hext, rfl⟩, _, ⟨hbrk, rfl⟩, rfl⟩
    exact ⟨ext, brk, rfl, hext, hbrk, by simp [Outcome.followedBy]⟩
  · rintro ⟨ext, brk, rfl, hext, hbrk, rfl⟩
    exact ⟨_, ⟨ext, brk, rfl, hext, rfl⟩, _, ⟨hbrk, rfl⟩, by simp [Outcome.followedBy]⟩

theorem mem_outcomes_ending :
    o ∈ outcomes ending first cs ↔ ∃ type ext brk, Ends cs type ext brk ∧ o = endsOutcome type ext brk := by
  rw [ending, mem_outcomes_seq]
  simp only [mem_outcomes_char_seq, mem_outcomes_maybe, mem_outcomes_typePattern, mem_outcomes_extensionPattern_finish]
  constructor
  · rintro ⟨o₁, h₁, _, ⟨d, _, hrest, hd, _, ⟨ext, brk, rfl, hext, hbrk, rfl⟩, rfl⟩, rfl⟩
    obtain rfl : d = '.' := by simpa using hd
    obtain ⟨t, rest, rfl, ht, rfl⟩ | rfl := h₁
    · obtain rfl : rest = '.' :: (ext ++ brk) := hrest
      refine ⟨some t, ext, brk, ⟨rfl, fun _ h => Option.some.inj h ▸ ht, hext, hbrk⟩, ?_⟩
      simp [Outcome.followedBy, endsOutcome, typePart]
    · obtain rfl : cs = '.' :: (ext ++ brk) := hrest
      exact ⟨none, ext, brk, ⟨rfl, by simp, hext, hbrk⟩, rfl⟩
  · rintro ⟨type, ext, brk, ⟨rfl, ht, hext, hbrk⟩, rfl⟩
    refine ⟨⟨typePart type, '.' :: (ext ++ brk), (type.map fun t => ("type", t)).toList⟩, ?_, _,
      ⟨'.', _, rfl, rfl, _, ⟨ext, brk, rfl, hext, hbrk, rfl⟩, rfl⟩, rfl⟩
    cases type with
    | none => exact .inr rfl
    | some t => exact .inl ⟨t, _, rfl, ht t rfl, rfl⟩

theorem typePart_injective : Function.Injective typePart := by
  intro type type' h
  cases type <;> cases type' <;> simp_all [typePart]

theorem IsExtension.dropFinalBreak_append (h : IsExtension ext) (before : List Char)
    (hbrk : brk = [] ∨ brk = ['\n']) :
    dropFinalBreak (before ++ '.' :: ext ++ brk) = before ++ '.' :: ext := by
  refine Text.dropFinalBreak_append hbrk fun hlast => ?_
  have hmem : '\n' ∈ '.' :: ext := by
    rw [List.getLast?_append_of_ne_nil _ (List.cons_ne_nil _ _)] at hlast
    exact List.mem_of_getLast? hlast
  simp [h.break_notMem] at hmem

theorem IsExtension.append_inj {ext' brk' : List Char} (h : IsExtension ext) (h' : IsExtension ext')
    (hbrk : brk = [] ∨ brk = ['\n']) (hbrk' : brk' = [] ∨ brk' = ['\n']) (heq : ext ++ brk = ext' ++ brk') :
    ext = ext' ∧ brk = brk' := by
  have hext := h.dropFinalBreak_append [] hbrk
  have hext' := h'.dropFinalBreak_append [] hbrk'
  simp only [List.nil_append, List.cons_append, heq] at hext hext'
  have hinj : ext = ext' := (List.cons.inj (hext.symm.trans hext')).2
  exact ⟨hinj, List.append_cancel_left (hinj ▸ heq)⟩

theorem Ends.unique {name' cs' : List Char} {type' : Option (List Char)} {ext' brk' : List Char}
    (h : Ends cs type ext brk) (h' : Ends cs' type' ext' brk') (heq : name ++ cs = name' ++ cs') :
    name ++ typePart type = name' ++ typePart type' ∧ ext = ext' ∧ brk = brk' := by
  rw [h.eq, h'.eq, ← List.append_assoc, ← List.append_assoc] at heq
  obtain ⟨hstem, hrest⟩ := Text.append_cons_inj heq h.dot_notMem h'.dot_notMem
  exact ⟨hstem, h.ext_ok.append_inj h'.ext_ok h.brk_ok h'.brk_ok hrest⟩

/-- There is one way at most to read a type and an extension, so what is preferred does not matter. -/
theorem head?_ending :
    (outcomes ending first cs).head? = some o ↔
      ∃ type ext brk, Ends cs type ext brk ∧ o = endsOutcome type ext brk := by
  have houtcomes : o ∈ outcomes ending first cs ↔ _ := mem_outcomes_ending
  rw [← houtcomes]
  refine ⟨List.mem_of_mem_head?, fun hmem => ?_⟩
  obtain ⟨o', ho'⟩ : ∃ o', (outcomes ending first cs).head? = some o' := by
    rw [← Option.isSome_iff_exists, List.isSome_head?]
    simpa using List.ne_nil_of_mem hmem
  obtain ⟨type, ext, brk, h, rfl⟩ := mem_outcomes_ending.mp hmem
  obtain ⟨type', ext', brk', h', rfl⟩ := mem_outcomes_ending.mp (List.mem_of_mem_head? ho')
  obtain ⟨htype, rfl, rfl⟩ := h.unique h' (show [] ++ cs = [] ++ cs from rfl)
  obtain rfl := typePart_injective htype
  exact ho'

theorem outcomes_ending_eq_nil :
    outcomes ending first cs = [] ↔ ∀ type ext brk, ¬ Ends cs type ext brk := by
  simp only [List.eq_nil_iff_forall_not_mem, mem_outcomes_ending]
  exact ⟨fun h type ext brk he => h _ ⟨type, ext, brk, he, rfl⟩, fun h o ⟨type, ext, brk, he, _⟩ => h type ext brk he⟩

/-! ## The whole name -/

/-- The pattern takes the shortest name that a type and an extension can follow. -/
theorem run_pattern_eq_some {text : List Char} :
    run pattern text = some o ↔
      ∃ name cs type ext brk, text = name ++ cs ∧ '\n' ∉ name ∧ Ends cs type ext brk ∧
        o = (Outcome.mk name cs [("name", name)]).followedBy (endsOutcome type ext brk) ∧
        ∀ name' cs' type' ext' brk', text = name' ++ cs' → Ends cs' type' ext' brk' → name.length ≤ name'.length := by
  rw [run, pattern, outcomes_start_seq, head?_few_seq]
  have hname : ∀ name : List Char, (∀ c ∈ name, (c != '\n') = true) ↔ '\n' ∉ name := by
    intro name
    simp only [bne_iff_ne]
    exact ⟨fun h hmem => h _ hmem rfl, fun h c hc heq => h (heq ▸ hc)⟩
  simp only [hname, head?_ending, outcomes_ending_eq_nil]
  constructor
  · rintro ⟨name, cs, _, rfl, hn, ⟨type, ext, brk, he, rfl⟩, rfl, hmin⟩
    refine ⟨name, cs, type, ext, brk, rfl, hn, he, rfl, fun name' cs' type' ext' brk' h he' => ?_⟩
    exact Nat.not_lt.mp fun hlt => hmin name' cs' h hlt type' ext' brk' he'
  · rintro ⟨name, cs, type, ext, brk, rfl, hn, he, rfl, hmin⟩
    exact ⟨name, cs, _, rfl, hn, ⟨type, ext, brk, he, rfl⟩, rfl, fun name' cs' h hlt type' ext' brk' he' =>
      absurd (hmin name' cs' type' ext' brk' h he') (Nat.not_le.mpr hlt)⟩

/-- The parts that the outcome of the pattern stands for. -/
theorem parts_eq (name cs : List Char) (type : Option (List Char)) (ext brk : List Char) :
    let o := (Outcome.mk name cs [("name", name)]).followedBy (endsOutcome type ext brk)
    (⟨(o.group? "name").getD "", o.group? "type", (o.group? "ext").getD ""⟩ : Parts) =
      ⟨String.ofList name, type.map String.ofList, String.ofList ext⟩ := by
  cases type <;> rfl

/-- The grammar cuts a stem where the name is shortest. -/
theorem stemParts_iff {stem : List Char} :
    StemParts stem name type ↔
      stem = name ++ typePart type ∧ (∀ t ∈ type, '-' ∉ t ∧ t ≠ []) ∧
        ∀ name' type', stem = name' ++ typePart type' → (∀ t ∈ type', '-' ∉ t ∧ t ≠ []) →
          name.length ≤ name'.length := by
  constructor
  · intro h
    cases type with
    | none =>
      obtain ⟨rfl, hdash⟩ := h
      refine ⟨(List.append_nil _).symm, by simp, fun name' type' heq ht => ?_⟩
      cases type' with
      | none => simp [heq, typePart]
      | some t => exact absurd (hdash _ _ heq (ht t rfl).1) (ht t rfl).2
    | some t =>
      obtain ⟨rfl, hdash, hne⟩ := h
      refine ⟨rfl, fun _ ht => Option.some.inj ht ▸ ⟨hdash, hne⟩, fun name' type' heq ht' => ?_⟩
      cases type' with
      | none =>
        rw [typePart, List.append_nil] at heq
        simp [← heq]
      | some t' => exact (Text.append_cons_inj heq hdash (ht' t' rfl).1).1 ▸ Nat.le_refl _
  · rintro ⟨rfl, ht, hmin⟩
    cases type with
    | none =>
      refine ⟨(List.append_nil _).symm, fun before after heq hdash => ?_⟩
      by_contra hne
      have hlen := hmin before (some after) heq fun _ h => Option.some.inj h ▸ ⟨hdash, hne⟩
      have hname := congrArg List.length heq
      simp [typePart] at hname
      omega
    | some t => exact ⟨rfl, ht t rfl⟩

theorem split?_eq_some_iff {s : String} {p : Parts} : split? s = some p ↔ Spells s p := by
  have hsplit : split? s = some p ↔ ∃ o, run pattern s.toList = some o ∧
      (⟨(o.group? "name").getD "", o.group? "type", (o.group? "ext").getD ""⟩ : Parts) = p := by
    simp [split?, Option.bind_eq_some_iff]
  rw [hsplit]
  constructor
  · rintro ⟨o, hrun, rfl⟩
    obtain ⟨name, cs, type, ext, brk, htext, hname, he, rfl, hmin⟩ := run_pattern_eq_some.mp hrun
    rw [parts_eq]
    have hstem : s.toList = name ++ typePart type ++ '.' :: ext ++ brk := by simp [htext, he.eq]
    refine ⟨name ++ typePart type, ?_, ?_, ?_, ?_⟩
    · rw [hstem, he.ext_ok.dropFinalBreak_append _ he.brk_ok, String.toList_ofList]
    · simpa using he.ext_ok
    · have htype : (type.map String.ofList).map String.toList = type := by cases type <;> simp
      rw [htype, String.toList_ofList, stemParts_iff]
      refine ⟨rfl, he.type_ok, fun name' type' heq ht => ?_⟩
      exact hmin name' (typePart type' ++ '.' :: (ext ++ brk)) type' ext brk (by simp [hstem, heq])
        ⟨rfl, ht, he.ext_ok, he.brk_ok⟩
    · simpa using hname
  · rintro ⟨stem, htext, hext, hstem, hname⟩
    obtain ⟨brk, hbrk, hs⟩ := Text.exists_eq_dropFinalBreak_append s.toList
    obtain ⟨rfl, htype, hmin⟩ := stemParts_iff.mp hstem
    rw [htext] at hs
    have he : Ends (typePart (p.type.map String.toList) ++ '.' :: (p.extension.toList ++ brk))
        (p.type.map String.toList) p.extension.toList brk := ⟨rfl, htype, hext, hbrk⟩
    refine ⟨_, run_pattern_eq_some.mpr ⟨p.name.toList, _, _, _, _, by simp [hs], hname, he, rfl, ?_⟩, ?_⟩
    · intro name' cs' type' ext' brk' heq he'
      have hcs : p.name.toList ++ (typePart (p.type.map String.toList) ++ '.' :: (p.extension.toList ++ brk)) =
          name' ++ cs' := by simp [← heq, hs]
      exact hmin name' type' (he.unique he' hcs).1 he'.type_ok
    · rw [parts_eq]
      have htype' : (p.type.map String.toList).map String.ofList = p.type := by cases p.type <;> simp
      simp [htype']

end Filename

/-! ## Kinds of tokens -/

/-- A token names a kind by its last mention in any case. The empty token names none. -/
def KindTable.Names (t : KindTable) (token kind : String) : Prop :=
  token ≠ "" ∧ ∃ before other after, t.mappings = before ++ (other, kind) :: after ∧
    Text.lower other = Text.lower token ∧ ∀ later ∈ after, Text.lower later.1 ≠ Text.lower token

theorem KindTable.kindFor?_eq_some_iff {t : KindTable} {token kind : String} :
    t.kindFor? token = some kind ↔ t.Names token kind := by
  unfold KindTable.kindFor? KindTable.Names
  by_cases h : token = ""
  · simp [h]
  · simp only [beq_iff_eq, if_neg h, Option.map_eq_some_iff, List.find?_eq_some_iff_append]
    constructor
    · rintro ⟨⟨other, kind⟩, ⟨heq, before, after, hsplit, hlater⟩, rfl⟩
      refine ⟨h, after.reverse, other, before.reverse, ?_, by simpa using heq, fun later hm => ?_⟩
      · simpa using congrArg List.reverse hsplit
      · simpa using hlater later (List.mem_reverse.mp hm)
    · rintro ⟨-, before, other, after, hsplit, heq, hlater⟩
      refine ⟨(other, kind),
        ⟨by simpa using heq, after.reverse, before.reverse, by simp [hsplit], fun later hm => ?_⟩, rfl⟩
      simpa using hlater later (List.mem_reverse.mp hm)

theorem KindTable.kindFor?_eq_none_iff {t : KindTable} {token : String} :
    t.kindFor? token = none ↔ ∀ kind, ¬ t.Names token kind := by
  simp only [← KindTable.kindFor?_eq_some_iff, Option.eq_none_iff_forall_ne_some, ne_eq]

namespace Classification

/-! ## What a file name says -/

/-- What a file name says about the resource inside, or why it says nothing. -/
inductive Says (kinds : KindTable) (s : String) : Except Failure Classification → Prop
  | malformed (h : ∀ p, ¬ Filename.Spells s p) : Says kinds s (.error (.badFilename s))
  | typed {name token ext kind : String} (h : Filename.Spells s ⟨name, some token, ext⟩)
      (hkind : kinds.Names token kind) : Says kinds s (.ok ⟨some name, some token, Text.lower ext, some kind⟩)
  | unknown {name token ext : String} (h : Filename.Spells s ⟨name, some token, ext⟩)
      (hkind : ∀ kind, ¬ kinds.Names token kind) : Says kinds s (.error (.unknownToken token s kinds.tokens))
  | token {name ext kind : String} (h : Filename.Spells s ⟨name, none, ext⟩) (hkind : kinds.Names name kind) :
      Says kinds s (.ok ⟨none, none, Text.lower ext, some kind⟩)
  | named {name ext : String} (h : Filename.Spells s ⟨name, none, ext⟩) (hkind : ∀ kind, ¬ kinds.Names name kind) :
      Says kinds s (.ok ⟨some name, none, Text.lower ext, none⟩)

variable {kinds : KindTable} {s : String}

theorem says_ofFilename : Says kinds s (ofFilename kinds s) := by
  unfold ofFilename
  cases hs : Filename.split? s with
  | none =>
    refine .malformed fun p hp => ?_
    rw [Filename.split?_eq_some_iff.mpr hp] at hs
    contradiction
  | some p =>
    have hp := Filename.split?_eq_some_iff.mp hs
    obtain ⟨name, type, ext⟩ := p
    cases type with
    | some token =>
      cases hk : kinds.kindFor? token with
      | some kind => simpa only [hk] using Says.typed hp (KindTable.kindFor?_eq_some_iff.mp hk)
      | none => simpa only [hk] using Says.unknown hp (KindTable.kindFor?_eq_none_iff.mp hk)
    | none =>
      cases hk : kinds.kindFor? name with
      | some kind => simpa only [hk] using Says.token hp (KindTable.kindFor?_eq_some_iff.mp hk)
      | none => simpa only [hk] using Says.named hp (KindTable.kindFor?_eq_none_iff.mp hk)

theorem Says.ofFilename_eq {r : Except Failure Classification} (h : Says kinds s r) : ofFilename kinds s = r := by
  unfold ofFilename
  cases h with
  | malformed h =>
    have hs : Filename.split? s = none :=
      Option.eq_none_iff_forall_ne_some.mpr fun p hp => h p (Filename.split?_eq_some_iff.mp hp)
    rw [hs]
  | typed h hkind => simp only [Filename.split?_eq_some_iff.mpr h, KindTable.kindFor?_eq_some_iff.mpr hkind]
  | unknown h hkind => simp only [Filename.split?_eq_some_iff.mpr h, KindTable.kindFor?_eq_none_iff.mpr hkind]
  | token h hkind => simp only [Filename.split?_eq_some_iff.mpr h, KindTable.kindFor?_eq_some_iff.mpr hkind]
  | named h hkind => simp only [Filename.split?_eq_some_iff.mpr h, KindTable.kindFor?_eq_none_iff.mpr hkind]

/-- **A file name is read by its grammar.** It has one reading at most, which the pattern finds, and what is said of
the resource follows from it and the table of kinds. -/
theorem ofFilename_iff (kinds : KindTable) (s : String) :
    (∀ p, Filename.split? s = some p ↔ Filename.Spells s p) ∧ ∀ r, ofFilename kinds s = r ↔ Says kinds s r :=
  ⟨fun _ => Filename.split?_eq_some_iff, fun _ => ⟨fun h => h ▸ says_ofFilename, Says.ofFilename_eq⟩⟩

example : ofFilename .standard "my-app.v2-SVC.Yml\n" = .ok ⟨some "my-app.v2", some "SVC", "yml", some "Service"⟩ := by
  rfl

end Classification
end KubeManifest
