import KubeManifest.Proofs.Text.Cut
import KubeManifest.Url.Basic
import Mathlib.Data.List.TakeDrop
import Mathlib.Data.List.TakeWhile

/-!
# Authorities of addresses

An address is refused for its authority alone, wherever that stands, and its port for the letters of it.

* `Url.IsScheme`, `Url.HasAuthority` : schemes, and the authority of an address;
* `Url.HasHost`, `Url.Parts` : what stands behind the user of an authority, and the host and the port there;
* `Url.Unsound`, `Url.Unfit` : what is wrong with an authority, and with a port;
* `Url.split?_eq_none_iff` : the addresses that have no parts;
* `Url.port_eq_error_iff_of_split?` : the addresses whose port is a fault.
-/

namespace KubeManifest.Url

variable {c : Char} {cs name before rest authority part host tail port : List Char}

/-! ## The grammar -/

structure IsScheme (name : List Char) : Prop where
  head : ∃ c ∈ name.head?, c.isAlpha = true
  letters : ∀ c ∈ name, isSchemeChar c = true

def endsAuthority (c : Char) : Bool :=
  c == '/' || c == '?' || c == '#'

/-- An authority stands between two slashes, which follow the scheme or begin the address, and the next character that
ends it. -/
def HasAuthority (cs authority : List Char) : Prop :=
  ∃ before rest, cs = before ++ '/' :: '/' :: (authority ++ rest) ∧
    (before = [] ∨ ∃ name, IsScheme name ∧ before = name ++ [':']) ∧
    (∀ c ∈ authority, endsAuthority c = false) ∧ ∀ c ∈ rest.head?, endsAuthority c = true

/-- What stands in an authority behind the user. -/
inductive HasHost (authority : List Char) : List Char → Prop
  | alone (h : '@' ∉ authority) : HasHost authority authority
  | user {name part : List Char} (h : authority = name ++ '@' :: part) (hpart : '@' ∉ part) : HasHost authority part

/-- What follows a host: nothing, or a colon and the port. -/
inductive Tail : List Char → List Char → Prop
  | none : Tail [] []
  | colon (port : List Char) : Tail (':' :: port) port

/-- The host and the port of an authority without its user. A host in brackets may have colons, and nothing but the port
may follow them. A bracket that is open to the end takes all for the host. -/
inductive Parts : List Char → List Char → List Char → Prop
  | plain {host tail port : List Char} (hbracket : '[' ∉ host ++ tail) (hcolon : ':' ∉ host) (h : Tail tail port) :
      Parts (host ++ tail) host port
  | bracketed {host tail port : List Char} (hbracket : ']' ∉ host) (h : Tail tail port) :
      Parts ('[' :: (host ++ ']' :: tail)) host port
  | opened {host : List Char} (hbracket : ']' ∉ host) : Parts ('[' :: host) host []

/-- What is wrong with an authority: brackets of one kind only, brackets without a literal for the host, or a character
that is compatible with one that parts addresses. -/
inductive Unsound (authority : List Char) : Prop
  | unpaired (h : '[' ∈ authority ↔ ']' ∉ authority)
  | misplaced (h : '[' ∈ authority) (h' : ']' ∈ authority)
      (hliteral : ∀ part host port, HasHost authority part → Parts part host port → isLiteral host = false)
  | lookalike {c : Char} (hc : c ∈ authority) (h : lookalikes.contains c = true)

/-- Ports that are no number of a port: they have other letters than digits, too many, or stand for too much. -/
structure Unfit (port : List Char) : Prop where
  ne_nil : port ≠ []
  fault : (∃ c ∈ port, c.isDigit = false) ∨ Number.maxDigits < port.length ∨ maxPort < CharSet.decimalNumber port

/-! ## Hosts -/

theorem HasHost.eq (h : HasHost authority part) : hostPart authority = part := by
  cases h with
  | alone h => rw [hostPart, Text.cutLast?_eq_none_iff.mpr h]
  | user heq hpart => rw [hostPart, heq, Text.cutLast?_append hpart]

theorem hasHost_hostPart (authority : List Char) : HasHost authority (hostPart authority) := by
  unfold hostPart
  split
  · rename_i hcut
    obtain ⟨heq, hpart⟩ := Text.cutLast?_eq_some hcut
    exact .user heq hpart
  · rename_i hcut
    exact .alone (Text.cutLast?_eq_none hcut)

theorem HasHost.subset (h : HasHost authority part) : part ⊆ authority := by
  cases h with
  | alone => exact List.Subset.refl _
  | user heq => exact heq ▸ fun _ hc => List.mem_append_right _ (List.mem_cons_of_mem _ hc)

theorem Tail.begins (h : Tail tail port) : (tail.isEmpty || tail.head? == some ':') = true := by
  cases h with
  | none => rfl
  | colon => rfl

theorem exists_tail (h : (tail.isEmpty || tail.head? == some ':') = true) : ∃ port, Tail tail port := by
  cases tail with
  | nil => exact ⟨_, .none⟩
  | cons c tail =>
    obtain rfl : c = ':' := by simpa using h
    exact ⟨_, .colon tail⟩

theorem Tail.cut (h : Tail tail port) : ((Text.cutFirst? ':' tail).map (·.2)).getD [] = port := by
  cases h with
  | none => rfl
  | colon => rfl

/-- The parts are those that are cut off. -/
theorem Parts.eq (hhost : HasHost authority part) (h : Parts part host port) :
    hostAndPort authority = (host, port) := by
  rw [hostAndPort, hhost.eq]
  cases h with
  | plain hbracket hcolon h =>
    simp only [Text.cutFirst?_eq_none_iff.mpr hbracket]
    cases h with
    | none => rw [List.append_nil, Text.cutFirst?_eq_none_iff.mpr hcolon, Option.getD_none]
    | colon => rw [Text.cutFirst?_append hcolon, Option.getD_some]
  | @bracketed _ tail _ hbracket h =>
    have hopen : Text.cutFirst? '[' ('[' :: (host ++ ']' :: tail)) = some ([], host ++ ']' :: tail) := rfl
    simp only [hopen, Text.cutFirst?_append hbracket, h.cut]
  | opened hbracket =>
    have hopen : Text.cutFirst? '[' ('[' :: host) = some ([], host) := rfl
    simp only [hopen, Text.cutFirst?_eq_none_iff.mpr hbracket]

theorem Parts.sound (hhost : HasHost authority part) (h : Parts part host port) :
    hasSoundBrackets authority = isLiteral host := by
  rw [hasSoundBrackets, hhost.eq]
  cases h with
  | plain hbracket hcolon h =>
    simp only [Text.cutFirst?_eq_none_iff.mpr hbracket]
    have hcolon : ∀ c ∈ host, (c != ':') = true := fun c hc => bne_iff_ne.mpr fun heq => hcolon (heq ▸ hc)
    rw [List.takeWhile_append_of_pos hcolon]
    cases h <;> simp
  | @bracketed _ tail _ hbracket h =>
    have hopen : Text.cutFirst? '[' ('[' :: (host ++ ']' :: tail)) = some ([], host ++ ']' :: tail) := rfl
    simp only [hopen, Text.cutFirst?_append hbracket, h.begins, List.isEmpty_nil, Bool.true_and]
  | opened hbracket =>
    have hopen : Text.cutFirst? '[' ('[' :: host) = some ([], host) := rfl
    simp only [hopen, Text.cutFirst?_eq_none_iff.mpr hbracket, List.isEmpty_nil, Bool.true_and]

theorem exists_parts_plain (h : '[' ∉ part) : ∃ host port, Parts part host port := by
  have hpart : part = part.takeWhile (· != ':') ++ part.dropWhile (· != ':') := List.takeWhile_append_dropWhile.symm
  have hcolon : ':' ∉ part.takeWhile (· != ':') := fun hmem => by simpa using List.mem_takeWhile_imp hmem
  have htail : ((part.dropWhile (· != ':')).isEmpty || (part.dropWhile (· != ':')).head? == some ':') = true := by
    have hnot := List.head?_dropWhile_not (· != ':') part
    cases hdrop : part.dropWhile (· != ':') with
    | nil => rfl
    | cons c rest =>
      rw [hdrop] at hnot
      simpa using hnot
  obtain ⟨port, hport⟩ := exists_tail htail
  rw [hpart] at h ⊢
  exact ⟨_, port, .plain h hcolon hport⟩

theorem exists_parts (h : hasSoundBrackets authority = true) :
    ∃ host port, Parts (hostPart authority) host port := by
  rw [hasSoundBrackets] at h
  cases hopen : Text.cutFirst? '[' (hostPart authority) with
  | none => exact exists_parts_plain (Text.cutFirst?_eq_none_iff.mp hopen)
  | some p =>
    obtain ⟨before, rest⟩ := p
    obtain ⟨hpart, -⟩ := Text.cutFirst?_eq_some hopen
    simp only [hopen] at h
    cases hclose : Text.cutFirst? ']' rest with
    | none =>
      simp only [hclose, Bool.and_eq_true, List.isEmpty_iff] at h
      rw [hpart, h.1]
      exact ⟨_, _, .opened (Text.cutFirst?_eq_none_iff.mp hclose)⟩
    | some q =>
      obtain ⟨host, tail⟩ := q
      obtain ⟨rfl, hhost⟩ := Text.cutFirst?_eq_some hclose
      simp only [hclose, Bool.and_eq_true, List.isEmpty_iff] at h
      obtain ⟨port, hport⟩ := exists_tail h.1.2
      rw [hpart, h.1.1]
      exact ⟨_, port, .bracketed hhost hport⟩

theorem isSound_eq_false_iff : isSound authority = false ↔ Unsound authority := by
  constructor
  · intro h
    by_cases hlook : ∃ c ∈ authority, lookalikes.contains c = true
    · obtain ⟨c, hc, h⟩ := hlook
      exact .lookalike hc h
    · have hlook : authority.any lookalikes.contains = false := by simpa using hlook
      by_cases hopen : '[' ∈ authority <;> by_cases hclose : ']' ∈ authority
      · have hbrackets : hasSoundBrackets authority = false := by simpa [isSound, hopen, hclose, hlook] using h
        exact .misplaced hopen hclose fun part host port hhost hparts => hparts.sound hhost ▸ hbrackets
      · exact .unpaired (by simp [hopen, hclose])
      · exact .unpaired (by simp [hopen, hclose])
      · simp [isSound, hopen, hclose, hlook] at h
  · intro h
    cases h with
    | unpaired h => by_cases hopen : '[' ∈ authority <;> simp_all [isSound]
    | misplaced h h' hliteral =>
      have hbrackets : hasSoundBrackets authority = false := by
        by_contra hsound
        rw [Bool.not_eq_false] at hsound
        obtain ⟨host, port, hparts⟩ := exists_parts hsound
        rw [hparts.sound (hasHost_hostPart authority)] at hsound
        rw [hliteral _ _ _ (hasHost_hostPart authority) hparts] at hsound
        contradiction
      simp [isSound, h, h', hbrackets]
    | lookalike hc h =>
      have hlook : authority.any lookalikes.contains = true := List.any_eq_true.mpr ⟨_, hc, h⟩
      simp [isSound, hlook]

/-- A sound authority has a host, and perhaps a port. -/
theorem exists_parts_of_sound (h : isSound authority = true) :
    ∃ host port, Parts (hostPart authority) host port := by
  by_cases hopen : '[' ∈ authority
  · have hcontains : authority.contains '[' = true := List.contains_iff_mem.mpr hopen
    simp only [isSound, hcontains, Bool.and_eq_true, Bool.not_true, Bool.false_or] at h
    exact exists_parts h.1.2
  · exact exists_parts_plain fun hmem => hopen ((hasHost_hostPart authority).subset hmem)

/-! ## Authorities -/

theorem colon_notMem_scheme (h : IsScheme name) : ':' ∉ name :=
  fun hmem => absurd (h.letters ':' hmem) (by decide)

theorem cutScheme_append (h : IsScheme name) (rest : List Char) :
    cutScheme (name ++ ':' :: rest) = (name.map Char.toLower, rest) := by
  have hhead : name.head?.any Char.isAlpha = true := by
    obtain ⟨c, hc, halpha⟩ := h.head
    rw [Option.mem_def.mp hc, Option.any_some, halpha]
  have hletters : name.all isSchemeChar = true := List.all_eq_true.mpr h.letters
  rw [cutScheme, Text.cutFirst?_append (colon_notMem_scheme h)]
  simp [hhead, hletters]

/-- An address has a scheme, or none is cut off. -/
theorem cutScheme_cases (cs : List Char) :
    (∃ name rest, IsScheme name ∧ cs = name ++ ':' :: rest) ∨ cutScheme cs = ([], cs) := by
  cases hcut : Text.cutFirst? ':' cs with
  | none => exact .inr (by rw [cutScheme, hcut])
  | some p =>
    obtain ⟨name, rest⟩ := p
    by_cases hscheme : (name.head?.any Char.isAlpha && name.all isSchemeChar) = true
    · rw [Bool.and_eq_true, Option.any_eq_true, List.all_eq_true] at hscheme
      obtain ⟨⟨c, hc, halpha⟩, hletters⟩ := hscheme
      exact .inl ⟨name, rest, ⟨⟨c, hc, halpha⟩, hletters⟩, (Text.cutFirst?_eq_some_iff.mp hcut).1⟩
    · exact .inr (by rw [cutScheme, hcut]; simp only [hscheme]; rfl)

/-- What begins with a slash has no scheme. -/
theorem cutScheme_slash (rest : List Char) : cutScheme ('/' :: rest) = ([], '/' :: rest) := by
  rcases cutScheme_cases ('/' :: rest) with ⟨name, rest', ⟨⟨c, hc, halpha⟩, -⟩, heq⟩ | h
  · cases name with
    | nil => cases hc
    | cons d name =>
      obtain rfl := Option.some.inj hc
      obtain rfl := (List.cons.inj heq).1
      exact absurd halpha (by decide)
  · exact h

theorem cutAuthority_slashes (cs : List Char) : cutAuthority ('/' :: '/' :: cs) =
    (cs.takeWhile fun c => !endsAuthority c, cs.dropWhile fun c => !endsAuthority c) := by
  have hends : (fun c => c != '/' && c != '?' && c != '#') = fun c => !endsAuthority c := by
    funext c
    simp [endsAuthority, bne]
  rw [cutAuthority, List.span_eq_takeWhile_dropWhile, hends]

theorem cutAuthority_append (hauthority : ∀ c ∈ authority, endsAuthority c = false)
    (hrest : ∀ c ∈ rest.head?, endsAuthority c = true) :
    (cutAuthority ('/' :: '/' :: (authority ++ rest))).1 = authority := by
  have hstop : rest.takeWhile (fun c => !endsAuthority c) = [] := by
    cases rest with
    | nil => rfl
    | cons c rest => simp [hrest c rfl]
  rw [cutAuthority_slashes, List.takeWhile_append_of_pos (by simpa using hauthority), hstop, List.append_nil]

/-- Only two slashes can begin an authority. -/
theorem exists_slashes (h : (cutAuthority cs).1 ≠ []) : ∃ rest, cs = '/' :: '/' :: rest := by
  unfold cutAuthority at h
  split at h
  · exact ⟨_, rfl⟩
  · exact absurd rfl h

theorem cut_of_hasAuthority (h : HasAuthority cs authority) : (cutAuthority (cutScheme cs).2).1 = authority := by
  obtain ⟨before, rest, rfl, rfl | ⟨name, hname, rfl⟩, hauthority, hrest⟩ := h
  · rw [List.nil_append, cutScheme_slash]
    exact cutAuthority_append hauthority hrest
  · rw [List.append_assoc, List.singleton_append, cutScheme_append hname]
    exact cutAuthority_append hauthority hrest

theorem hasAuthority_cut (h : (cutAuthority (cutScheme cs).2).1 ≠ []) :
    HasAuthority cs (cutAuthority (cutScheme cs).2).1 := by
  obtain ⟨rest, hslashes⟩ := exists_slashes h
  have hends : ∀ c ∈ (rest.dropWhile fun c => !endsAuthority c).head?, endsAuthority c = true := by
    intro c hc
    have hnot := List.head?_dropWhile_not (fun c => !endsAuthority c) rest
    rw [Option.mem_def.mp hc] at hnot
    simpa using hnot
  have hauthority : ∀ c ∈ rest.takeWhile fun c => !endsAuthority c, endsAuthority c = false := by
    intro c hc
    simpa using List.mem_takeWhile_imp hc
  have hrest : rest = (rest.takeWhile fun c => !endsAuthority c) ++ rest.dropWhile fun c => !endsAuthority c :=
    List.takeWhile_append_dropWhile.symm
  rw [hslashes, cutAuthority_slashes]
  rcases cutScheme_cases cs with ⟨name, rest', hname, rfl⟩ | hcut
  · rw [cutScheme_append hname] at hslashes
    obtain rfl : rest' = '/' :: '/' :: rest := hslashes
    exact ⟨name ++ [':'], _, by rw [← hrest]; simp, .inr ⟨name, hname, rfl⟩, hauthority, hends⟩
  · rw [hcut] at hslashes
    obtain rfl : cs = '/' :: '/' :: rest := hslashes
    exact ⟨[], _, by rw [← hrest]; rfl, .inl rfl, hauthority, hends⟩

/-- The addresses without parts are those whose authority is unsound. -/
theorem split?_eq_none_iff {s : String} :
    split? s = none ↔ ∃ authority, HasAuthority (counted s) authority ∧ Unsound authority := by
  have hsplit : split? s = none ↔ isSound (cutAuthority (cutScheme (counted s)).2).1 = false := by
    simp [split?]
  rw [hsplit]
  constructor
  · intro h
    refine ⟨_, hasAuthority_cut fun hnil => ?_, isSound_eq_false_iff.mp h⟩
    rw [hnil] at h
    exact absurd h (by decide)
  · rintro ⟨authority, hauthority, hunsound⟩
    rw [cut_of_hasAuthority hauthority]
    exact isSound_eq_false_iff.mpr hunsound

/-! ## Ports -/

theorem port_eq_error_iff {u : Url} : (∃ fault, u.port = .error fault) ↔ Unfit (hostAndPort u.authority).2 := by
  cases hparts : hostAndPort u.authority with
  | mk host port =>
    simp only [Url.port, hparts]
    split
    · rename_i hnil
      exact iff_of_false (by simp) fun h => h.ne_nil (List.isEmpty_iff.mp hnil)
    · rename_i hne
      have hne : port ≠ [] := fun hnil => hne (List.isEmpty_iff.mpr hnil)
      split
      · rename_i hdigits
        exact iff_of_true ⟨_, rfl⟩ ⟨hne, .inl (by simpa using hdigits)⟩
      · rename_i hdigits
        have hdigits : ¬∃ c ∈ port, c.isDigit = false := by simpa using hdigits
        split
        · rename_i hlong
          exact iff_of_true ⟨_, rfl⟩ ⟨hne, .inr (.inl hlong)⟩
        · rename_i hlong
          split
          · rename_i hgreat
            exact iff_of_true ⟨_, rfl⟩ ⟨hne, .inr (.inr hgreat)⟩
          · rename_i hgreat
            exact iff_of_false (by simp) fun h => (h.fault.resolve_left hdigits).elim hlong hgreat

theorem authority_of_split? {s : String} {u : Url} (h : split? s = some u) :
    u.authority = (cutAuthority (cutScheme (counted s)).2).1 ∧ isSound u.authority = true := by
  rw [split?] at h
  simp only at h
  split at h
  · rename_i hsound
    cases h
    exact ⟨rfl, hsound⟩
  · cases h

/-- The port of an address is a fault exactly if it is unfit. -/
theorem port_eq_error_iff_of_split? {s : String} {u : Url} (h : split? s = some u) :
    (∃ fault, u.port = .error fault) ↔ ∃ authority part host port, HasAuthority (counted s) authority ∧
      HasHost authority part ∧ Parts part host port ∧ Unfit port := by
  obtain ⟨hauthority, hsound⟩ := authority_of_split? h
  rw [port_eq_error_iff]
  constructor
  · intro hunfit
    obtain ⟨host, port, hparts⟩ := exists_parts_of_sound hsound
    have hhost := hasHost_hostPart u.authority
    rw [hparts.eq hhost] at hunfit
    have hne : u.authority ≠ [] := by
      intro hnil
      have hparts := hparts.eq hhost
      rw [hnil] at hparts
      exact hunfit.ne_nil (congrArg Prod.snd hparts).symm
    rw [hauthority] at hne hhost hparts
    exact ⟨_, _, host, port, hasAuthority_cut hne, hhost, hparts, hunfit⟩
  · rintro ⟨authority, part, host, port, hcut, hhost, hparts, hunfit⟩
    rw [hauthority, cut_of_hasAuthority hcut, hparts.eq hhost]
    exact hunfit

end KubeManifest.Url
