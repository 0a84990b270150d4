import KubeManifest.Build.Port
import KubeManifest.Proofs.Path
import KubeManifest.Proofs.Results
import KubeManifest.Proofs.Text.Blank
import Mathlib.Data.List.Forall2

/-!
# Ports in range

An entry of a port list is cut at several separators, names of properties in it are replaced by whatever they stand
for, and two tests tell numbers from names. Every step ends with what it should, or blames the entry it was given, and
so does the reading of the whole entry. Of a list the first entry counts that cannot be read.

* `PortSpec.Settles` : calculations that blame their entry if they come to no end;
* `ContainerPort.InRange` : ports with numbers that a port can have and a protocol that is known;
* `PortSpec.settles_parse` : the port of an entry is in range, or the entry is blamed;
* `PortSpec.IsEntry`, `PortSpec.ports_singleton` : entries, and the list with one entry alone;
* `PortSpec.ports_cases` : the ports of a list are those of its entries, or the first entry without one is blamed.
-/

namespace KubeManifest

/-- Ports with numbers that a port can have and a protocol that is known. What is left out is null. -/
structure ContainerPort.InRange (port : ContainerPort) : Prop where
  containerPort : ∃ n : Int, 1 ≤ n ∧ n ≤ 65535 ∧ port.containerPort = .ofInt n
  hostPort : port.hostPort = .null ∨ ∃ n : Int, 1 ≤ n ∧ n ≤ 65535 ∧ port.hostPort = .ofInt n
  protocol : port.protocol = .null ∨ port.protocol = .ofString "TCP" ∨ port.protocol = .ofString "UDP"

namespace PortSpec

variable {properties : Fields} {spec : String}

/-! ## Calculations for an entry -/

/-- Whether a calculation ends with something of a kind, or blames an entry. -/
def Settles {α : Type} (spec : String) (P : α → Prop) : Except Failure α → Prop
  | .ok a => P a
  | .error e => ∃ fault, e = .badPort spec fault

namespace Settles

variable {α β : Type} {P : α → Prop} {Q : β → Prop} {x : Except Failure α} {f : α → Except Failure β}

theorem blame (fault : PortFault) : Settles spec P (.error (.badPort spec fault)) :=
  ⟨fault, rfl⟩

theorem bind (hx : Settles spec P x) (hf : ∀ a, P a → Settles spec Q (f a)) : Settles spec Q (x >>= f) := by
  cases x with
  | error e => exact hx
  | ok a => exact hf a hx

/-- A result, or an entry that is blamed. -/
theorem cases (h : Settles spec P x) : (∃ a, x = .ok a ∧ P a) ∨ ∃ fault, x = .error (.badPort spec fault) := by
  cases x with
  | error e =>
    obtain ⟨fault, rfl⟩ := h
    exact .inr ⟨fault, rfl⟩
  | ok a => exact .inl ⟨a, rfl, h⟩

end Settles

/-! ## The steps -/

theorem settles_expandText (cs : List Char) : Settles spec (fun _ => True) (expandText properties spec cs) := by
  fun_induction expandText properties spec cs with
  | case1 cs name after hname v hv ih => exact ih.bind fun _ _ => trivial
  | case2 cs name after hname hv => exact .blame _
  | case3 hname => trivial
  | case4 c cs hname ih => exact ih.bind fun _ _ => trivial

def IsPort (n : Int) : Prop :=
  1 ≤ n ∧ n ≤ 65535

theorem settles_portNumber (cs : List Char) : Settles spec IsPort (portNumber spec cs) := by
  unfold portNumber
  split
  · exact .blame _
  · split
    · rename_i h
      exact h
    · exact .blame _

theorem settles_hostPort (cs : List Char) :
    Settles spec (fun host => ∀ n ∈ host, IsPort n) (hostPort properties spec cs) := by
  have hnumber : ∀ cs, Settles spec (fun host => ∀ n ∈ host, IsPort n) (some <$> portNumber spec cs) := by
    intro cs
    rw [map_eq_pure_bind]
    refine (settles_portNumber cs).bind fun n hn m hm => ?_
    rwa [← Option.some.inj hm]
  unfold hostPort
  split
  · exact hnumber cs
  · split
    · exact .blame _
    · split
      · split
        · exact hnumber _
        · exact fun n hn => nomatch hn
      · exact fun n hn => nomatch hn

theorem settles_cutProtocol (cs : List Char) :
    Settles spec (fun cut => cut.2 = .null ∨ cut.2 = .ofString "TCP" ∨ cut.2 = .ofString "UDP")
      (cutProtocol spec cs) := by
  unfold cutProtocol
  split
  · exact .inl rfl
  · split
    · rename_i name _ _ protocol hprotocol
      obtain ⟨before, after, hlist, -⟩ := List.lookup_eq_some_iff.mp hprotocol
      have hmem : (Text.lower (String.ofList name), protocol) ∈ protocols := by simp [hlist]
      simp only [protocols, List.mem_cons, Prod.mk.injEq, List.not_mem_nil, or_false] at hmem
      rcases hmem with ⟨-, rfl⟩ | ⟨-, rfl⟩
      · exact .inr (.inl rfl)
      · exact .inr (.inr rfl)
    · exact .blame _

theorem numberValue_inRange {host : Option Int} (h : ∀ n ∈ host, IsPort n) :
    numberValue host = .null ∨ ∃ n : Int, 1 ≤ n ∧ n ≤ 65535 ∧ numberValue host = .ofInt n := by
  cases host with
  | none => exact .inl rfl
  | some n =>
    obtain ⟨hn, hn'⟩ := h n rfl
    exact .inr ⟨n, hn, hn', rfl⟩

theorem settles_parse (properties : Fields) (spec : String) :
    Settles spec ContainerPort.InRange (parse properties spec) := by
  unfold parse
  refine (settles_expandText _).bind fun text _ => (settles_cutProtocol text).bind fun ⟨rest, protocol⟩ hprotocol => ?_
  dsimp only
  split
  · split
    · exact .blame _
    · exact (settles_portNumber _).bind fun n ⟨hn, hn'⟩ => ⟨⟨n, hn, hn', rfl⟩, .inl rfl, hprotocol⟩
  · split
    · exact .blame _
    · exact (settles_portNumber _).bind fun n ⟨hn, hn'⟩ => (settles_hostPort _).bind fun host hhost =>
        ⟨⟨n, hn, hn', rfl⟩, numberValue_inRange hhost, hprotocol⟩
  · split
    · exact .blame _
    · exact (settles_portNumber _).bind fun n ⟨hn, hn'⟩ => (settles_hostPort _).bind fun host hhost =>
        ⟨⟨n, hn, hn', rfl⟩, numberValue_inRange hhost, hprotocol⟩
  · exact .blame _

/-! ## Entries -/

theorem ofList_strip_ne_empty (cs : List Char) : (String.ofList (Text.strip cs) != "") = !cs.all Text.isBlank := by
  rw [Bool.eq_iff_iff, bne_iff_ne, ne_eq, ← String.toList_eq_nil_iff, String.toList_ofList, Text.strip_eq_nil,
    Bool.not_eq_true', ← Bool.not_eq_true, List.all_eq_true]

/-- The entries of a list are the texts between its commas that are not blank, without the white space around them. -/
theorem entries_eq (specs : List String) :
    entries specs = ((specs.flatMap fun spec => spec.toList.splitOn ',').filter fun cs => !cs.all Text.isBlank).map
      fun cs => String.ofList (Text.strip cs) := by
  rw [entries, List.filter_flatMap, List.map_flatMap]
  congr 1
  funext spec
  rw [List.filter_map]
  congr 2
  funext cs
  exact ofList_strip_ne_empty cs

/-- What stands between commas, without the white space around it. -/
structure IsEntry (cs : List Char) : Prop where
  nonempty : cs ≠ []
  noComma : ',' ∉ cs
  trimmed : Text.Trimmed cs

theorem isEntry_of_mem_entries {specs : List String} : ∀ entry ∈ entries specs, IsEntry entry.toList := by
  intro entry h
  obtain ⟨spec, -, h⟩ := List.mem_flatMap.mp h
  obtain ⟨hmem, hne⟩ := List.mem_filter.mp h
  obtain ⟨piece, hpiece, rfl⟩ := List.mem_map.mp hmem
  refine ⟨by simpa using hne, fun hcomma => ?_, ?_⟩
  · rw [String.toList_ofList] at hcomma
    exact Path.not_mem_of_mem_splitOn piece hpiece (Text.mem_of_mem_strip hcomma)
  · rw [String.toList_ofList]
    exact Text.strip_trimmed piece

theorem entries_singleton {text : String} (h : IsEntry text.toList) : entries [text] = [text] := by
  have hself : String.ofList (Text.strip text.toList) = text := by rw [h.trimmed.strip_eq, String.ofList_toList]
  rw [entries, List.flatMap_singleton, List.splitOn_eq_singleton h.noComma, List.map_singleton, hself,
    List.filter_cons_of_pos (by simpa using h.nonempty), List.filter_nil]

theorem ports_singleton {text : String} (h : IsEntry text.toList) :
    ports properties [text] = (parse properties text).map fun port => [port] := by
  rw [ports, entries_singleton h, List.mapM_cons, List.mapM_nil]
  cases parse properties text <;> rfl

theorem parse_of_ports_singleton {text : String} (h : IsEntry text.toList) {port : ContainerPort} :
    parse properties text = .ok port ↔ ports properties [text] = .ok [port] := by
  rw [ports_singleton h]
  cases parse properties text <;> simp [Except.map]

/-! ## Lists of entries -/

theorem forall₂_of_mapM {specs : List String} {ps : List ContainerPort} (hspecs : ∀ spec ∈ specs, IsEntry spec.toList)
    (h : specs.mapM (parse properties) = .ok ps) :
    List.Forall₂ (fun entry port => ports properties [entry] = .ok [port]) specs ps := by
  induction specs generalizing ps with
  | nil =>
    obtain rfl : [] = ps := Except.ok.inj h
    exact .nil
  | cons spec specs ih =>
    obtain ⟨hspec, hspecs⟩ := List.forall_mem_cons.mp hspecs
    obtain ⟨port, ps', hport, hps, rfl⟩ := mapM_cons_eq_ok.mp h
    exact .cons ((parse_of_ports_singleton hspec).mp hport) (ih hspecs hps)

/-- **A list gives one port in range for each of its entries, or the first entry that gives none alone is blamed.** -/
theorem ports_cases (properties : Fields) (specs : List String) :
    entries specs = (((specs.flatMap fun spec => spec.toList.splitOn ',').filter fun cs => !cs.all Text.isBlank).map
      fun cs => String.ofList (Text.strip cs)) ∧
    ((∃ ps, ports properties specs = .ok ps ∧
        List.Forall₂ (fun entry port => ports properties [entry] = .ok [port]) (entries specs) ps ∧
        ∀ port ∈ ps, port.InRange) ∨
      ∃ before entry after fault, entries specs = before ++ entry :: after ∧
        (∀ earlier ∈ before, ∃ port, ports properties [earlier] = .ok [port]) ∧
        ports properties [entry] = .error (.badPort entry fault) ∧
        ports properties specs = .error (.badPort entry fault)) := by
  have hentries : ∀ entry ∈ entries specs, IsEntry entry.toList := isEntry_of_mem_entries
  refine ⟨entries_eq specs, ?_⟩
  cases h : ports properties specs with
  | ok ps =>
    refine .inl ⟨ps, rfl, forall₂_of_mapM hentries h, fun port hport => ?_⟩
    obtain ⟨entry, -, hentry⟩ := mapM_eq_ok_mem h port hport
    have hrange := settles_parse properties entry
    rwa [hentry] at hrange
  | error e =>
    obtain ⟨before, entry, after, hlist, hbefore, hentry⟩ := mapM_eq_error h
    have hblame := settles_parse properties entry
    rw [hentry] at hblame
    obtain ⟨fault, rfl⟩ := hblame
    have hmem : ∀ e ∈ before ++ entry :: after, IsEntry e.toList := hlist ▸ hentries
    refine .inr ⟨before, entry, after, fault, hlist, fun earlier hearlier => ?_, ?_, rfl⟩
    · obtain ⟨port, hport⟩ := hbefore earlier hearlier
      exact ⟨port, (parse_of_ports_singleton (hmem earlier (List.mem_append_left _ hearlier))).mp hport⟩
    · rw [ports_singleton (hmem entry (by simp)), hentry]
      rfl

end PortSpec

end KubeManifest
