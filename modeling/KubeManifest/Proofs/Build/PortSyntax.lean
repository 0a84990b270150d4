import KubeManifest.Proofs.Build.PortRange
import KubeManifest.Proofs.Fragment.Filename
import KubeManifest.Proofs.Number.Decimal
import KubeManifest.Proofs.Text.Case

/-!
# Entries read back

The grammar of the entries of a port list, and the port that each of them describes. Any part of an entry can be
written as the name of a property that holds it. Such a name may hold the very characters that an entry is cut at: the
names are replaced first.

* `PortSpec.Expands` : what becomes of a text when properties take the place of their names;
* `PortSpec.Gives` : parts of an entry, written as they are or as the name of a property;
* `PortSpec.Ports`, `PortSpec.Describes` : the grammar;
* `PortSpec.ports_of_describes` : an entry is read as the port that it describes.
-/

namespace KubeManifest.PortSpec

variable {properties : Fields} {spec : String} {cs ds cs' ds' part text : List Char} {port : ContainerPort}

/-! ## Names of properties -/

theorem propertyName?_eq_none {c : Char} (hc : c ≠ '$') : propertyName? (c :: cs) = none := by
  unfold propertyName?
  split
  · rename_i heq
    exact absurd (List.cons.inj heq).1 hc
  · rfl

theorem propertyName?_append {name after : List Char} (hne : name ≠ []) (hbrace : '\x7d' ∉ name) :
    propertyName? ('$' :: '\x7b' :: (name ++ '\x7d' :: after)) = some (name, after) := by
  rw [propertyName?, Text.cutFirst?_append hbrace]
  simp [hne]

theorem expandText_nil : expandText properties spec [] = .ok [] := by
  rw [expandText]
  rfl

theorem expandText_cons {c : Char} (hc : c ≠ '$') :
    expandText properties spec (c :: cs) = (expandText properties spec cs).map (c :: ·) := by
  rw [expandText]
  split
  · rename_i heq
    rw [propertyName?_eq_none hc] at heq
    cases heq
  · dsimp only
    cases expandText properties spec cs <;> rfl

theorem expandText_name {name after : List Char} {v : Value} (hne : name ≠ []) (hbrace : '\x7d' ∉ name)
    (hv : properties.find? (String.ofList name) = some v) :
    expandText properties spec ('$' :: '\x7b' :: (name ++ '\x7d' :: after)) =
      (expandText properties spec after).map (v.display.toList ++ ·) := by
  rw [expandText]
  split
  · rename_i heq
    rw [propertyName?_append hne hbrace] at heq
    obtain ⟨rfl, rfl⟩ := Prod.mk.inj (Option.some.inj heq)
    rw [hv]
    dsimp only
    cases expandText properties spec after <;> rfl
  · rename_i heq
    rw [propertyName?_append hne hbrace] at heq
    cases heq

/-- Whether a text becomes another one, whatever follows it, when properties take the place of their names. -/
def Expands (properties : Fields) (cs ds : List Char) : Prop :=
  ∀ spec after, expandText properties spec (cs ++ after) = (expandText properties spec after).map (ds ++ ·)

theorem Expands.append (h : Expands properties cs ds) (h' : Expands properties cs' ds') :
    Expands properties (cs ++ cs') (ds ++ ds') := by
  intro spec after
  rw [List.append_assoc, h, h']
  cases expandText properties spec after with
  | error e => rfl
  | ok rest => simp [Except.map]

theorem Expands.expandText_eq (h : Expands properties cs ds) : expandText properties spec cs = .ok ds := by
  have hexpand := h spec []
  rw [List.append_nil, expandText_nil] at hexpand
  simpa [Except.map] using hexpand

theorem expands_of_notMem (h : '$' ∉ cs) : Expands properties cs cs := by
  intro spec after
  induction cs with
  | nil =>
    rw [List.nil_append]
    cases expandText properties spec after <;> rfl
  | cons c cs ih =>
    obtain ⟨hc, hcs⟩ := not_or.mp (mt List.mem_cons.mpr h)
    rw [List.cons_append, expandText_cons (Ne.symm hc), ih hcs]
    cases expandText properties spec after <;> rfl

/-! ## Parts -/

/-- A text that can stand between the separators of an entry. -/
structure IsPart (part : List Char) : Prop where
  nonempty : part ≠ []
  noBlank : ∀ c ∈ part, Text.isBlank c = false
  noComma : ',' ∉ part
  noColon : ':' ∉ part
  noSlash : '/' ∉ part
  noDollar : '$' ∉ part

/-- The ways of writing a part of an entry: as it is, or as the name of a property that holds it. -/
inductive Gives (properties : Fields) (part : List Char) : List Char → Prop
  | itself : Gives properties part part
  | property {name : List Char} {v : Value} (hne : name ≠ []) (hbrace : '\x7d' ∉ name) (hcomma : ',' ∉ name)
      (hv : properties.find? (String.ofList name) = some v) (hpart : v.display.toList = part) :
      Gives properties part ('$' :: '\x7b' :: (name ++ ['\x7d']))

theorem Gives.expands (h : Gives properties part text) (hpart : IsPart part) : Expands properties text part := by
  cases h with
  | itself => exact expands_of_notMem hpart.noDollar
  | @property name v hne hbrace hcomma hv hdisplay =>
    intro spec after
    have htext : '$' :: '\x7b' :: (name ++ ['\x7d']) ++ after = '$' :: '\x7b' :: (name ++ '\x7d' :: after) := by simp
    rw [htext, expandText_name hne hbrace hv, hdisplay]

theorem IsPart.isEntry (h : IsPart part) : IsEntry part :=
  ⟨h.nonempty, h.noComma, Text.trimmed_of_forall h.noBlank⟩

theorem Gives.isEntry (h : Gives properties part text) (hpart : IsPart part) : IsEntry text := by
  cases h with
  | itself => exact hpart.isEntry
  | @property name v hne hbrace hcomma hv hdisplay =>
    refine ⟨List.cons_ne_nil _ _, by simpa using hcomma, fun c hc => ?_, fun c hc => ?_⟩
    · obtain rfl : '$' = c := Option.some.inj hc
      decide
    · have hlast : ('$' :: '\x7b' :: (name ++ ['\x7d'])).getLast? = some '\x7d' :=
        List.getLast?_concat (l := '$' :: '\x7b' :: name)
      obtain rfl : '\x7d' = c := Option.some.inj (hlast.symm.trans hc)
      decide

theorem IsEntry.append_cons {c : Char} (hcs : IsEntry cs) (hc : c ≠ ',') (hds : IsEntry ds) :
    IsEntry (cs ++ c :: ds) where
  nonempty := by simp
  noComma := by simp [hcs.noComma, hds.noComma, Ne.symm hc]
  trimmed := hcs.trimmed.append_cons hcs.nonempty c hds.trimmed hds.nonempty

/-! ## Numbers, addresses and protocols -/

theorem isPart_toDigits (n : Nat) : IsPart (Nat.toDigits 10 n) where
  nonempty := Nat.toDigits_ne_nil
  noBlank c hc := Number.not_isBlank_of_isDigit (Number.isDigit_of_mem_toDigits c hc)
  noComma h := absurd (Number.isDigit_of_mem_toDigits _ h) (by decide)
  noColon h := absurd (Number.isDigit_of_mem_toDigits _ h) (by decide)
  noSlash h := absurd (Number.isDigit_of_mem_toDigits _ h) (by decide)
  noDollar h := absurd (Number.isDigit_of_mem_toDigits _ h) (by decide)

theorem portNumber_toDigits {n : Nat} (h : IsPort n) : portNumber spec (Nat.toDigits 10 n) = .ok n := by
  obtain ⟨hpos, hle⟩ := h
  have hfive : (Nat.toDigits 10 n).length ≤ 5 := (Nat.length_toDigits_le_iff (by decide) (by decide)).mpr (by omega)
  rw [portNumber, Number.readInteger_toDigits (Nat.le_trans hfive (by decide))]
  exact if_pos ⟨hpos, hle⟩

theorem hostPort_toDigits {n : Nat} (h : IsPort n) :
    hostPort properties spec (Nat.toDigits 10 n) = .ok (some (n : Int)) := by
  have hnumeral : isNumeral (Nat.toDigits 10 n) = true := by
    have hdigit : ∀ c ∈ Nat.toDigits 10 n, Text.isDigit c = true := by
      intro c hc
      rw [Text.isDigit, Number.digitValue?_of_isDigit (Number.isDigit_of_mem_toDigits c hc)]
      rfl
    simpa [isNumeral, Nat.toDigits_ne_nil] using hdigit
  rw [hostPort, if_pos hnumeral, portNumber_toDigits h]
  rfl

/-- The address of a host: part of an entry that does not ask for a property. -/
structure IsAddress (ip : List Char) : Prop extends IsPart ip where
  noPlus : ip.head? ≠ some '+'

theorem hostIP_of_isAddress {ip : List Char} (h : IsAddress ip) :
    hostIP properties ip = .ofString (String.ofList ip) := by
  unfold hostIP
  split
  · exact absurd rfl h.noPlus
  · rfl

inductive Spells (name : List Char) : String → Prop
  | tcp (h : name.map Char.toLower = "tcp".toList) : Spells name "TCP"
  | udp (h : name.map Char.toLower = "udp".toList) : Spells name "UDP"

theorem Spells.exists_word {name : List Char} {protocol : String} (h : Spells name protocol) :
    ∃ word, (word, protocol) ∈ protocols ∧ name.map Char.toLower = word.toList := by
  cases h with
  | tcp h => exact ⟨"tcp", by decide, h⟩
  | udp h => exact ⟨"udp", by decide, h⟩

theorem Spells.isPart {name : List Char} {protocol : String} (h : Spells name protocol) : IsPart name := by
  obtain ⟨word, hword, hname⟩ := h.exists_word
  have hletter : ∀ c ∈ name, "tcpud".toList.contains c.toLower = true := by
    intro c hc
    have hall : (protocols.all fun p => p.1.toList.all fun d => "tcpud".toList.contains d) = true := by decide
    exact List.all_eq_true.mp (List.all_eq_true.mp hall _ hword) _ (hname ▸ List.mem_map_of_mem hc)
  have hother : ∀ c : Char, "tcpud".toList.contains c.toLower = false → c ∉ name := by
    intro c hc hmem
    rw [hletter c hmem] at hc
    cases hc
  refine ⟨?_, fun c hc => ?_, hother _ (by decide), hother _ (by decide), hother _ (by decide), hother _ (by decide)⟩
  · rintro rfl
    exact (by decide : ∀ p ∈ protocols, p.1.toList ≠ []) _ hword hname.symm
  · rcases Text.toNat_toLower (c := c) with heq | ⟨hge, hle, -⟩
    · have hmem := hletter c hc
      rw [heq, List.contains_iff_mem] at hmem
      have hall : ("tcpud".toList.all fun d => !Text.isBlank d) = true := by decide
      simpa using List.all_eq_true.mp hall c hmem
    · simp only [Text.isBlank, Bool.or_eq_false_iff, Bool.and_eq_false_iff, decide_eq_false_iff_not,
        beq_eq_false_iff_ne]
      omega

theorem Spells.cutProtocol {name : List Char} {protocol : String} (h : Spells name protocol) :
    cutProtocol spec (cs ++ '/' :: name) = .ok (cs, .ofString protocol) := by
  obtain ⟨word, hword, hname⟩ := h.exists_word
  have hascii : ∀ c ∈ word.toList, c.toNat < 128 := by
    have hall : (protocols.all fun p => p.1.toList.all fun c => c.toNat < 128) = true := by decide
    intro c hc
    simpa using List.all_eq_true.mp (List.all_eq_true.mp hall _ hword) c hc
  have hlower : Text.lower (String.ofList name) = word :=
    Text.lower_of_ascii (by rw [String.toList_ofList, hname]) hascii
  have hlookup : protocols.lookup word = some protocol :=
    (by decide : ∀ p ∈ protocols, protocols.lookup p.1 = some p.2) _ hword
  rw [PortSpec.cutProtocol, Text.cutLast?_append h.isPart.noSlash]
  dsimp only
  rw [hlower, hlookup]

theorem cutProtocol_of_notMem (h : '/' ∉ cs) : cutProtocol spec cs = .ok (cs, .null) := by
  unfold cutProtocol
  split
  · rfl
  · rename_i hcut
    exact absurd (by simp [(Text.cutLast?_eq_some hcut).1]) h

/-! ## The grammar -/

/-- What can stand before the protocol in an entry, and the port that it describes. -/
inductive Ports (properties : Fields) : ContainerPort → List Char → Prop
  | container {n : Nat} {port : List Char} (hn : IsPort n) (hport : Gives properties (Nat.toDigits 10 n) port) :
      Ports properties { containerPort := .ofInt n } port
  | host {n m : Nat} {port host : List Char} (hn : IsPort n) (hm : IsPort m)
      (hport : Gives properties (Nat.toDigits 10 n) port) (hhost : Gives properties (Nat.toDigits 10 m) host) :
      Ports properties { containerPort := .ofInt n, hostPort := .ofInt m } (host ++ ':' :: port)
  | address {n m : Nat} {ip port host address : List Char} (hn : IsPort n) (hm : IsPort m) (hip : IsAddress ip)
      (hport : Gives properties (Nat.toDigits 10 n) port) (hhost : Gives properties (Nat.toDigits 10 m) host)
      (haddress : Gives properties ip address) :
      Ports properties { containerPort := .ofInt n, hostPort := .ofInt m, hostIP := .ofString (String.ofList ip) }
        (address ++ ':' :: (host ++ ':' :: port))

inductive Describes (properties : Fields) : ContainerPort → List Char → Prop
  | ports {port : ContainerPort} {text : List Char} (h : Ports properties port text) : Describes properties port text
  | protocol {port : ContainerPort} {text name ending : List Char} {protocol : String} (h : Ports properties port text)
      (hname : Spells name protocol) (hending : Gives properties name ending) :
      Describes properties { port with protocol := .ofString protocol } (text ++ '/' :: ending)

theorem Ports.isEntry (h : Ports properties port text) : IsEntry text := by
  cases h with
  | container hn hport => exact hport.isEntry (isPart_toDigits _)
  | host hn hm hport hhost =>
    exact (hhost.isEntry (isPart_toDigits _)).append_cons (by decide) (hport.isEntry (isPart_toDigits _))
  | address hn hm hip hport hhost haddress =>
    exact (haddress.isEntry hip.toIsPart).append_cons (by decide)
      ((hhost.isEntry (isPart_toDigits _)).append_cons (by decide) (hport.isEntry (isPart_toDigits _)))

theorem Expands.append_cons {c : Char} (h : Expands properties cs ds) (hc : c ≠ '$')
    (h' : Expands properties cs' ds') : Expands properties (cs ++ c :: cs') (ds ++ c :: ds') := by
  have hcons : Expands properties [c] [c] := expands_of_notMem (by simpa using Ne.symm hc)
  exact h.append (hcons.append h')

/-- What comes before the protocol is cut at its colons, once the names in it are replaced. -/
theorem parse_of_ports (h : Ports properties port text) :
    ∃ plain, Expands properties text plain ∧ '/' ∉ plain ∧ ∀ spec whole protocol,
      expandText properties spec spec.toList = .ok whole → cutProtocol spec whole = .ok (plain, protocol) →
      parse properties spec = .ok { port with protocol } := by
  cases h with
  | @container n port hn hport =>
    have hn' := isPart_toDigits n
    refine ⟨_, hport.expands hn', hn'.noSlash, fun spec whole protocol hwhole hcut => ?_⟩
    rw [parse, expand, hwhole, ok_bind, hcut, ok_bind]
    dsimp only
    rw [List.splitOn_eq_singleton hn'.noColon]
    simp [hn'.nonempty, portNumber_toDigits hn]
  | @host n m port host hn hm hport hhost =>
    have hn' := isPart_toDigits n
    have hm' := isPart_toDigits m
    refine ⟨_, (hhost.expands hm').append_cons (by decide) (hport.expands hn'), ?_,
      fun spec whole protocol hwhole hcut => ?_⟩
    · simp [hn'.noSlash, hm'.noSlash]
    · rw [parse, expand, hwhole, ok_bind, hcut, ok_bind]
      dsimp only
      rw [List.splitOn_append_cons_self_of_not_mem hm'.noColon, List.splitOn_eq_singleton hn'.noColon]
      simp [hn'.nonempty, hm'.nonempty, portNumber_toDigits hn, hostPort_toDigits hm, ok_bind, numberValue]
  | @address n m ip port host address hn hm hip hport hhost haddress =>
    have hn' := isPart_toDigits n
    have hm' := isPart_toDigits m
    have hip' := hip.toIsPart
    refine ⟨_, (haddress.expands hip').append_cons (by decide)
      ((hhost.expands hm').append_cons (by decide) (hport.expands hn')), ?_, fun spec whole protocol hwhole hcut => ?_⟩
    · simp [hn'.noSlash, hm'.noSlash, hip'.noSlash]
    · rw [parse, expand, hwhole, ok_bind, hcut, ok_bind]
      dsimp only
      rw [List.splitOn_append_cons_self_of_not_mem hip'.noColon,
        List.splitOn_append_cons_self_of_not_mem hm'.noColon, List.splitOn_eq_singleton hn'.noColon]
      simp [hn'.nonempty, hm'.nonempty, hip'.nonempty, portNumber_toDigits hn, hostPort_toDigits hm, ok_bind,
        numberValue, hostIP_of_isAddress hip]

theorem Ports.protocol_eq (h : Ports properties port text) : { port with protocol := .null } = port := by
  cases h <;> rfl

/-- **An entry is read as the port that it describes.** -/
theorem ports_of_describes (h : Describes properties port text) :
    ports properties [String.ofList text] = .ok [port] := by
  have htext : (String.ofList text).toList = text := String.toList_ofList
  cases h with
  | ports h =>
    rw [← parse_of_ports_singleton (htext.symm ▸ h.isEntry)]
    obtain ⟨plain, hexpands, hslash, hparse⟩ := parse_of_ports h
    rw [hparse _ plain .null (htext.symm ▸ hexpands.expandText_eq) (cutProtocol_of_notMem hslash), h.protocol_eq]
  | @protocol port text name ending protocol h hname hending =>
    have hentry := h.isEntry.append_cons (c := '/') (by decide) (hending.isEntry hname.isPart)
    rw [← parse_of_ports_singleton (htext.symm ▸ hentry)]
    obtain ⟨plain, hexpands, hslash, hparse⟩ := parse_of_ports h
    have hwhole := hexpands.append_cons (c := '/') (by decide) (hending.expands hname.isPart)
    exact hparse _ _ _ (htext.symm ▸ hwhole.expandText_eq) hname.cutProtocol

/-- An address and a protocol by the names of properties, one of which holds a colon and a slash. -/
theorem ports_of_describes_names :
    ports [(.ofString "a:b/c", .ofString "10.0.0.1"), (.ofString "p", .ofString "uDp")]
        [String.ofList "$\x7ba:b/c\x7d:9090:8080/$\x7bp\x7d".toList] =
      .ok [{ containerPort := .ofInt 8080, hostPort := .ofInt 9090, hostIP := .ofString "10.0.0.1",
             protocol := .ofString "UDP" }] := by
  have haddress : Gives [(.ofString "a:b/c", .ofString "10.0.0.1"), (.ofString "p", .ofString "uDp")]
      "10.0.0.1".toList "$\x7ba:b/c\x7d".toList :=
    @Gives.property _ _ "a:b/c".toList (.ofString "10.0.0.1") (by decide) (by decide) (by decide) rfl rfl
  have hending : Gives [(.ofString "a:b/c", .ofString "10.0.0.1"), (.ofString "p", .ofString "uDp")]
      "uDp".toList "$\x7bp\x7d".toList :=
    @Gives.property _ _ ['p'] (.ofString "uDp") (by decide) (by decide) (by decide) rfl rfl
  have hblank : ("10.0.0.1".toList.all fun c => !Text.isBlank c) = true := by decide
  have hip : IsAddress "10.0.0.1".toList :=
    ⟨⟨by decide, fun c hc => by simpa using List.all_eq_true.mp hblank c hc, by decide, by decide, by decide,
      by decide⟩, by decide⟩
  exact ports_of_describes (.protocol (.address (n := 8080) (m := 9090) ⟨by decide, by decide⟩ ⟨by decide, by decide⟩
    hip .itself .itself haddress) (.udp (by decide)) hending)

end KubeManifest.PortSpec
