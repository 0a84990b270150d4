import KubeManifest.Build.Probe
import KubeManifest.Proofs.Number.Decimal
import KubeManifest.Proofs.Text.Words
import KubeManifest.Proofs.Url.Authority
import KubeManifest.Proofs.Value.Entries

/-!
# What becomes of a probe's settings

* `ProbeSettings.Textual`, `ProbeSettings.given?` : settings by texts, and the text that counts as given;
* `ProbeSettings.Unset`, `ProbeSettings.Looks` : settings of no probe, and the probes of the others;
* `ProbeSettings.Unread`, `ProbeSettings.BadPort` : settings with a text that one of the readers refuses, and addresses
  whose port is none;
* `ProbeSettings.probe?_reported_iff` : every bad setting but these is reported as one of the configuration.
-/

namespace KubeManifest.ProbeSettings

variable {settings : ProbeSettings} {s : String} {v : Value}

/-! ## Settings -/

/-- Settings by texts; null stands for what is not set. -/
structure Textual (settings : ProbeSettings) : Prop where
  url : settings.url.isNull = true ∨ settings.url.text?.isSome = true
  command : settings.command.isNull = true ∨ settings.command.text?.isSome = true

/-- The text that a value gives, unless it is empty. -/
def given? (v : Value) : Option String :=
  v.text?.filter (· != "")

def port? (settings : ProbeSettings) : Option String :=
  settings.tcpPort.filter (· != "")

/-- Settings that give nothing to look at. -/
structure Unset (settings : ProbeSettings) : Prop where
  url : given? settings.url = none
  command : given? settings.command = none
  port : settings.port? = none

/-- The probes with one way to look and the delays that are set. An address goes before a command, and a command before
a port. -/
inductive Looks (settings : ProbeSettings) : Probe → Prop
  | request {s : String} (hurl : given? settings.url = some s) (get : HttpGet) :
      Looks settings {
        httpGet := some get
        initialDelaySeconds := settings.initialDelaySeconds
        timeoutSeconds := settings.timeoutSeconds }
  | command {s : String} {words : List String} (hurl : given? settings.url = none)
      (hcommand : given? settings.command = some s) (hwords : Text.Words s.toList words) :
      Looks settings {
        exec := some { command := .ofList (words.map Value.ofString) }
        initialDelaySeconds := settings.initialDelaySeconds
        timeoutSeconds := settings.timeoutSeconds }
  | port {s : String} (hurl : given? settings.url = none) (hcommand : given? settings.command = none)
      (hport : settings.port? = some s) (socket : TcpSocket) :
      Looks settings {
        tcpSocket := some socket
        initialDelaySeconds := settings.initialDelaySeconds
        timeoutSeconds := settings.timeoutSeconds }

/-- Addresses whose authority is unsound. -/
def BadAddress (s : String) : Prop :=
  ∃ authority, Url.HasAuthority (Url.counted s) authority ∧ Url.Unsound authority

/-- Addresses whose port is no number of a port. -/
def BadPort (s : String) : Prop :=
  ∃ authority part host port, Url.HasAuthority (Url.counted s) authority ∧ Url.HasHost authority part ∧
    Url.Parts part host port ∧ Url.Unfit port

/-- Commands that consist of no words. -/
def BadCommand (s : String) : Prop :=
  ∀ words, ¬Text.Words s.toList words

/-- Digits that are no number: one has no place in a decimal number, or they are too many. -/
structure BadDigits (s : String) : Prop where
  digits : ∀ c ∈ s.toList, Text.isDigit c = true
  unreadable : (∃ c ∈ s.toList, Text.digitValue? c = none) ∨ Number.maxDigits < s.toList.length

/-- Settings whose first text is refused by its reader. -/
inductive Unread (settings : ProbeSettings) : Prop
  | url {s : String} (hurl : given? settings.url = some s) (hbad : BadAddress s)
  | command {s : String} (hurl : given? settings.url = none) (hcommand : given? settings.command = some s)
      (hbad : BadCommand s)
  | port {s : String} (hurl : given? settings.url = none) (hcommand : given? settings.command = none)
      (hport : settings.port? = some s) (hbad : BadDigits s)

/-! ## The three readers -/

theorem request_of_bad (h : BadAddress s) : request s = .error (.misfit .badValue) := by
  rw [request, Url.split?_eq_none_iff.mpr h]
  rfl

theorem request_of_badPort (h : ¬BadAddress s) (hport : BadPort s) :
    ∃ fault, request s = .error (.badConfig none (.badProbeUrl s fault)) := by
  obtain ⟨url, hurl⟩ := Option.ne_none_iff_exists'.mp (mt Url.split?_eq_none_iff.mp h)
  obtain ⟨fault, hfault⟩ := (Url.port_eq_error_iff_of_split? hurl).mpr hport
  exact ⟨fault, by simp only [request, hurl, hfault]; rfl⟩

theorem request_of_not_bad (h : ¬BadAddress s) (hport : ¬BadPort s) : ∃ get, request s = .ok get := by
  obtain ⟨url, hurl⟩ := Option.ne_none_iff_exists'.mp (mt Url.split?_eq_none_iff.mp h)
  cases hfault : url.port with
  | error fault => exact absurd ((Url.port_eq_error_iff_of_split? hurl).mp ⟨fault, hfault⟩) hport
  | ok port => exact ⟨_, by simp only [request, hurl, hfault]; rfl⟩

theorem exec_of_bad (h : BadCommand s) : exec s = .error (.misfit .badValue) := by
  rw [exec, Text.shellWords?_eq_none_iff.mpr h]

theorem exec_of_not_bad (h : ¬BadCommand s) :
    ∃ words, Text.Words s.toList words ∧ exec s = .ok { command := .ofList (words.map Value.ofString) } := by
  obtain ⟨words, hwords⟩ := not_forall_not.mp h
  exact ⟨words, hwords, by rw [exec, Text.shellWords?_eq_some_iff.mpr hwords]⟩

theorem socket_of_bad (hne : s ≠ "") (h : BadDigits s) : socket s = .error (.misfit .badValue) := by
  have hdigits : s.toList.all Text.isDigit = true := List.all_eq_true.mpr h.digits
  rw [socket, if_pos hdigits, (Number.readInteger_eq_none_iff hne h.digits).mpr h.unreadable]

theorem socket_of_not_bad (hne : s ≠ "") (h : ¬BadDigits s) : ∃ port, socket s = .ok port := by
  by_cases hdigits : s.toList.all Text.isDigit = true
  · have hdigits' := List.all_eq_true.mp hdigits
    cases hn : Number.readInteger s with
    | none => exact absurd ⟨hdigits', (Number.readInteger_eq_none_iff hne hdigits').mp hn⟩ h
    | some n => exact ⟨_, by rw [socket, if_pos hdigits, hn]⟩
  · exact ⟨_, by rw [socket, if_neg hdigits]⟩

/-! ## The text that counts -/

theorem text?_of_given? (h : given? v = some s) : v.text? = some s :=
  (Option.filter_eq_some_iff.mp h).1

theorem isTruthy_eq_isSome (h : v.isNull = true ∨ v.text?.isSome = true) : v.isTruthy = (given? v).isSome := by
  rcases h with hnull | htext
  · obtain ⟨mark, rfl⟩ := Value.isNull_iff.mp hnull
    rfl
  · obtain ⟨s, hs⟩ := Option.isSome_iff_exists.mp htext
    obtain ⟨style, mark, rfl⟩ := Value.text?_eq_some_iff.mp hs
    by_cases hempty : s = "" <;> simp [given?, Value.isTruthy, Value.text?, hempty]

theorem ne_of_port? (h : settings.port? = some s) : settings.tcpPort = some s ∧ s ≠ "" := by
  obtain ⟨hport, hne⟩ := Option.filter_eq_some_iff.mp h
  exact ⟨hport, bne_iff_ne.mp hne⟩

theorem probe?_of_url (h : settings.Textual) (hurl : given? settings.url = some s) :
    settings.probe? = (request s).map fun get => some {
      httpGet := some get
      initialDelaySeconds := settings.initialDelaySeconds
      timeoutSeconds := settings.timeoutSeconds } := by
  have htruthy : settings.url.isTruthy = true := by rw [isTruthy_eq_isSome h.url, hurl, Option.isSome_some]
  simp only [probe?, htruthy, text?_of_given? hurl]
  cases request s <;> rfl

theorem probe?_of_command (h : settings.Textual) (hurl : given? settings.url = none)
    (hcommand : given? settings.command = some s) :
    settings.probe? = (exec s).map fun exec => some {
      exec := some exec
      initialDelaySeconds := settings.initialDelaySeconds
      timeoutSeconds := settings.timeoutSeconds } := by
  have hurl : settings.url.isTruthy = false := by rw [isTruthy_eq_isSome h.url, hurl, Option.isSome_none]
  have htruthy : settings.command.isTruthy = true := by
    rw [isTruthy_eq_isSome h.command, hcommand, Option.isSome_some]
  simp only [probe?, hurl, htruthy, text?_of_given? hcommand]
  cases exec s <;> rfl

theorem probe?_of_port (h : settings.Textual) (hurl : given? settings.url = none)
    (hcommand : given? settings.command = none) (hport : settings.port? = some s) :
    settings.probe? = (socket s).map fun socket => some {
      tcpSocket := some socket
      initialDelaySeconds := settings.initialDelaySeconds
      timeoutSeconds := settings.timeoutSeconds } := by
  have hurl : settings.url.isTruthy = false := by rw [isTruthy_eq_isSome h.url, hurl, Option.isSome_none]
  have hcommand : settings.command.isTruthy = false := by
    rw [isTruthy_eq_isSome h.command, hcommand, Option.isSome_none]
  obtain ⟨hport, hne⟩ := ne_of_port? hport
  simp only [probe?, hurl, hcommand, hport, beq_false_of_ne hne]
  cases socket s <;> rfl

theorem probe?_of_unset (h : settings.Textual) (hunset : settings.Unset) : settings.probe? = .ok none := by
  have hurl : settings.url.isTruthy = false := by rw [isTruthy_eq_isSome h.url, hunset.url, Option.isSome_none]
  have hcommand : settings.command.isTruthy = false := by
    rw [isTruthy_eq_isSome h.command, hunset.command, Option.isSome_none]
  have hport := hunset.port
  simp only [probe?, hurl, hcommand]
  cases htcp : settings.tcpPort with
  | none => rfl
  | some t =>
    obtain rfl : t = "" := by simpa [port?, htcp] using hport
    rfl

/-! ## What becomes of the settings -/

theorem probe?_of_unread (h : settings.Textual) (hunread : settings.Unread) :
    settings.probe? = .error (.misfit .badValue) := by
  cases hunread with
  | url hurl hbad => rw [probe?_of_url h hurl, request_of_bad hbad]; rfl
  | command hurl hcommand hbad => rw [probe?_of_command h hurl hcommand, exec_of_bad hbad]; rfl
  | port hurl hcommand hport hbad =>
    rw [probe?_of_port h hurl hcommand hport, socket_of_bad (ne_of_port? hport).2 hbad]; rfl

theorem probe?_of_badPort (h : settings.Textual) (hurl : given? settings.url = some s) (hread : ¬BadAddress s)
    (hport : BadPort s) : ∃ fault, settings.probe? = .error (.badConfig none (.badProbeUrl s fault)) := by
  obtain ⟨fault, hfault⟩ := request_of_badPort hread hport
  exact ⟨fault, by rw [probe?_of_url h hurl, hfault]; rfl⟩

/-- Settings that are read make a probe, if the port of the address is one. -/
theorem exists_probe (h : settings.Textual) (hset : ¬settings.Unset) (hread : ¬settings.Unread)
    (hport : ∀ s, given? settings.url = some s → ¬BadPort s) :
    ∃ probe, settings.probe? = .ok (some probe) ∧ settings.Looks probe := by
  cases hurl : given? settings.url with
  | some s =>
    obtain ⟨get, hget⟩ := request_of_not_bad (fun hbad => hread (.url hurl hbad)) (hport s hurl)
    exact ⟨_, by rw [probe?_of_url h hurl, hget]; rfl, .request hurl get⟩
  | none =>
    cases hcommand : given? settings.command with
    | some s =>
      obtain ⟨words, hwords, hexec⟩ := exec_of_not_bad fun hbad => hread (.command hurl hcommand hbad)
      exact ⟨_, by rw [probe?_of_command h hurl hcommand, hexec]; rfl, .command hurl hcommand hwords⟩
    | none =>
      cases hport : settings.port? with
      | some s =>
        obtain ⟨socket, hsocket⟩ :=
          socket_of_not_bad (ne_of_port? hport).2 fun hbad => hread (.port hurl hcommand hport hbad)
        exact ⟨_, by rw [probe?_of_port h hurl hcommand hport, hsocket]; rfl, .port hurl hcommand hport socket⟩
      | none => exact absurd ⟨hurl, hcommand, hport⟩ hset

/-- What becomes of settings: no probe, a probe, a failure that is not reported, or one that is. -/
inductive Becomes (settings : ProbeSettings) : Except Failure (Option Probe) → Prop
  | unset (h : settings.Unset) : Becomes settings (.ok none)
  | probe {probe : Probe} (h : settings.Looks probe) : Becomes settings (.ok (some probe))
  | unread (h : settings.Unread) : Becomes settings (.error (.misfit .badValue))
  | badPort {s : String} {fault : UrlPortFault} (hurl : given? settings.url = some s) (hread : ¬BadAddress s)
      (hport : BadPort s) : Becomes settings (.error (.badConfig none (.badProbeUrl s fault)))

theorem becomes_probe? (h : settings.Textual) : Becomes settings settings.probe? := by
  by_cases hunset : settings.Unset
  · rw [probe?_of_unset h hunset]
    exact .unset hunset
  by_cases hread : settings.Unread
  · rw [probe?_of_unread h hread]
    exact .unread hread
  by_cases hport : ∃ s, given? settings.url = some s ∧ BadPort s
  · obtain ⟨s, hurl, hport⟩ := hport
    have hread : ¬BadAddress s := fun hbad => hread (.url hurl hbad)
    obtain ⟨fault, hfault⟩ := probe?_of_badPort h hurl hread hport
    rw [hfault]
    exact .badPort hurl hread hport
  · obtain ⟨probe, hprobe, hlooks⟩ := exists_probe h hunset hread fun s hurl hbad => hport ⟨s, hurl, hbad⟩
    rw [hprobe]
    exact .probe hlooks

/-- **No probe comes of settings that give nothing to look at, and of these only. The others make a probe with one way
to look and the delays that are set, but for two kinds: an address whose port is none is reported as a fault of the
configuration, and a text that its reader refuses, an address for its authority, a command for what it is put together
from, or a port for its digits, ends without a report.** -/
theorem probe?_reported_iff (h : settings.Textual) :
    (settings.probe? = .ok none ↔ settings.Unset) ∧
    (∀ probe, settings.probe? = .ok (some probe) → settings.Looks probe) ∧
    (settings.probe? = .error (.misfit .badValue) ↔ settings.Unread) ∧
    (∀ s, (∃ fault, settings.probe? = .error (.badConfig none (.badProbeUrl s fault))) ↔
      given? settings.url = some s ∧ ¬BadAddress s ∧ BadPort s) ∧
    ∀ failure, settings.probe? = .error failure →
      failure = .misfit .badValue ∨ ∃ s fault, failure = .badConfig none (.badProbeUrl s fault) := by
  have hbecomes := becomes_probe? h
  refine ⟨⟨fun hnone => ?_, probe?_of_unset h⟩, fun probe hprobe => ?_, ⟨fun herror => ?_, probe?_of_unread h⟩,
    fun s => ⟨fun ⟨fault, herror⟩ => ?_, fun ⟨hurl, hread, hport⟩ => probe?_of_badPort h hurl hread hport⟩,
    fun failure herror => ?_⟩
  · rw [hnone] at hbecomes
    cases hbecomes with
    | unset h => exact h
  · rw [hprobe] at hbecomes
    cases hbecomes with
    | probe h => exact h
  · rw [herror] at hbecomes
    cases hbecomes with
    | unread h => exact h
  · rw [herror] at hbecomes
    cases hbecomes with
    | badPort hurl hread hport => exact ⟨hurl, hread, hport⟩
  · rw [herror] at hbecomes
    cases hbecomes with
    | unread => exact .inl rfl
    | badPort => exact .inr ⟨_, _, rfl⟩

/-- A quote that is closed, and one that is not. -/
theorem probe?_reported_iff_quote :
    (Textual { command := .ofString "cat 'my file'" } ∧
      Looks { command := .ofString "cat 'my file'" }
        { exec := some { command := .ofList [.ofString "cat", .ofString "my file"] } }) ∧
    Textual { command := .ofString "cat 'my file" } ∧ Unread { command := .ofString "cat 'my file" } := by
  have hclosed : Textual { command := .ofString "cat 'my file'" } := ⟨.inl rfl, .inr rfl⟩
  have hopen : Textual { command := .ofString "cat 'my file" } := ⟨.inl rfl, .inr rfl⟩
  exact ⟨⟨hclosed, (probe?_reported_iff hclosed).2.1 _ (by rfl)⟩, hopen,
    (probe?_reported_iff hopen).2.2.1.mp (by rfl)⟩

end KubeManifest.ProbeSettings
