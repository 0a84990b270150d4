import KubeManifest.Moment.Iso
import KubeManifest.Proofs.Moment.Calendar
import KubeManifest.Proofs.Number.Decimal
import Mathlib.Data.List.TakeDrop
import Mathlib.Data.List.TakeWhile
import Mathlib.Data.String.Basic

/-!
# Written instants are read again

* `Moment.takeDigits_padded` : a number is read from its digits and the zeros before them;
* `Moment.readDate_dateText`, `Moment.readClock_clockText`, `Moment.readTime_offsetText` : dates, times of day and
  offsets are read from their written forms;
* `Moment.ofIso?_isoText` : so is an instant;
* `Moment.utc_notMem_isoText` : written forms without the letter of UTC.
-/

namespace KubeManifest.Moment

variable {w n hour minute second : Nat} {left : Nat} {parts : List Nat} {following : Option Char} {c : Clock}
  {d : Date} {rest : List Char} {offset : Int}

/-! ## Numbers -/

theorem toList_padded (w n : Nat) : (padded w n).toList =
    List.replicate (w - (Nat.toDigits 10 n).length) '0' ++ Nat.toDigits 10 n := by
  have hdigits : (toString n).toList = Nat.toDigits 10 n := Nat.toList_repr
  rw [padded, String.toList_append, String.toList_ofList, ← String.length_toList, hdigits]

theorem isDigit_of_mem_padded {a : Char} (h : a ∈ (padded w n).toList) : a.isDigit = true := by
  rw [toList_padded, List.mem_append] at h
  rcases h with h | h
  · rw [List.eq_of_mem_replicate h]
    rfl
  · exact Number.isDigit_of_mem_toDigits a h

theorem length_padded (hpos : 0 < w) (h : n < 10 ^ w) : (padded w n).toList.length = w := by
  have hle : (Nat.toDigits 10 n).length ≤ w := (Nat.length_toDigits_le_iff (by decide) hpos).mpr h
  rw [toList_padded, List.length_append, List.length_replicate]
  omega

/-- The zeros before the digits of a number do not count. -/
theorem foldl_padded (w n : Nat) :
    (padded w n).toList.foldl (fun n c => 10 * n + (c.toNat - '0'.toNat)) 0 = n := by
  have hzeros : ∀ count : Nat,
      (List.replicate count '0').foldl (fun n c => 10 * n + (c.toNat - '0'.toNat)) 0 = 0 := by
    intro count
    induction count with
    | zero => rfl
    | succ count ih => rw [List.replicate_succ, List.foldl_cons]; exact ih
  rw [toList_padded, List.foldl_append, hzeros]
  exact Nat.ofDigitChars_ten_toDigits

theorem takeDigits_padded (hpos : 0 < w) (h : n < 10 ^ w) (rest : List Char) :
    takeDigits w ((padded w n).toList ++ rest) = some (n, rest) := by
  have hlength := length_padded hpos h
  have hall : (padded w n).toList.all Char.isDigit = true :=
    List.all_eq_true.mpr fun _ hc => isDigit_of_mem_padded hc
  rw [takeDigits, List.take_left' hlength, List.drop_left' hlength, hlength, hall, foldl_padded]
  simp

theorem readFraction_padded (h : n < 1000000) (following : Option Char) :
    readFraction (padded 6 n).toList following = some (n, following.isNone) := by
  have htake := takeDigits_padded (w := 6) (by decide) h []
  rw [List.append_nil] at htake
  rw [readFraction, length_padded (by decide) h]
  simp [htake]

/-! ## Times of day -/

theorem readClockFrom_part (h : n < 100) (hne : rest ≠ []) :
    readClockFrom following true parts ((padded 2 n).toList ++ ':' :: rest) (left + 1) =
      readClockFrom following true (parts ++ [n]) rest left := by
  rw [readClockFrom, takeDigits_padded (by decide) h]
  simp [hne]

theorem readClockFrom_end (h : n < 100) :
    readClockFrom following true parts (padded 2 n).toList (left + 1) =
      some (parts ++ [n], 0, following.isNone) := by
  have htake := takeDigits_padded (w := 2) (by decide) h []
  rw [List.append_nil] at htake
  rw [readClockFrom, htake]
  rfl

theorem readClockFrom_fraction {micro : Nat} (hparts : parts ≠ []) (h : n < 100) (hmicro : micro < 1000000) :
    readClockFrom following true parts ((padded 2 n).toList ++ '.' :: (padded 6 micro).toList) (left + 1) =
      some (parts ++ [n], micro, following.isNone) := by
  have hne : (padded 6 micro).toList ≠ [] := by
    rw [← List.length_pos_iff, length_padded (by decide) hmicro]
    decide
  rw [readClockFrom, takeDigits_padded (by decide) h]
  simp [hne, hparts, readFraction_padded hmicro]

theorem toList_clockText (c : Clock) : (clockText c).toList =
    (padded 2 c.hour).toList ++ ':' :: ((padded 2 c.minute).toList ++ ':' :: ((padded 2 c.second).toList ++
      if c.micro = 0 then [] else '.' :: (padded 6 c.micro).toList)) := by
  have hcolon : ":".toList = [':'] := rfl
  have hpoint : ".".toList = ['.'] := rfl
  by_cases hmicro : c.micro = 0 <;>
    simp [clockText, String.toList_append, hcolon, hpoint, hmicro]

theorem padded_append_ne_nil (h : n < 100) (rest : List Char) : (padded 2 n).toList ++ rest ≠ [] := by
  have hlength := length_padded (w := 2) (by decide) h
  intro hnil
  rw [List.append_eq_nil_iff] at hnil
  rw [hnil.1] at hlength
  contradiction

theorem letters_clockText : ∀ a ∈ (clockText c).toList, a.isDigit = true ∨ a = ':' ∨ a = '.' := by
  intro a ha
  rw [toList_clockText] at ha
  simp only [List.mem_append, List.mem_cons] at ha
  rcases ha with ha | rfl | ha | rfl | ha | ha
  · exact .inl (isDigit_of_mem_padded ha)
  · exact .inr (.inl rfl)
  · exact .inl (isDigit_of_mem_padded ha)
  · exact .inr (.inl rfl)
  · exact .inl (isDigit_of_mem_padded ha)
  · split at ha
    · cases ha
    · rcases List.mem_cons.mp ha with rfl | ha
      · exact .inr (.inr rfl)
      · exact .inl (isDigit_of_mem_padded ha)

/-- A time of day is read from its written form. -/
theorem readClock_clockText (h : c.isValid = true) :
    readClock following (clockText c).toList = some (c, following.isNone) := by
  obtain ⟨hhour, hminute, hsecond, hmicro⟩ := clock_bounds h
  have hhour : c.hour < 100 := by omega
  have hminute : c.minute < 100 := by omega
  have hsecond : c.second < 100 := by omega
  rw [readClock, toList_clockText, readClockFrom_part hhour (padded_append_ne_nil hminute _),
    readClockFrom_part hminute (padded_append_ne_nil hsecond _)]
  by_cases hzero : c.micro = 0
  · rw [if_pos hzero, List.append_nil, readClockFrom_end hsecond]
    cases c
    simp_all
  · rw [if_neg hzero, readClockFrom_fraction (by simp) hsecond hmicro]
    rfl

/-- Hours and minutes alone are a time of day as well. -/
theorem readClock_minutes (hhour : hour < 100) (hminute : minute < 100) :
    readClock following ((padded 2 hour).toList ++ ':' :: (padded 2 minute).toList) =
      some (⟨hour, minute, 0, 0⟩, following.isNone) := by
  have hne := padded_append_ne_nil hminute []
  rw [List.append_nil] at hne
  rw [readClock, readClockFrom_part hhour hne, readClockFrom_end hminute]
  rfl

/-! ## Offsets -/

def offsetClock (offset : Int) : Clock :=
  ⟨offset.natAbs / 1000000 / 3600, offset.natAbs / 1000000 / 60 % 60, offset.natAbs / 1000000 % 60,
    offset.natAbs % 1000000⟩

theorem isValid_offsetClock (h : isValidOffset offset = true) : (offsetClock offset).isValid = true := by
  simp only [isValidOffset, Bool.and_eq_true, decide_eq_true_eq] at h
  simp only [Clock.isValid, Bool.and_eq_true, decide_eq_true_eq]
  simp only [dayLength] at h
  simp only [offsetClock]
  omega

theorem clockMicroseconds_offsetClock (offset : Int) : clockMicroseconds (offsetClock offset) = offset.natAbs := by
  simp only [clockMicroseconds, offsetClock]
  omega

def offsetBody (offset : Int) : List Char :=
  if (offsetClock offset).second = 0 ∧ (offsetClock offset).micro = 0 then
    (padded 2 (offsetClock offset).hour).toList ++ ':' :: (padded 2 (offsetClock offset).minute).toList
  else (clockText (offsetClock offset)).toList

theorem toList_offsetText (offset : Int) :
    (offsetText offset).toList = (if offset < 0 then '-' else '+') :: offsetBody offset := by
  have hcolon : ":".toList = [':'] := rfl
  have hpoint : ".".toList = ['.'] := rfl
  have hsign : (if offset < 0 then "-" else "+" : String).toList = [if offset < 0 then '-' else '+'] := by
    split <;> rfl
  simp only [offsetText, String.toList_append, hsign, offsetBody, toList_clockText, offsetClock]
  by_cases hsecond : offset.natAbs / 1000000 % 60 = 0 <;> by_cases hmicro : offset.natAbs % 1000000 = 0 <;>
    simp [hsecond, hmicro, hcolon, hpoint, String.toList_append]

theorem readClock_offsetBody (h : isValidOffset offset = true) :
    readClock none (offsetBody offset) = some (offsetClock offset, true) := by
  have hvalid := isValid_offsetClock h
  obtain ⟨hhour, hminute, -, -⟩ := clock_bounds hvalid
  unfold offsetBody
  split
  · rename_i hzero
    have hclock : (⟨(offsetClock offset).hour, (offsetClock offset).minute, 0, 0⟩ : Clock) = offsetClock offset :=
      congrArg₂ (Clock.mk _ _) hzero.1.symm hzero.2.symm
    rw [readClock_minutes (by omega) (by omega), hclock]
    rfl
  · exact readClock_clockText hvalid

/-! ## Dates -/

theorem toList_dateText (d : Date) : (dateText d).toList =
    (padded 4 d.year).toList ++ '-' :: ((padded 2 d.month).toList ++ '-' :: (padded 2 d.day).toList) := by
  have hdash : "-".toList = ['-'] := rfl
  simp [dateText, String.toList_append, hdash]

theorem bounds_of_isValid (h : d.isValid = true) : d.year < 10000 ∧ d.month < 100 ∧ d.day < 100 := by
  have hdays : Date.daysIn d.year d.month ≤ 31 := by
    unfold Date.daysIn
    repeat' split
    all_goals omega
  simp only [Date.isValid, Bool.and_eq_true, decide_eq_true_eq] at h
  omega

theorem length_dateText (h : d.isValid = true) : (dateText d).toList.length = 10 := by
  obtain ⟨hyear, hmonth, hday⟩ := bounds_of_isValid h
  simp [toList_dateText, length_padded (w := 4) (by decide) hyear, length_padded (w := 2) (by decide) hmonth,
    length_padded (w := 2) (by decide) hday]

/-- The letters of a month do not begin as those of a week do. -/
theorem exists_padded_month (h : n < 100) :
    ∃ a b, (padded 2 n).toList = [a, b] ∧ a ≠ 'W' ∧ ∀ rest, takeDigits 2 (a :: b :: rest) = some (n, rest) := by
  obtain ⟨a, b, hab⟩ := List.length_eq_two.mp (length_padded (w := 2) (by decide) h)
  have ha : a.isDigit = true := isDigit_of_mem_padded (by rw [hab]; exact List.mem_cons_self)
  refine ⟨a, b, hab, fun heq => absurd (heq ▸ ha) (by decide), fun rest => ?_⟩
  have htake := takeDigits_padded (w := 2) (by decide) h rest
  rwa [hab] at htake

theorem readDate_dateText (h : d.isValid = true) : readDate (dateText d).toList = some d := by
  obtain ⟨hyear, hmonth, hday⟩ := bounds_of_isValid h
  obtain ⟨a, b, hab, hweek, htake⟩ := exists_padded_month hmonth
  have htake' := takeDigits_padded (w := 2) (by decide) hday []
  rw [List.append_nil] at htake'
  rw [toList_dateText, readDate, takeDigits_padded (by decide) hyear, hab]
  simp [hweek, htake, htake']

/-- A date of ten letters is told by the dashes in it. -/
theorem dateLength_dateText (h : d.isValid = true) (time : List Char) :
    dateLength ((dateText d).toList ++ time) = some 10 := by
  obtain ⟨hyear, hmonth, hday⟩ := bounds_of_isValid h
  obtain ⟨a, b, hab, hweek, -⟩ := exists_padded_month hmonth
  have hlength := length_padded (w := 4) (by decide) hyear
  have hdash : ((dateText d).toList ++ time)[4]? = some '-' := by
    rw [toList_dateText, List.append_assoc, List.getElem?_append_right (by omega), hlength]
    rfl
  have hmonth : ((dateText d).toList ++ time)[5]? = some a := by
    rw [toList_dateText, List.append_assoc, List.getElem?_append_right (by omega), hlength, hab]
    rfl
  have hlong : 10 + time.length ≠ 7 := by omega
  simp [dateLength, hdash, hmonth, hweek, length_dateText h, hlong]

/-! ## Instants -/

def beginsOffset (c : Char) : Bool :=
  c == '+' || c == '-' || c == 'Z'

theorem not_beginsOffset_clockText : ∀ a ∈ (clockText c).toList, beginsOffset a = false := by
  intro a ha
  rcases letters_clockText a ha with hdigit | rfl | rfl
  · rw [beginsOffset, Bool.or_eq_false_iff, Bool.or_eq_false_iff]
    refine ⟨⟨?_, ?_⟩, ?_⟩ <;> rw [beq_eq_false_iff_ne] <;> rintro rfl <;> exact absurd hdigit (by decide)
  · rfl
  · rfl

theorem readTime_offsetText (hc : c.isValid = true) (h : isValidOffset offset = true)
    (hseconds : offset = 0 ∨ 1000000 ≤ offset.natAbs) :
    readTime ((clockText c).toList ++ (offsetText offset).toList) = some (c, some offset) := by
  have hspan : ((clockText c).toList ++ (offsetText offset).toList).span (! beginsOffset ·) =
      ((clockText c).toList, (if offset < 0 then '-' else '+') :: offsetBody offset) := by
    have hsign : beginsOffset (if offset < 0 then '-' else '+') = true := by split <;> rfl
    rw [List.span_eq_takeWhile_dropWhile, toList_offsetText,
      List.takeWhile_append_of_pos (by simpa using not_beginsOffset_clockText),
      List.dropWhile_append_of_pos (by simpa using not_beginsOffset_clockText)]
    simp [hsign]
  have hvalue : (if (offsetClock offset).hour == 0 && (offsetClock offset).minute == 0 &&
      (offsetClock offset).second == 0 then 0 else clockMicroseconds (offsetClock offset)) = offset.natAbs := by
    split
    · rename_i hzero
      simp only [Bool.and_eq_true, beq_iff_eq, offsetClock] at hzero
      omega
    · exact clockMicroseconds_offsetClock offset
  unfold beginsOffset at hspan
  rw [readTime]
  simp only [hspan, readClock_clockText hc, readClock_offsetBody h, Option.bind_eq_bind, Option.bind_some, hvalue]
  by_cases hneg : offset < 0
  · have habs : -(offset.natAbs : Int) = offset := by omega
    rw [if_pos hneg]
    exact congrArg (fun n => some (c, some n)) habs
  · have habs : (offset.natAbs : Int) = offset := by omega
    rw [if_neg hneg]
    exact congrArg (fun n => some (c, some n)) habs

theorem length_le_utf8Len (cs : List Char) : cs.length ≤ String.utf8Len cs := by
  induction cs with
  | nil => exact Nat.le_refl _
  | cons a cs ih =>
    have hpos := Char.utf8Size_pos a
    rw [List.length_cons, String.utf8Len_cons]
    omega

theorem toList_isoText (d : Date) (c : Clock) (offset : Option Int) :
    ((instant d c offset).isoText "T").toList =
      (dateText d).toList ++ 'T' :: ((clockText c).toList ++ ((offset.map offsetText).getD "").toList) := by
  have hmark : "T".toList = ['T'] := rfl
  simp [isoText, String.toList_append, hmark]

/-- An instant with an offset is read from its written form, unless the offset is less than a second. -/
theorem ofIso?_isoText (h : (instant d c (some offset)).isValid = true)
    (hseconds : offset = 0 ∨ 1000000 ≤ offset.natAbs) :
    ofIso? ((instant d c (some offset)).isoText "T") = some (.instant d c (some offset)) := by
  obtain ⟨⟨hd, hc⟩, hoffset⟩ : (d.isValid = true ∧ c.isValid = true) ∧ isValidOffset offset = true := by
    simpa [isValid] using h
  have htext := toList_isoText d c (some offset)
  have hlength := length_dateText hd
  have hsize : ¬((instant d c (some offset)).isoText "T").utf8ByteSize < 7 := by
    have hle := length_le_utf8Len ((instant d c (some offset)).isoText "T").toList
    rw [← String.utf8Len_toList]
    rw [htext, List.length_append, hlength] at hle
    rw [htext]
    omega
  rw [ofIso?, if_neg hsize, htext]
  simp only [dateLength_dateText hd, List.take_left' hlength, List.drop_left' hlength, readDate_dateText hd,
    Option.map_some, Option.getD_some, readTime_offsetText hc hoffset hseconds, Option.bind_eq_bind, Option.bind_some,
    h, if_true]

/-- No written form has the letter of UTC. -/
theorem utc_notMem_isoText (d : Date) (c : Clock) (offset : Option Int) :
    'Z' ∉ ((instant d c offset).isoText "T").toList := by
  have hpadded : ∀ w n, 'Z' ∉ (padded w n).toList :=
    fun _ _ h => absurd (isDigit_of_mem_padded h) (by decide)
  have hclock : ∀ c : Clock, 'Z' ∉ (clockText c).toList := fun _ h => by
    rcases letters_clockText _ h with h | h | h <;> exact absurd h (by decide)
  have hoffset : ∀ offset : Int, 'Z' ∉ (offsetText offset).toList := by
    intro offset
    have hsign : 'Z' ≠ if offset < 0 then '-' else '+' := by split <;> decide
    rw [toList_offsetText, List.mem_cons, not_or, offsetBody]
    refine ⟨hsign, ?_⟩
    split
    · simp [hpadded]
    · exact hclock _
  have hdate : 'Z' ∉ (dateText d).toList := by simp [toList_dateText, hpadded]
  rw [toList_isoText]
  cases offset with
  | none => simp [hdate, hclock]
  | some offset => simp [hdate, hclock, hoffset]

end KubeManifest.Moment
