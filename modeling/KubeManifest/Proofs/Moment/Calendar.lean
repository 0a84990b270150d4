import KubeManifest.Moment.Basic
import Mathlib.Logic.Function.Iterate
import Mathlib.Order.Monotone.Basic

/-!
# The calendar as a time line

Time goes on one microsecond after the other, through the days, months and years of the calendar.

* `Date.next`, `Clock.next?`, `Moment.tick` : the next day, and the next microsecond on a wall clock;
* `Date.ordinal_next`, `Moment.place_tick` : each of them has the next number;
* `Date.ordinal_inj`, `Moment.place_inj` : no two have one number;
* `Moment.LaterBy` : how long after a moment another one is, by their wall clocks and offsets;
* `Moment.laterBy_iff` : this is how far apart they are placed.
-/

namespace KubeManifest

/-! ## Time going on -/

def Date.next (d : Date) : Date :=
  if d.day < daysIn d.year d.month then ⟨d.year, d.month, d.day + 1⟩
  else if d.month < 12 then ⟨d.year, d.month + 1, 1⟩
  else ⟨d.year + 1, 1, 1⟩

/-- The next microsecond of a day, if the day has one. -/
def Clock.next? (c : Clock) : Option Clock :=
  if c.micro < 999999 then some ⟨c.hour, c.minute, c.second, c.micro + 1⟩
  else if c.second < 59 then some ⟨c.hour, c.minute, c.second + 1, 0⟩
  else if c.minute < 59 then some ⟨c.hour, c.minute + 1, 0, 0⟩
  else if c.hour < 23 then some ⟨c.hour + 1, 0, 0, 0⟩
  else none

def Moment.tick (wall : Date × Clock) : Date × Clock :=
  match wall.2.next? with
  | some c => (wall.1, c)
  | none => (wall.1.next, ⟨0, 0, 0, 0⟩)

/-! ## Days -/

namespace Date

variable {d d' : Date} {year month month' : Nat}

structure IsReal (d : Date) : Prop where
  month_pos : 1 ≤ d.month
  month_le : d.month ≤ 12
  day_pos : 1 ≤ d.day
  day_le : d.day ≤ daysIn d.year d.month

theorem isReal_of_isValid (h : d.isValid = true) : d.IsReal := by
  simp only [isValid, Bool.and_eq_true, decide_eq_true_eq] at h
  obtain ⟨⟨⟨⟨⟨-, -⟩, hpos⟩, hle⟩, hday⟩, hdays⟩ := h
  exact ⟨hpos, hle, hday, hdays⟩

theorem daysIn_pos (year month : Nat) : 1 ≤ daysIn year month := by
  unfold daysIn
  repeat' split
  all_goals omega

theorem daysBeforeMonth_succ (h : 1 ≤ month) :
    daysBeforeMonth year (month + 1) = daysBeforeMonth year month + daysIn year month := by
  have hne : month ≠ 0 := by omega
  simp [daysBeforeMonth, hne]

theorem daysBeforeMonth_one (year : Nat) : daysBeforeMonth year 1 = 0 := rfl

/-- A year is as long as its months. -/
theorem daysBeforeYear_succ (year : Nat) :
    daysBeforeYear (year + 1) = daysBeforeYear year + (daysBeforeMonth year 12 + daysIn year 12 : Nat) := by
  have hmonths : daysBeforeMonth year 12 + daysIn year 12 = 365 + if isLeap year then 1 else 0 := by
    by_cases hleap : isLeap year = true <;> simp [daysBeforeMonth, daysIn, hleap]
  rw [hmonths]
  simp only [daysBeforeYear, isLeap, Bool.and_eq_true, Bool.or_eq_true, beq_iff_eq, bne_iff_ne]
  split <;> omega

theorem daysBeforeYear_le {year year' : Nat} (h : year ≤ year') : daysBeforeYear year ≤ daysBeforeYear year' := by
  induction year', h using Nat.le_induction with
  | base => exact Int.le_refl _
  | succ y _ ih =>
    rw [daysBeforeYear_succ]
    omega

theorem daysBeforeMonth_add_le (year : Nat) (hpos : 1 ≤ month) (h : month < month') :
    daysBeforeMonth year month + daysIn year month ≤ daysBeforeMonth year month' := by
  rw [← daysBeforeMonth_succ hpos]
  induction month', h using Nat.le_induction with
  | base => exact Nat.le_refl _
  | succ m hm ih =>
    have hpos' : 1 ≤ m := by omega
    rw [daysBeforeMonth_succ hpos']
    omega

theorem isReal_next (h : d.IsReal) : d.next.IsReal := by
  obtain ⟨hpos, hle, hday, hdays⟩ := h
  unfold next
  split
  · exact ⟨hpos, hle, by simp, by assumption⟩
  · split
    · exact ⟨by simp, by assumption, Nat.le_refl _, daysIn_pos _ _⟩
    · exact ⟨Nat.le_refl _, by simp, Nat.le_refl _, daysIn_pos _ _⟩

/-- The next day has the next number. -/
theorem ordinal_next (h : d.IsReal) : d.next.ordinal = d.ordinal + 1 := by
  obtain ⟨hpos, hle, hday, hdays⟩ := h
  unfold next
  split
  · simp only [ordinal]
    omega
  · split
    · simp only [ordinal, daysBeforeMonth_succ hpos]
      omega
    · rename_i hlast hend
      have hmonth : d.month = 12 := by omega
      rw [hmonth] at hdays hlast
      simp only [ordinal, daysBeforeYear_succ, daysBeforeMonth_one, hmonth]
      omega

theorem ordinal_le (h : d.IsReal) : d.ordinal ≤ daysBeforeYear (d.year + 1) := by
  have hyear : daysBeforeMonth d.year d.month + d.day ≤ daysBeforeMonth d.year 12 + daysIn d.year 12 := by
    rcases Nat.lt_or_eq_of_le h.month_le with hlt | heq
    · have hmonth := daysBeforeMonth_add_le d.year h.month_pos hlt
      have hday := h.day_le
      omega
    · have hday := h.day_le
      rw [heq] at hday ⊢
      omega
  rw [ordinal, daysBeforeYear_succ]
  omega

theorem ordinal_lt_of_year (h : d.IsReal) (h' : d'.IsReal) (hlt : d.year < d'.year) : d.ordinal < d'.ordinal := by
  have hday := h'.day_pos
  calc d.ordinal ≤ daysBeforeYear (d.year + 1) := ordinal_le h
    _ ≤ daysBeforeYear d'.year := daysBeforeYear_le hlt
    _ < d'.ordinal := by rw [ordinal]; omega

theorem ordinal_lt_of_month (h : d.IsReal) (h' : d'.IsReal) (hyear : d.year = d'.year) (hlt : d.month < d'.month) :
    d.ordinal < d'.ordinal := by
  have hmonth := daysBeforeMonth_add_le d.year h.month_pos hlt
  have hday := h.day_le
  have hday' := h'.day_pos
  rw [ordinal, ordinal, ← hyear]
  omega

/-- No two days have one number. -/
theorem ordinal_inj (h : d.IsReal) (h' : d'.IsReal) (heq : d.ordinal = d'.ordinal) : d = d' := by
  rcases Nat.lt_trichotomy d.year d'.year with hlt | hyear | hlt
  · exact absurd heq (ne_of_lt (ordinal_lt_of_year h h' hlt))
  · rcases Nat.lt_trichotomy d.month d'.month with hlt | hmonth | hlt
    · exact absurd heq (ne_of_lt (ordinal_lt_of_month h h' hyear hlt))
    · rw [ordinal, ordinal, hyear, hmonth] at heq
      have hday : d.day = d'.day := by omega
      cases d
      cases d'
      simp_all
    · exact absurd heq.symm (ne_of_lt (ordinal_lt_of_month h' h hyear.symm hlt))
  · exact absurd heq.symm (ne_of_lt (ordinal_lt_of_year h' h hlt))

end Date

/-! ## Times of day -/

namespace Moment

variable {d d' : Date} {c c' : Clock} {wall wall' : Date × Clock} {m n : Moment} {k : Int}

theorem clock_bounds (h : c.isValid = true) : c.hour < 24 ∧ c.minute < 60 ∧ c.second < 60 ∧ c.micro < 1000000 := by
  simpa [Clock.isValid, and_assoc] using h

theorem isValid_of_next? (h : c.isValid = true) (hnext : c.next? = some c') : c'.isValid = true := by
  have hbounds := clock_bounds h
  unfold Clock.next? at hnext
  repeat' split at hnext
  all_goals cases hnext
  all_goals
    simp only [Clock.isValid, Bool.and_eq_true, decide_eq_true_eq]
    omega

theorem clockMicroseconds_of_next? (h : c.isValid = true) (hnext : c.next? = some c') :
    clockMicroseconds c' = clockMicroseconds c + 1 := by
  have hbounds := clock_bounds h
  unfold Clock.next? at hnext
  repeat' split at hnext
  all_goals cases hnext
  all_goals
    simp only [clockMicroseconds]
    omega

theorem clockMicroseconds_of_next?_none (h : c.isValid = true) (hnext : c.next? = none) :
    clockMicroseconds c + 1 = dayLength := by
  have hbounds := clock_bounds h
  unfold Clock.next? at hnext
  repeat' split at hnext
  all_goals cases hnext
  simp only [clockMicroseconds, dayLength]
  omega

theorem clockMicroseconds_range (h : c.isValid = true) : 0 ≤ clockMicroseconds c ∧ clockMicroseconds c < dayLength := by
  have hbounds := clock_bounds h
  simp only [clockMicroseconds, dayLength]
  omega

theorem clockMicroseconds_inj (h : c.isValid = true) (h' : c'.isValid = true)
    (heq : clockMicroseconds c = clockMicroseconds c') : c = c' := by
  have hbounds := clock_bounds h
  have hbounds' := clock_bounds h'
  cases c
  cases c'
  simp only [clockMicroseconds] at heq hbounds hbounds'
  simp only [Clock.mk.injEq]
  omega

/-! ## Wall clocks -/

def place (wall : Date × Clock) : Int :=
  wall.1.ordinal * dayLength + clockMicroseconds wall.2

structure IsReal (wall : Date × Clock) : Prop where
  date : wall.1.IsReal
  clock : wall.2.isValid = true

theorem isReal_tick (h : IsReal wall) : IsReal (tick wall) := by
  unfold tick
  split
  · exact ⟨h.date, isValid_of_next? h.clock (by assumption)⟩
  · exact ⟨Date.isReal_next h.date, rfl⟩

/-- The next microsecond has the next number. -/
theorem place_tick (h : IsReal wall) : place (tick wall) = place wall + 1 := by
  unfold tick
  split
  · rename_i c hnext
    simp only [place, clockMicroseconds_of_next? h.clock hnext]
    omega
  · rename_i hnext
    have hend := clockMicroseconds_of_next?_none h.clock hnext
    have hstart : clockMicroseconds ⟨0, 0, 0, 0⟩ = 0 := rfl
    simp only [place, Date.ordinal_next h.date, hstart]
    simp only [dayLength] at hend ⊢
    omega

theorem isReal_iterate (h : IsReal wall) (count : Nat) : IsReal (tick^[count] wall) := by
  induction count with
  | zero => exact h
  | succ count ih =>
    rw [Function.iterate_succ_apply']
    exact isReal_tick ih

theorem place_iterate (h : IsReal wall) (count : Nat) : place (tick^[count] wall) = place wall + count := by
  induction count with
  | zero => simp
  | succ count ih =>
    rw [Function.iterate_succ_apply', place_tick (isReal_iterate h count), ih]
    omega

/-- No two microseconds have one number. -/
theorem place_inj (h : IsReal wall) (h' : IsReal wall') (heq : place wall = place wall') : wall = wall' := by
  have hclock := clockMicroseconds_range h.clock
  have hclock' := clockMicroseconds_range h'.clock
  simp only [place, dayLength] at heq hclock hclock'
  have hday : wall.1.ordinal = wall'.1.ordinal := by omega
  have htime : clockMicroseconds wall.2 = clockMicroseconds wall'.2 := by omega
  exact Prod.ext (Date.ordinal_inj h.date h'.date hday) (clockMicroseconds_inj h.clock h'.clock htime)

/-! ## Moments apart -/

/-- A moment that is `k` microseconds after another one: the wall clock of that one, set to the offset of this one,
goes on to show the time of this one in `k` microseconds, or has shown it before if `k` is negative. -/
inductive LaterBy (k : Int) : Moment → Moment → Prop
  | instants {d d' : Date} {c c' : Clock} {offset offset' : Int}
      (h : tick^[(k + offset - offset').toNat] (d', c') = tick^[(offset' - offset - k).toNat] (d, c)) :
      LaterBy k (.instant d c (some offset)) (.instant d' c' (some offset'))

theorem exists_instant (h : m.hasOffset = true) : ∃ d c offset, m = .instant d c (some offset) := by
  unfold hasOffset at h
  split at h
  · exact ⟨_, _, _, rfl⟩
  · contradiction

theorem isReal_of_isValid {offset : Option Int} (h : (instant d c offset).isValid = true) : IsReal (d, c) := by
  simp only [isValid, Bool.and_eq_true] at h
  exact ⟨Date.isReal_of_isValid h.1.1, h.1.2⟩

/-- Moments with an offset are as far apart as they are placed. -/
theorem laterBy_iff (hm : m.isValid = true) (hn : n.isValid = true) (hoffset : m.hasOffset = true)
    (hoffset' : n.hasOffset = true) : LaterBy k m n ↔ m.microseconds = n.microseconds + k := by
  obtain ⟨d, c, offset, rfl⟩ := exists_instant hoffset
  obtain ⟨d', c', offset', rfl⟩ := exists_instant hoffset'
  have hreal := isReal_of_isValid hm
  have hreal' := isReal_of_isValid hn
  have hplace := place_iterate hreal (offset' - offset - k).toNat
  have hplace' := place_iterate hreal' (k + offset - offset').toNat
  have hinstants : microseconds (.instant d c (some offset)) = place (d, c) - offset := rfl
  have hinstants' : microseconds (.instant d' c' (some offset')) = place (d', c') - offset' := rfl
  rw [hinstants, hinstants']
  constructor
  · rintro ⟨h⟩
    rw [← h] at hplace
    omega
  · intro h
    refine .instants (place_inj (isReal_iterate hreal' _) (isReal_iterate hreal _) ?_)
    omega

end Moment

end KubeManifest
