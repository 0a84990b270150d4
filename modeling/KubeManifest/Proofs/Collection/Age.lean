import KubeManifest.Collection.Age
import KubeManifest.Proofs.Moment.Calendar
import KubeManifest.Proofs.Moment.Iso
import KubeManifest.Proofs.Value.Entries
import Mathlib.Order.Defs.Unbundled

/-!
# Newer resources

* `Resource.Stamp`, `Resource.Timed` : the texts of instants with an offset, and resources that have such a text or no
  time at all;
* `Resource.Stamp.isoText`, `Resource.Stamp.utc` : such texts are the written forms with an offset or the letter of UTC;
* `Resource.Timed.age`, `Resource.Timed.newer_iff` : resources are compared by the places of their instants, those
  without a time below all others;
* `Resource.Timed.newer_strictWeakOrder` : this is a strict weak order, by instants.
-/

namespace KubeManifest

namespace Moment

variable {s : String} {m : Moment}

/-! ## Texts of instants -/

theorem isValid_of_ofIso? (h : ofIso? s = some m) : m.isValid = true := by
  unfold ofIso? at h
  split at h
  · cases h
  · simp only [Option.bind_eq_bind, Option.bind_eq_some_iff] at h
    obtain ⟨length, -, d, -, h⟩ := h
    split at h
    all_goals
      simp only [Option.bind_eq_some_iff] at h
      obtain ⟨⟨c, offset⟩, -, h⟩ := h
      split at h
      · cases h
        assumption
      · cases h

theorem ofIso?_empty : ofIso? (spellOutUtc "") = none := by
  decide +kernel

theorem flatMap_spellOut {cs : List Char} (h : 'Z' ∉ cs) :
    cs.flatMap (fun c => if c == 'Z' then "+00:00".toList else [c]) = cs := by
  have hsame : ∀ c ∈ cs, (if c == 'Z' then "+00:00".toList else [c]) = [c] := by
    intro c hc
    have hne : c ≠ 'Z' := fun heq => h (heq ▸ hc)
    simp [hne]
  rw [List.flatMap_congr hsame, List.flatMap_singleton']

theorem spellOutUtc_of_notMem (h : 'Z' ∉ s.toList) : spellOutUtc s = s := by
  rw [spellOutUtc, flatMap_spellOut h, String.ofList_toList]

/-- The letter of UTC at the end stands for the offset. -/
theorem spellOutUtc_append (h : 'Z' ∉ s.toList) : spellOutUtc (s ++ "Z") = s ++ "+00:00" := by
  have hletter : "Z".toList.flatMap (fun c => if c == 'Z' then "+00:00".toList else [c]) = "+00:00".toList := rfl
  rw [spellOutUtc, String.toList_append, List.flatMap_append, flatMap_spellOut h, hletter, ← String.toList_append,
    String.ofList_toList]

end Moment

namespace Resource

/-! ## Times of creation -/

/-- The time that a value gives: none if it is null or empty, else the instant of a text with an offset. -/
inductive Stamp : Value → Option Moment → Prop
  | unset {v : Value} (h : v.isNull = true) : Stamp v none
  | empty {v : Value} (h : v.text? = some "") : Stamp v none
  | dated {v : Value} {s : String} {m : Moment} (h : v.text? = some s)
      (hm : Moment.ofIso? (Moment.spellOutUtc s) = some m) (hoffset : m.hasOffset = true) : Stamp v (some m)

/-- The written form of an instant stands for it, unless its offset is less than a second. -/
theorem Stamp.isoText {v : Value} {d : Date} {c : Clock} {offset : Int}
    (h : (Moment.instant d c (some offset)).isValid = true) (hseconds : offset = 0 ∨ 1000000 ≤ offset.natAbs)
    (hv : v.text? = some ((Moment.instant d c (some offset)).isoText "T")) :
    Stamp v (some (.instant d c (some offset))) := by
  refine .dated hv ?_ rfl
  rw [Moment.spellOutUtc_of_notMem (Moment.utc_notMem_isoText d c _)]
  exact Moment.ofIso?_isoText h hseconds

/-- So does the written form of an instant in UTC with the letter in place of the offset. -/
theorem Stamp.utc {v : Value} {d : Date} {c : Clock} (h : (Moment.instant d c none).isValid = true)
    (hv : v.text? = some ((Moment.instant d c none).isoText "T" ++ "Z")) : Stamp v (some (.instant d c (some 0))) := by
  have hzero : (Moment.instant d c (some 0)).isoText "T" = (Moment.instant d c none).isoText "T" ++ "+00:00" := by
    have hoffset : Moment.offsetText 0 = "+00:00" := by decide +kernel
    simp [Moment.isoText, hoffset]
  have hvalid : (Moment.instant d c (some 0)).isValid = true := by
    simpa [Moment.isValid, Moment.isValidOffset, Moment.dayLength] using h
  refine .dated hv ?_ rfl
  rw [Moment.spellOutUtc_append (Moment.utc_notMem_isoText d c _), ← hzero]
  exact Moment.ofIso?_isoText hvalid (.inl rfl)

/-- A resource with its time of creation, if it has one. -/
structure Timed where
  resource : Resource
  created : Option Moment
  stamp : Stamp resource.metadata.creationTimestamp created

namespace Timed

variable {a b c : Timed} {m n : Moment}

theorem created?_eq (a : Timed) : a.resource.created? = .ok a.created := by
  obtain ⟨r, t, h⟩ := a
  change r.created? = .ok t
  cases h with
  | unset h =>
    obtain ⟨mark, hv⟩ := Value.isNull_iff.mp h
    rw [created?, hv]
    rfl
  | empty h =>
    obtain ⟨style, mark, hv⟩ := Value.text?_eq_some_iff.mp h
    rw [created?, hv]
    rfl
  | @dated s m h hm hoffset =>
    obtain ⟨style, mark, hv⟩ := Value.text?_eq_some_iff.mp h
    have hne : s ≠ "" := by
      rintro rfl
      rw [Moment.ofIso?_empty] at hm
      cases hm
    rw [created?, hv]
    simp [Value.isTruthy, Value.display, hne, hm]

theorem isValid_of_created (h : a.created = some m) : m.isValid = true ∧ m.hasOffset = true := by
  obtain ⟨r, t, hstamp⟩ := a
  obtain rfl : t = some m := h
  cases hstamp with
  | dated _ hm hoffset => exact ⟨Moment.isValid_of_ofIso? hm, hoffset⟩

/-! ## Comparisons -/

def Newer (a b : Timed) : Prop :=
  a.resource.isNewer b.resource = .ok true

/-- The place of a resource on the time line, if it has a time. None is below all others. -/
def age (a : Timed) : Option Int :=
  a.created.map Moment.microseconds

/-- Resources are compared by their places. -/
theorem exists_isNewer (a b : Timed) :
    ∃ newer, a.resource.isNewer b.resource = .ok newer ∧ (newer = true ↔ b.age < a.age) := by
  rw [isNewer, created?_eq, created?_eq]
  cases ha : a.created with
  | none => exact ⟨false, rfl, by simp [age, ha]⟩
  | some m =>
    cases hb : b.created with
    | none => exact ⟨true, rfl, by simp [age, ha, hb]⟩
    | some n =>
      have hoffset : (m.hasOffset == n.hasOffset) = true := by
        rw [(isValid_of_created ha).2, (isValid_of_created hb).2]
        rfl
      exact ⟨_, if_pos hoffset, by simp [age, ha, hb]⟩

theorem newer_iff : Newer a b ↔ b.age < a.age := by
  obtain ⟨newer, hnewer, hiff⟩ := exists_isNewer a b
  rw [Newer, hnewer, ← hiff, Except.ok.injEq]

theorem newer_iff_microseconds (ha : a.created = some m) (hb : b.created = some n) :
    Newer a b ↔ n.microseconds < m.microseconds := by
  simp [newer_iff, age, ha, hb]

/-- Where one place is not after another one, it is the same or before. -/
theorem not_newer_iff : ¬Newer a b ↔ ∀ t ∈ a.age, ∃ u ∈ b.age, t ≤ u := by
  rw [newer_iff]
  cases ha : a.age with
  | none => simp
  | some t => cases hb : b.age <;> simp

theorem not_newer_trans (h : ¬Newer a b) (h' : ¬Newer b c) : ¬Newer a c := by
  rw [not_newer_iff] at h h' ⊢
  intro t ht
  obtain ⟨u, hu, hle⟩ := h t ht
  obtain ⟨v, hv, hle'⟩ := h' u hu
  exact ⟨v, hv, Int.le_trans hle hle'⟩

theorem Newer.asymm (h : Newer a b) : ¬Newer b a := by
  rw [newer_iff] at h
  rw [not_newer_iff]
  intro t ht
  cases ha : a.age with
  | none => simp [ha] at h
  | some u =>
    rw [ha, Option.mem_def.mp ht, Option.some_lt_some] at h
    exact ⟨u, rfl, Int.le_of_lt h⟩

instance : IsStrictWeakOrder Timed Newer where
  irrefl _ h := h.asymm h
  trans _ _ _ h h' := by
    by_contra hnot
    exact not_newer_trans hnot h'.asymm h
  incomp_trans _ _ _ h h' := ⟨not_newer_trans h.1 h'.1, not_newer_trans h'.2 h.2⟩

/-- **Of any two resources, it can be told whether one is newer than the other. This is a strict weak order: those
without a time are newer than nothing and older than every other, and the others are as new as the instants of their
texts are late, in whatever offsets these are written. Two of them are equally new exactly if one instant is zero
microseconds after the other.** -/
theorem newer_strictWeakOrder :
    (∀ a b : Timed, ∃ newer, a.resource.isNewer b.resource = .ok newer) ∧
    IsStrictWeakOrder Timed Newer ∧
    (∀ a b : Timed, a.created = none → ¬Newer a b ∧ (b.created ≠ none → Newer b a)) ∧
    ∀ (a b : Timed) (m n : Moment), a.created = some m → b.created = some n →
      (Newer a b ↔ ∃ k > 0, Moment.LaterBy k m n) ∧ (¬Newer a b ∧ ¬Newer b a ↔ Moment.LaterBy 0 m n) := by
  refine ⟨fun a b => (exists_isNewer a b).imp fun _ h => h.1, inferInstance, fun a b ha => ?_, fun a b m n ha hb => ?_⟩
  · refine ⟨by simp [newer_iff, age, ha], fun hb => ?_⟩
    obtain ⟨n, hn⟩ := Option.ne_none_iff_exists'.mp hb
    simp [newer_iff, age, ha, hn]
  · obtain ⟨hm, hoffset⟩ := isValid_of_created ha
    obtain ⟨hn, hoffset'⟩ := isValid_of_created hb
    simp only [Moment.laterBy_iff hm hn hoffset hoffset', newer_iff_microseconds ha hb, newer_iff_microseconds hb ha]
    constructor
    · exact ⟨fun h => ⟨m.microseconds - n.microseconds, by omega, by omega⟩, fun ⟨k, hk, h⟩ => by omega⟩
    · omega

/-- Noon of one clock and ten of another one, and a resource without a time. -/
theorem newer_strictWeakOrder_noon : ∃ utc east undated : Timed,
    utc.resource.metadata.creationTimestamp = .ofString "2017-01-01T10:00:00Z" ∧
    east.resource.metadata.creationTimestamp = .ofString "2017-01-01T12:00:00+02:00" ∧
    undated.resource.metadata.creationTimestamp = .null ∧
    ¬Newer utc east ∧ ¬Newer east utc ∧ Newer east undated ∧ ¬Newer undated utc := by
  let stamped (text : String) : Resource :=
    { kind := .null, apiVersion := .null, metadata := { creationTimestamp := .ofString text } }
  let utc : Timed := ⟨stamped "2017-01-01T10:00:00Z", some (.instant ⟨2017, 1, 1⟩ ⟨10, 0, 0, 0⟩ (some 0)), .utc rfl rfl⟩
  let east : Timed := ⟨stamped "2017-01-01T12:00:00+02:00",
    some (.instant ⟨2017, 1, 1⟩ ⟨12, 0, 0, 0⟩ (some 7200000000)), .isoText rfl (.inr (by decide)) rfl⟩
  let undated : Timed := ⟨{ kind := .null, apiVersion := .null }, none, .unset rfl⟩
  obtain ⟨-, -, hundated, hdated⟩ := newer_strictWeakOrder
  have hsame : Moment.LaterBy 0 (.instant ⟨2017, 1, 1⟩ ⟨10, 0, 0, 0⟩ (some 0))
      (.instant ⟨2017, 1, 1⟩ ⟨12, 0, 0, 0⟩ (some 7200000000)) :=
    (Moment.laterBy_iff rfl rfl rfl rfl).mpr rfl
  have hlevel := (hdated utc east _ _ rfl rfl).2.mpr hsame
  exact ⟨utc, east, undated, rfl, rfl, rfl, hlevel.1, hlevel.2, (hundated undated east rfl).2 (by simp [east]),
    (hundated undated utc rfl).1⟩

end Timed

end Resource

end KubeManifest
