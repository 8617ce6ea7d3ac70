import Mathlib.Algebra.Group.Nat.Defs
import Mathlib.Data.List.Basic
import PullReview.Forge.Timestamp
/-!
# Timestamps in order

A timestamp is written with its largest part first, every part in a fixed width, and the fraction only if there is one.  So
the texts of valid timestamps are ordered as the points in time are (`text_lt_iff`), and no two of them have one text
(`text_inj`).  Points in time are told apart by the microseconds since the beginning of the year 1 (`instant`).
-/
namespace PullReview

/-! ## Numbers of fixed width -/

theorem append_lt_append_iff {s t : List Char} : ∀ {u v : List Char}, u.length = v.length →
    (u ++ s < v ++ t ↔ u < v ∨ u = v ∧ s < t)
  | [], [], _ => by simp
  | a :: u, b :: v, h => by
    have ih : u ++ s < v ++ t ↔ u < v ∨ u = v ∧ s < t := append_lt_append_iff (Nat.succ.inj h)
    rw [List.cons_append, List.cons_append, List.cons_lt_cons_iff, List.cons_lt_cons_iff, ih, List.cons.injEq]
    by_cases hab : a = b <;> simp [hab]

namespace Timestamp

/-- The last digits of a number, leading zeros included. -/
def lastDigits : Nat → Nat → List Char
  | 0, _ => []
  | width + 1, n => lastDigits width (n / 10) ++ [Nat.digitChar (n % 10)]

theorem length_lastDigits : ∀ width n : Nat, (lastDigits width n).length = width
  | 0, _ => rfl
  | width + 1, n => by rw [lastDigits, List.length_append, length_lastDigits width, List.length_singleton]

theorem lastDigits_zero : ∀ width : Nat, lastDigits width 0 = List.replicate width '0'
  | 0 => rfl
  | width + 1 => by
    rw [lastDigits, Nat.zero_div, lastDigits_zero width, List.replicate_succ']
    rfl

theorem toDigits_padded : ∀ (width n : Nat), n < 10 ^ (width + 1) →
    List.replicate (width + 1 - (Nat.toDigits 10 n).length) '0' ++ Nat.toDigits 10 n = lastDigits (width + 1) n
  | 0, n, h => by
    have hn : n < 10 := by omega
    rw [Nat.toDigits_of_lt_base hn, lastDigits, Nat.mod_eq_of_lt hn]
    rfl
  | width + 1, n, h => by
    by_cases hn : n < 10
    · rw [Nat.toDigits_of_lt_base hn, lastDigits, Nat.div_eq_of_lt hn, Nat.mod_eq_of_lt hn, lastDigits_zero]
      rfl
    · have ih := toDigits_padded width (n / 10) (by omega)
      rw [Nat.toDigits_of_base_le (by decide) (by omega), lastDigits, ← ih, List.length_append, List.length_singleton,
        Nat.add_sub_add_right, List.append_assoc]

theorem toList_padded {width n : Nat} (hwidth : 0 < width) (hn : n < 10 ^ width) :
    (padded width n).toList = lastDigits width n := by
  obtain ⟨w, rfl⟩ : ∃ w, width = w + 1 := ⟨width - 1, by omega⟩
  have hlength : (toString n).length = (Nat.toDigits 10 n).length := by
    rw [← String.length_toList]
    simp
  rw [← toDigits_padded w n hn, padded, hlength]
  simp

theorem digitChar_lt_iff : ∀ a < 10, ∀ b < 10, Nat.digitChar a < Nat.digitChar b ↔ a < b := by decide

theorem digitChar_inj : ∀ a < 10, ∀ b < 10, Nat.digitChar a = Nat.digitChar b → a = b := by decide

theorem lastDigits_inj : ∀ {width n m : Nat}, n < 10 ^ width → m < 10 ^ width → lastDigits width n = lastDigits width m →
    n = m
  | 0, n, m, hn, hm, _ => by omega
  | width + 1, n, m, hn, hm, h => by
    obtain ⟨hfront, hlast⟩ := List.append_inj h (by rw [length_lastDigits, length_lastDigits])
    have hdiv : n / 10 = m / 10 := lastDigits_inj (by omega) (by omega) hfront
    have hmod := digitChar_inj (n % 10) (by omega) (m % 10) (by omega) (List.cons.inj hlast).1
    omega

/-- **Numbers of one width are ordered as their digits are.** -/
theorem lastDigits_lt_iff : ∀ {width n m : Nat}, n < 10 ^ width → m < 10 ^ width →
    (lastDigits width n < lastDigits width m ↔ n < m)
  | 0, n, m, hn, hm => by
    simp only [lastDigits, List.not_lt_nil, false_iff]
    omega
  | width + 1, n, m, hn, hm => by
    have hn' : n / 10 < 10 ^ width := by omega
    have hm' : m / 10 < 10 ^ width := by omega
    have hsame : lastDigits width (n / 10) = lastDigits width (m / 10) ↔ n / 10 = m / 10 :=
      ⟨lastDigits_inj hn' hm', fun h => by rw [h]⟩
    have hlast := digitChar_lt_iff (n % 10) (by omega) (m % 10) (by omega)
    rw [lastDigits, lastDigits, append_lt_append_iff (by rw [length_lastDigits, length_lastDigits]),
      lastDigits_lt_iff hn' hm', hsame, List.cons_lt_cons_iff, hlast]
    simp only [List.not_lt_nil, and_false, or_false]
    omega

theorem padded_append_lt_iff {width n m : Nat} (hwidth : 0 < width) (hn : n < 10 ^ width) (hm : m < 10 ^ width)
    {s t : List Char} : (padded width n).toList ++ s < (padded width m).toList ++ t ↔ n < m ∨ n = m ∧ s < t := by
  have hsame : lastDigits width n = lastDigits width m ↔ n = m := ⟨lastDigits_inj hn hm, fun h => by rw [h]⟩
  rw [toList_padded hwidth hn, toList_padded hwidth hm,
    append_lt_append_iff (by rw [length_lastDigits, length_lastDigits]), lastDigits_lt_iff hn hm, hsame]

/-! ## The calendar -/

def daysIn (year month : Nat) : Nat :=
  if month = 2 then if year % 4 = 0 ∧ (year % 100 ≠ 0 ∨ year % 400 = 0) then 29 else 28
  else if month = 4 ∨ month = 6 ∨ month = 9 ∨ month = 11 then 30 else 31

def daysToMonth (year : Nat) : Nat → Nat
  | 0 | 1 => 0
  | month + 2 => daysToMonth year (month + 1) + daysIn year (month + 1)

/-- The days before a year, counted from the year 1. -/
def daysToYear : Nat → Nat
  | 0 | 1 => 0
  | year + 2 => daysToYear (year + 1) + daysToMonth (year + 1) 13

-- four centuries, after which the calendar repeats
example : daysToYear 401 = 146097 := by decide +kernel

def daysBefore (t : Timestamp) : Nat := daysToYear t.year + daysToMonth t.year t.month + (t.day - 1)

/-- The microseconds from the beginning of the year 1. -/
def instant (t : Timestamp) : Nat :=
  (((t.daysBefore * 24 + t.hour) * 60 + t.minute) * 60 + t.second) * 1000000 + t.microsecond

structure IsValid (t : Timestamp) : Prop where
  year : 1 ≤ t.year ∧ t.year ≤ 9999
  month : 1 ≤ t.month ∧ t.month ≤ 12
  day : 1 ≤ t.day ∧ t.day ≤ daysIn t.year t.month
  hour : t.hour < 24
  minute : t.minute < 60
  second : t.second < 60
  microsecond : t.microsecond < 1000000

instance (t : Timestamp) : Decidable t.IsValid :=
  decidable_of_iff
    ((1 ≤ t.year ∧ t.year ≤ 9999) ∧ (1 ≤ t.month ∧ t.month ≤ 12) ∧ (1 ≤ t.day ∧ t.day ≤ daysIn t.year t.month) ∧
      t.hour < 24 ∧ t.minute < 60 ∧ t.second < 60 ∧ t.microsecond < 1000000)
    ⟨fun ⟨hy, hm, hd, hh, hmin, hsec, hmicro⟩ => ⟨hy, hm, hd, hh, hmin, hsec, hmicro⟩,
      fun ⟨hy, hm, hd, hh, hmin, hsec, hmicro⟩ => ⟨hy, hm, hd, hh, hmin, hsec, hmicro⟩⟩

theorem daysToMonth_le (year : Nat) {m n : Nat} (hm : 1 ≤ m) (h : m < n) :
    daysToMonth year m + daysIn year m ≤ daysToMonth year n := by
  induction n with
  | zero => omega
  | succ n ih =>
    obtain ⟨k, rfl⟩ : ∃ k, n = k + 1 := ⟨n - 1, by omega⟩
    rw [daysToMonth]
    by_cases hlast : m = k + 1
    · subst hlast
      exact Nat.le_refl _
    · have hle := ih (by omega)
      omega

theorem daysToYear_le {y z : Nat} (hy : 1 ≤ y) (h : y < z) : daysToYear y + daysToMonth y 13 ≤ daysToYear z := by
  induction z with
  | zero => omega
  | succ z ih =>
    obtain ⟨k, rfl⟩ : ∃ k, z = k + 1 := ⟨z - 1, by omega⟩
    rw [daysToYear]
    by_cases hlast : y = k + 1
    · subst hlast
      exact Nat.le_refl _
    · have hle := ih (by omega)
      omega

/-- **Days are counted in the order of year, month and day.** -/
theorem daysBefore_lt_iff {s t : Timestamp} (hs : s.IsValid) (ht : t.IsValid) :
    s.daysBefore < t.daysBefore ↔
      s.year < t.year ∨ s.year = t.year ∧ (s.month < t.month ∨ s.month = t.month ∧ s.day < t.day) := by
  obtain ⟨hsy, hsm, hsd, -⟩ := hs
  obtain ⟨hty, htm, htd, -⟩ := ht
  -- no day of a year stands after its last month
  have hsyear := daysToMonth_le s.year hsm.1 (show s.month < 13 by omega)
  have htyear := daysToMonth_le t.year htm.1 (show t.month < 13 by omega)
  unfold daysBefore
  rcases Nat.lt_trichotomy s.year t.year with hyear | hyear | hyear
  · have hle := daysToYear_le hsy.1 hyear
    omega
  · rw [← hyear] at htd htyear ⊢
    rcases Nat.lt_trichotomy s.month t.month with hmonth | hmonth | hmonth
    · have hle := daysToMonth_le s.year hsm.1 hmonth
      omega
    · rw [← hmonth]
      omega
    · have hle := daysToMonth_le s.year htm.1 hmonth
      omega
  · have hle := daysToYear_le hty.1 hyear
    omega

/-- The parts of a timestamp in the order of their size. -/
def Earlier (s t : Timestamp) : Prop :=
  s.year < t.year ∨ s.year = t.year ∧ (s.month < t.month ∨ s.month = t.month ∧ (s.day < t.day ∨ s.day = t.day ∧
    (s.hour < t.hour ∨ s.hour = t.hour ∧ (s.minute < t.minute ∨ s.minute = t.minute ∧
      (s.second < t.second ∨ s.second = t.second ∧ s.microsecond < t.microsecond)))))

theorem instant_lt_iff {s t : Timestamp} (hs : s.IsValid) (ht : t.IsValid) : s.instant < t.instant ↔ s.Earlier t := by
  have hdays := daysBefore_lt_iff hs ht
  have hdays' := daysBefore_lt_iff ht hs
  obtain ⟨-, -, -, hsh, hsmin, hssec, hsmicro⟩ := hs
  obtain ⟨-, -, -, hth, htmin, htsec, htmicro⟩ := ht
  unfold instant Earlier
  omega

/-! ## The text -/

def fraction (microsecond : Nat) : List Char := if microsecond = 0 then [] else '.' :: (padded 6 microsecond).toList

theorem fraction_lt_iff {a b : Nat} (ha : a < 1000000) (hb : b < 1000000) : fraction a < fraction b ↔ a < b := by
  have hpadded := padded_append_lt_iff (s := []) (t := []) (show 0 < 6 by decide) ha hb
  simp only [List.append_nil, List.not_lt_nil, and_false, or_false] at hpadded
  unfold fraction
  by_cases ha0 : a = 0 <;> by_cases hb0 : b = 0
  · simp [ha0, hb0]
  · simp [ha0, hb0, Nat.pos_of_ne_zero hb0]
  · simp [ha0, hb0]
  · simp [ha0, hb0, hpadded]

theorem toList_text (t : Timestamp) :
    t.text.toList = (padded 4 t.year).toList ++ '-' :: ((padded 2 t.month).toList ++ '-' :: ((padded 2 t.day).toList ++
      'T' :: ((padded 2 t.hour).toList ++ ':' :: ((padded 2 t.minute).toList ++ ':' :: ((padded 2 t.second).toList ++
        fraction t.microsecond))))) := by
  unfold text date time fraction
  by_cases hmicro : t.microsecond = 0 <;> simp [hmicro]

theorem IsValid.day_lt {t : Timestamp} (h : t.IsValid) : t.day < 10 ^ 2 := by
  obtain ⟨-, -, hday, -⟩ := h
  unfold daysIn at hday
  split at hday <;> split at hday <;> omega

/-- **Texts are ordered as the points in time are.** -/
theorem text_lt_iff {s t : Timestamp} (hs : s.IsValid) (ht : t.IsValid) :
    s.text.toList < t.text.toList ↔ s.instant < t.instant := by
  have hsday := hs.day_lt
  have htday := ht.day_lt
  rw [instant_lt_iff hs ht, toList_text, toList_text]
  obtain ⟨hsy, hsm, -, hsh, hsmin, hssec, hsmicro⟩ := hs
  obtain ⟨hty, htm, -, hth, htmin, htsec, htmicro⟩ := ht
  rw [padded_append_lt_iff (by decide) (by omega) (by omega), List.cons_lt_cons_iff,
    padded_append_lt_iff (by decide) (by omega) (by omega), List.cons_lt_cons_iff,
    padded_append_lt_iff (by decide) hsday htday, List.cons_lt_cons_iff,
    padded_append_lt_iff (by decide) (by omega) (by omega), List.cons_lt_cons_iff,
    padded_append_lt_iff (by decide) (by omega) (by omega), List.cons_lt_cons_iff,
    padded_append_lt_iff (by decide) (by omega) (by omega), fraction_lt_iff hsmicro htmicro]
  simp only [Char.lt_irrefl, true_and, false_or]
  rfl

theorem text_inj {s t : Timestamp} (hs : s.IsValid) (ht : t.IsValid) (h : s.text = t.text) : s = t := by
  have hst := text_lt_iff hs ht
  have hts := text_lt_iff ht hs
  rw [h] at hst hts
  rw [instant_lt_iff hs ht] at hst
  rw [instant_lt_iff ht hs] at hts
  simp only [List.lt_irrefl, false_iff] at hst hts
  obtain ⟨year, month, day, hour, minute, second, microsecond⟩ := s
  obtain ⟨year', month', day', hour', minute', second', microsecond'⟩ := t
  simp only [Earlier, Timestamp.mk.injEq] at hst hts ⊢
  omega

end Timestamp
end PullReview
