import FifiAlert.Js.Ident
import FifiAlert.Js.Serialization
import Mathlib.Order.Monotone.Basic

/-!
# Dates read back from their text

A valid date has a time of at most a hundred million days, and `new Date` gives it back from what
`toISOString` writes of it. The text of a number, with zeros in front, is read digit by digit, and
the day is counted from its year, its month and its day of the month. Of an era of four hundred
years, the year that a day belongs to is found by a division which is right at the first and at the
last day of every year and does not fall in between.
-/

namespace Js

/-- The largest time of a date. -/
def maxTime : ℤ := 8640000000000000

/-- The times of the valid dates. -/
def IsTime (time : ℤ) : Prop := -maxTime ≤ time ∧ time ≤ maxTime

instance (time : ℤ) : Decidable (IsTime time) :=
  inferInstanceAs (Decidable (_ ∧ _))

/-- The time of a date; an invalid date has none. -/
abbrev DateTime := Option {time : ℤ // IsTime time}

/-- The day of a year, a month and a day of the month, counted from the first of January 1970. -/
def civilDay (year : ℤ) (month day : ℕ) : ℤ :=
  let marchYear := year - if month ≤ 2 then 1 else 0
  let yearOfEra := (marchYear % 400).toNat
  let marchMonth := if month ≤ 2 then month + 9 else month - 3
  let dayOfYear := (153 * marchMonth + 2) / 5 + day - 1
  let dayOfEra := 365 * yearOfEra + yearOfEra / 4 - yearOfEra / 100 + dayOfYear
  marchYear / 400 * 146097 + dayOfEra - 719468

/-- The year that a text starts with, and what follows. -/
def readYear : List Char → Option (ℤ × List Char)
  | '+' :: cs => (digits 10 (cs.take 6)).map fun (n : ℕ) => ((n : ℤ), cs.drop 6)
  | '-' :: cs => (digits 10 (cs.take 6)).map fun (n : ℕ) => (-(n : ℤ), cs.drop 6)
  | cs => (digits 10 (cs.take 4)).map fun (n : ℕ) => ((n : ℤ), cs.drop 4)

/-- The time that the fields of a text stand for. -/
def readTime (cs : List Char) : Option ℤ := do
  let (year, rest) ← readYear cs
  match rest with
  | ['-', a, b, '-', c, d, 'T', e, f, ':', g, h, ':', i, j, '.', k, l, m, 'Z'] =>
      let month ← digits 10 [a, b]
      let day ← digits 10 [c, d]
      let hours ← digits 10 [e, f]
      let minutes ← digits 10 [g, h]
      let seconds ← digits 10 [i, j]
      let ms ← digits 10 [k, l, m]
      return civilDay year month day * 86400000 +
        (hours * 3600000 + minutes * 60000 + seconds * 1000 + ms : ℕ)
  | _ => none

/-- `new Date(text)`, for the texts that `toISOString` writes. -/
def parseISOString (text : String) : DateTime :=
  (readTime text.toList).bind fun time =>
    if h : IsTime time ∧ toISOString time = text then some ⟨time, h.1⟩ else none

section Padded

variable {width n : ℕ}

theorem toList_padded (width n : ℕ) : (padded width n).toList =
    List.replicate (width - (Nat.toDigits 10 n).length) '0' ++ Nat.toDigits 10 n := by
  have hlength : (toString n).length = (Nat.toDigits 10 n).length := by
    rw [← toList_toString, String.length_toList]
  unfold padded
  dsimp only
  rw [String.toList_append, String.toList_ofList, toList_toString, hlength]

theorem isDigit_padded : ∀ c ∈ (padded width n).toList, c.isDigit = true := by
  intro c hc
  rw [toList_padded, List.mem_append] at hc
  rcases hc with hc | hc
  · rw [List.eq_of_mem_replicate hc]
    rfl
  · exact isDigit_toDigits c hc

/-- The zeros in front do not count. -/
theorem digits_padded (width n : ℕ) : digits 10 (padded width n).toList = some n := by
  rw [digits_eq_ofDigitChars isDigit_padded, toList_padded, Nat.ofDigitChars_append,
    Nat.ofDigitChars_replicate_zero, Nat.mul_zero, Nat.ofDigitChars_ten_toDigits]

theorem length_padded (hwidth : 0 < width) (hn : n < 10 ^ width) :
    (padded width n).toList.length = width := by
  have hle : (Nat.toDigits 10 n).length ≤ width :=
    (Nat.length_toDigits_le_iff (by decide) hwidth).2 hn
  rw [toList_padded, List.length_append, List.length_replicate]
  omega

theorem exists_padded_two (hn : n < 100) :
    ∃ a b, (padded 2 n).toList = [a, b] ∧ digits 10 [a, b] = some n := by
  have hlength : (padded 2 n).toList.length = 2 := length_padded (by decide) hn
  obtain ⟨a, b, hab⟩ := List.length_eq_two.1 hlength
  exact ⟨a, b, hab, hab ▸ digits_padded 2 n⟩

theorem exists_padded_three (hn : n < 1000) :
    ∃ a b c, (padded 3 n).toList = [a, b, c] ∧ digits 10 [a, b, c] = some n := by
  have hlength : (padded 3 n).toList.length = 3 := length_padded (by decide) hn
  obtain ⟨a, b, c, habc⟩ := List.length_eq_three.1 hlength
  exact ⟨a, b, c, habc, habc ▸ digits_padded 3 n⟩

end Padded

section Years

/-- The days of an era without the leap days before them. -/
def leapless (dayOfEra : ℕ) : ℕ :=
  dayOfEra - dayOfEra / 1460 + dayOfEra / 36524 - dayOfEra / 146096

/-- The first day of a year of an era. -/
def yearStart (yearOfEra : ℕ) : ℕ := 365 * yearOfEra + yearOfEra / 4 - yearOfEra / 100

theorem leapless_mono : Monotone leapless := by
  refine monotone_nat_of_le_succ fun n => ?_
  unfold leapless
  omega

/-- The division is right at the first day of a year and at the day before. -/
theorem leapless_yearStart : ∀ y < 400, y ≤ leapless (yearStart y) / 365 ∧
    (0 < y → leapless (yearStart y - 1) / 365 < y) := by
  decide +kernel

/-- A day of an era lies in the year that the division gives. -/
theorem yearStart_le {day year : ℕ} (hday : day < 146097) (hyear : leapless day / 365 = year) :
    year < 400 ∧ yearStart year ≤ day ∧ day - yearStart year ≤ 365 := by
  have hlt : year < 400 := by
    have hmax : leapless 146096 = 145999 := rfl
    have hle := leapless_mono (Nat.le_of_lt_succ hday)
    omega
  have hstart : yearStart year ≤ day := by
    by_contra hbefore
    have hpos : 0 < year := by
      rcases Nat.eq_zero_or_pos year with rfl | hpos
      · exact absurd (Nat.zero_le day) hbefore
      · exact hpos
    have hle := leapless_mono (show day ≤ yearStart year - 1 by omega)
    have hfall := (leapless_yearStart year hlt).2 hpos
    omega
  refine ⟨hlt, hstart, ?_⟩
  by_contra hafter
  rcases Nat.lt_or_ge (year + 1) 400 with hnext | hlast
  · have hend : yearStart (year + 1) ≤ day := by
      unfold yearStart at hafter ⊢
      omega
    have hle := leapless_mono hend
    have hrise := (leapless_yearStart (year + 1) hnext).1
    omega
  · obtain rfl : year = 399 := by omega
    have hfirst : yearStart 399 = 145731 := rfl
    omega

/-- A day of a year lies in the month that the division gives, counted from March. -/
theorem monthStart_le {day month : ℕ} (hday : day ≤ 365) (hmonth : (5 * day + 2) / 153 = month) :
    month < 12 ∧ (153 * month + 2) / 5 ≤ day ∧ day - (153 * month + 2) / 5 < 31 := by
  omega

/-- The year, the month and the day of a day, in the calendar that starts in March. -/
theorem exists_civilDate (day : ℤ) : ∃ (era : ℤ) (year month dayOfMonth m : ℕ),
    year < 400 ∧ month < 12 ∧ dayOfMonth < 31 ∧ (if month < 10 then month + 3 else month - 9) = m ∧
      day + 719468 = era * 146097 + (yearStart year + ((153 * month + 2) / 5 + dayOfMonth) : ℕ) ∧
      civilDate day = (year + era * 400 + if m ≤ 2 then 1 else 0, m, dayOfMonth + 1) := by
  have hday : ((day + 719468) % 146097).toNat < 146097 := by omega
  obtain ⟨hyear, hstart, hlength⟩ := yearStart_le hday rfl
  obtain ⟨hmonth, hfirst, hrest⟩ := monthStart_le hlength rfl
  refine ⟨(day + 719468) / 146097, _, _, _, _, hyear, hmonth, hrest, rfl, ?_, rfl⟩
  omega

/-- The day is counted back from its year, its month and its day of the month. -/
theorem civilDay_civilDate (day : ℤ) :
    civilDay (civilDate day).1 (civilDate day).2.1 (civilDate day).2.2 = day := by
  obtain ⟨era, year, month, dayOfMonth, m, hyear, hmonth, -, hm, hday, hdate⟩ :=
    exists_civilDate day
  have hmarch : (if m ≤ 2 then m + 9 else m - 3) = month := by
    split_ifs at hm ⊢ <;> omega
  have hera : (year + era * 400 + (if m ≤ 2 then 1 else 0) - if m ≤ 2 then 1 else 0 : ℤ) =
      year + era * 400 := by
    omega
  have hyearOfEra : ((year + era * 400 : ℤ) % 400).toNat = year := by omega
  unfold yearStart at hday
  rw [hdate, civilDay]
  dsimp only
  rw [hera, hmarch, hyearOfEra]
  omega

/-- The month and the day have at most two digits, and the year of a valid date at most six. -/
theorem civilDate_lt {day : ℤ} (h : -100000000 ≤ day ∧ day ≤ 100000000) :
    (civilDate day).1.natAbs < 1000000 ∧ (civilDate day).2.1 < 100 ∧ (civilDate day).2.2 < 100 := by
  obtain ⟨era, year, month, dayOfMonth, m, hyear, hmonth, hrest, hm, hday, hdate⟩ :=
    exists_civilDate day
  unfold yearStart at hday
  rw [hdate]
  dsimp only
  refine ⟨?_, ?_, by omega⟩
  · split_ifs <;> omega
  · split_ifs at hm <;> omega

end Years

section Reading

/-- Digits of a known number of places are read, and what follows is left. -/
theorem digits_take_padded (width : ℕ) {n : ℕ} (hwidth : 0 < width) (hn : n < 10 ^ width)
    (rest : List Char) :
    digits 10 (((padded width n).toList ++ rest).take width) = some n ∧
      ((padded width n).toList ++ rest).drop width = rest := by
  have hlength := length_padded hwidth hn
  rw [List.take_left' hlength, List.drop_left' hlength]
  exact ⟨digits_padded width n, rfl⟩

theorem readYear_of_isDigit {c : Char} (h : c.isDigit = true) (cs : List Char) :
    readYear (c :: cs) =
      (digits 10 ((c :: cs).take 4)).map fun (n : ℕ) => ((n : ℤ), (c :: cs).drop 4) := by
  have hplus : c ≠ '+' := ne_of_isDigit h (by decide)
  have hminus : c ≠ '-' := ne_of_isDigit h (by decide)
  rw [readYear]
  · intro _ hcs
    exact hplus (List.cons_eq_cons.1 hcs).1
  · intro _ hcs
    exact hminus (List.cons_eq_cons.1 hcs).1

/-- The text of a year is read back, whatever follows. -/
theorem readYear_isoYear {year : ℤ} (h : year.natAbs < 1000000) (rest : List Char) :
    readYear ((isoYear year).toList ++ rest) = some (year, rest) := by
  obtain ⟨hsix, hdrop⟩ := digits_take_padded 6 (by decide) h rest
  unfold isoYear
  split_ifs with hfour hneg
  · have hlt : year.toNat < 10 ^ 4 := by omega
    obtain ⟨hread, hrest⟩ := digits_take_padded 4 (by decide) hlt rest
    obtain ⟨c, cs, hcs⟩ : ∃ c cs, (padded 4 year.toNat).toList = c :: cs :=
      List.exists_cons_of_length_eq_add_one (length_padded (by decide) hlt)
    have hdigit : c.isDigit = true := by
      refine @isDigit_padded 4 year.toNat c ?_
      rw [hcs]
      exact List.mem_cons_self
    rw [hcs, List.cons_append] at hread hrest ⊢
    rw [readYear_of_isDigit hdigit, hread, hrest, Option.map_some, Int.toNat_of_nonneg hfour.1]
  · have hsign : "-".toList = ['-'] := rfl
    rw [String.toList_append, hsign, List.append_assoc, List.singleton_append, readYear, hsix,
      hdrop, Option.map_some, Int.ofNat_natAbs_of_nonpos hneg.le, Int.neg_neg]
  · have hsign : "+".toList = ['+'] := rfl
    rw [String.toList_append, hsign, List.append_assoc, List.singleton_append, readYear, hsix,
      hdrop, Option.map_some, Int.natAbs_of_nonneg (Int.not_lt.1 hneg)]

/-- The fields of the text of a time are read back. -/
theorem readTime_toISOString {time : ℤ} (h : IsTime time) :
    readTime (toISOString time).toList = some time := by
  have hday : -100000000 ≤ time / 86400000 ∧ time / 86400000 ≤ 100000000 := by
    unfold IsTime maxTime at h
    omega
  have hback := civilDay_civilDate (time / 86400000)
  obtain ⟨hyear, hmonth, hdayOfMonth⟩ := civilDate_lt hday
  unfold toISOString
  revert hback hyear hmonth hdayOfMonth
  generalize civilDate (time / 86400000) = date
  obtain ⟨year, month, day⟩ := date
  intro hback hyear hmonth hdayOfMonth
  generalize hms : (time % 86400000).toNat = ms
  obtain ⟨a, b, hab, hmonths⟩ := exists_padded_two hmonth
  obtain ⟨c, d, hcd, hdays⟩ := exists_padded_two hdayOfMonth
  obtain ⟨e, f, hef, hhours⟩ := exists_padded_two (n := ms / 3600000) (by omega)
  obtain ⟨g, i, hgi, hminutes⟩ := exists_padded_two (n := ms / 60000 % 60) (by omega)
  obtain ⟨j, k, hjk, hseconds⟩ := exists_padded_two (n := ms / 1000 % 60) (by omega)
  obtain ⟨l, m, n, hlmn, hmillis⟩ := exists_padded_three (n := ms % 1000) (by omega)
  have htime : civilDay year month day * 86400000 + (ms / 3600000 * 3600000 +
      ms / 60000 % 60 * 60000 + ms / 1000 % 60 * 1000 + ms % 1000 : ℕ) = time := by
    dsimp only at hback
    omega
  have hdash : "-".toList = ['-'] := rfl
  have hT : "T".toList = ['T'] := rfl
  have hcolon : ":".toList = [':'] := rfl
  have hdot : ".".toList = ['.'] := rfl
  have hZ : "Z".toList = ['Z'] := rfl
  dsimp only
  simp only [String.toList_append, hdash, hT, hcolon, hdot, hZ, hab, hcd, hef, hgi, hjk, hlmn,
    List.append_assoc, List.cons_append, List.nil_append]
  rw [readTime, readYear_isoYear hyear]
  simp only [Option.bind_eq_bind, Option.bind_some, hmonths, hdays, hhours, hminutes, hseconds,
    hmillis, Option.pure_def, htime]

/-- `new Date(date.toISOString())`. -/
theorem parseISOString_toISOString (time : {time : ℤ // IsTime time}) :
    parseISOString (toISOString time) = some time := by
  rw [parseISOString, readTime_toISOString time.2, Option.bind_some, dif_pos ⟨time.2, rfl⟩]

end Reading

end Js
