import FifiAlert.Js.Json
import Mathlib.Data.List.TakeWhile
import Mathlib.Data.Rat.Floor

/-!
# Identifiers as values

An id of the database is a number or a string once it is a value of the program,
and the two are different values: `===` and the keys of a `Map` tell `5` from
`"5"`. Both are read back to the same number by `parseInt`.
-/

namespace Js

/-- An id, as a value. -/
inductive Ident where
  | num (n : ℕ)
  | str (s : String)
  deriving DecidableEq, Inhabited

/-- How a driver hands over an integer column. -/
inductive IntegerColumns where
  | number
  | string
  deriving DecidableEq, Inhabited

/-- The value of an integer column. -/
def IntegerColumns.read : IntegerColumns → ℕ → Ident
  | number, n => .num n
  | string, n => .str (toString n)

namespace Ident

/-- `String(id)`. -/
def text : Ident → String
  | num n => toString n
  | str s => s

/-- `parseInt(id)`, for an id that is not negative. -/
def parseInt (id : Ident) : Option ℕ :=
  (Js.parseInt id.text).bind Int.toNat?

/-- `Number(id)`; `none` is `NaN`. -/
def Number : Ident → Option ℚ
  | num n => some n
  | str s => Js.Number s

end Ident

/-- `toString` of a number, `NaN` included. -/
def numberText (x : Option ℚ) : String :=
  match x with
  | none => "NaN"
  | some q => decimal q

section Digits

variable {n : ℕ} {c : Char} {cs : List Char}

theorem digitValue_of_isDigit (h : c.isDigit = true) : digitValue 10 c = some (c.toNat - 48) := by
  have hc : 48 ≤ c.toNat ∧ c.toNat ≤ 57 := Char.isDigit_iff_toNat.1 h
  have hlt : c.toNat - 48 < 10 := by omega
  simp [digitValue, hc, hlt]

theorem isDigit_of_isDigit (h : c.isDigit = true) : isDigit c = true := by
  rw [isDigit, digitValue_of_isDigit h, Option.isSome_some]

theorem ne_of_isDigit {d : Char} (h : c.isDigit = true) (hd : d.isDigit = false) : c ≠ d := by
  rintro rfl
  rw [h] at hd
  cases hd

theorem not_isWhiteSpace_of_isDigit (h : c.isDigit = true) : isWhiteSpace c = false := by
  have hc : 48 ≤ c.toNat ∧ c.toNat ≤ 57 := Char.isDigit_iff_toNat.1 h
  simp only [isWhiteSpace, Bool.or_eq_false_iff, Bool.and_eq_false_iff, decide_eq_false_iff_not]
  omega

theorem digits_eq_ofDigitChars (h : ∀ c ∈ cs, c.isDigit = true) :
    digits 10 cs = some (Nat.ofDigitChars 10 cs 0) := by
  have hfold : ∀ (cs : List Char) (acc : ℕ), (∀ c ∈ cs, c.isDigit = true) →
      cs.foldlM (fun acc c => (digitValue 10 c).map fun v => acc * 10 + v) acc =
        some (Nat.ofDigitChars 10 cs acc) := by
    intro cs
    induction cs with
    | nil => intro acc _; simp [Nat.ofDigitChars_nil]
    | cons c cs ih =>
        intro acc h
        have hc := digitValue_of_isDigit (h c List.mem_cons_self)
        have hcs := ih (acc * 10 + (c.toNat - 48)) fun d hd => h d (List.mem_cons_of_mem c hd)
        rw [List.foldlM_cons, hc, Nat.ofDigitChars_cons, Nat.mul_comm 10 acc]
        exact hcs
  exact hfold cs 0 h

theorem isDigit_toDigits : ∀ c ∈ Nat.toDigits 10 n, c.isDigit = true :=
  fun _ hc => Nat.isDigit_of_mem_toDigits (by decide) (by decide) hc

/-- The digits of a number read back as the number. -/
theorem digits_toDigits (n : ℕ) : digits 10 (Nat.toDigits 10 n) = some n := by
  rw [digits_eq_ofDigitChars isDigit_toDigits, Nat.ofDigitChars_ten_toDigits]

theorem toList_toString (n : ℕ) : (toString n).toList = Nat.toDigits 10 n := by
  rw [Nat.toString_eq_repr, Nat.toList_repr]

theorem toList_toString_negSucc (n : ℕ) :
    (toString (Int.negSucc n)).toList = '-' :: Nat.toDigits 10 (n + 1) := by
  change ("-" ++ toString (n + 1)).toList = _
  rw [String.toList_append, toList_toString]
  rfl

/-- The first digit of a number, and the others. -/
theorem exists_toDigits_eq_cons (n : ℕ) : ∃ c cs, Nat.toDigits 10 n = c :: cs ∧
    c.isDigit = true ∧ ∀ d ∈ cs, d.isDigit = true := by
  cases h : Nat.toDigits 10 n with
  | nil => exact absurd h Nat.toDigits_ne_nil
  | cons c cs =>
      have hall : ∀ d ∈ c :: cs, d.isDigit = true := h ▸ isDigit_toDigits
      exact ⟨c, cs, rfl, hall c List.mem_cons_self, fun d hd => hall d (List.mem_cons_of_mem c hd)⟩

theorem takeWhile_digits (h : ∀ c ∈ cs, c.isDigit = true) : cs.takeWhile isDigit = cs := by
  rw [List.takeWhile_eq_self_iff]
  exact fun c hc => isDigit_of_isDigit (h c hc)

theorem dropWhile_digits (h : ∀ c ∈ cs, c.isDigit = true) : cs.dropWhile isDigit = [] := by
  rw [List.dropWhile_eq_nil_iff]
  exact fun c hc => isDigit_of_isDigit (h c hc)

/-- `parseInt` reads a number back from its text. -/
theorem parseInt_toString (n : ℕ) : Js.parseInt (toString n) = some (n : ℤ) := by
  obtain ⟨c, cs, hn, hc, hcs⟩ := exists_toDigits_eq_cons n
  have hall : ∀ d ∈ c :: cs, d.isDigit = true := by
    simpa [hc] using hcs
  have hminus : c ≠ '-' := ne_of_isDigit hc (by decide)
  have hplus : c ≠ '+' := ne_of_isDigit hc (by decide)
  have hspace := not_isWhiteSpace_of_isDigit hc
  have hdigits := digits_toDigits n
  unfold Js.parseInt
  rw [toList_toString, hn, List.dropWhile_cons_of_neg (by simp [hspace])]
  rw [hn] at hdigits
  simp [hminus, hplus, takeWhile_digits hall, hdigits]

/-- The same for a number with a sign. -/
theorem parseInt_toString_int (t : ℤ) : Js.parseInt (toString t) = some t := by
  cases t with
  | ofNat n => exact parseInt_toString n
  | negSucc n =>
      obtain ⟨c, cs, hn, hc, hcs⟩ := exists_toDigits_eq_cons (n + 1)
      have hall : ∀ d ∈ c :: cs, d.isDigit = true := by
        simpa [hc] using hcs
      have hdigits := digits_toDigits (n + 1)
      have hspace : isWhiteSpace '-' = false := by decide
      unfold Js.parseInt
      rw [toList_toString_negSucc, List.dropWhile_cons_of_neg (by simp [hspace])]
      rw [hn] at hdigits
      simp [hn, takeWhile_digits hall, hdigits, Int.negSucc_eq]

theorem trim_digits (h : ∀ c ∈ cs, c.isDigit = true) : trim cs = cs := by
  have hdrop : ∀ ds : List Char, (∀ c ∈ ds, c.isDigit = true) → ds.dropWhile isWhiteSpace = ds := by
    intro ds hds
    cases ds with
    | nil => rfl
    | cons d ds =>
        have hspace := not_isWhiteSpace_of_isDigit (hds d List.mem_cons_self)
        rw [List.dropWhile_cons_of_neg (by simp [hspace])]
  unfold trim
  rw [hdrop cs h, hdrop cs.reverse (by simpa using h), List.reverse_reverse]

/-- A literal without a sign reads a number back from its digits. -/
theorem unsignedDecimal_toDigits (n : ℕ) :
    unsignedDecimal (Nat.toDigits 10 n) = some (n : ℚ) := by
  obtain ⟨c, cs, hn, hc, hcs⟩ := exists_toDigits_eq_cons n
  have hall : ∀ d ∈ c :: cs, d.isDigit = true := by
    simpa [hc] using hcs
  have hdigits := digits_toDigits n
  rw [hn] at hdigits ⊢
  simp [unsignedDecimal, takeWhile_digits hall, dropWhile_digits hall, hdigits, exponent]

/-- `Number` reads a number back from its text. -/
theorem Number_toString (n : ℕ) : Js.Number (toString n) = some (n : ℚ) := by
  obtain ⟨c, cs, hn, hc, hcs⟩ := exists_toDigits_eq_cons n
  have hminus : c ≠ '-' := ne_of_isDigit hc (by decide)
  have hplus : c ≠ '+' := ne_of_isDigit hc (by decide)
  have hprefix : ∀ d, d.isDigit = false → ∀ ds, cs ≠ d :: ds := by
    intro d hd ds h
    have hmem := hcs d (h ▸ List.mem_cons_self)
    rw [hmem] at hd
    cases hd
  have hdecimal := unsignedDecimal_toDigits n
  rw [hn] at hdecimal
  unfold Js.Number
  rw [toList_toString, trim_digits isDigit_toDigits, hn]
  split <;> simp_all

/-- The same for a literal with a sign. -/
theorem signedDecimal_toString (t : ℤ) : signedDecimal (toString t).toList = some (t : ℚ) := by
  cases t with
  | ofNat n =>
      obtain ⟨c, cs, hn, hc, -⟩ := exists_toDigits_eq_cons n
      have hminus : c ≠ '-' := ne_of_isDigit hc (by decide)
      have hplus : c ≠ '+' := ne_of_isDigit hc (by decide)
      have htext : (toString (Int.ofNat n)).toList = Nat.toDigits 10 n := toList_toString n
      have hdecimal := unsignedDecimal_toDigits n
      rw [htext]
      rw [hn] at hdecimal ⊢
      simp [signedDecimal, hminus, hplus, hdecimal]
  | negSucc n =>
      rw [toList_toString_negSucc, signedDecimal, unsignedDecimal_toDigits, Option.map_some]
      simp [Int.negSucc_eq]

theorem fractionDigits_zero (n : ℕ) : fractionDigits n 0 = [] := by
  cases n with
  | zero => rfl
  | succ n => exact if_pos rfl

/-- An integer is written without decimals. -/
theorem decimal_intCast (t : ℤ) : decimal (t : ℚ) = toString t := by
  have habs : (t : ℚ).abs = ((t.natAbs : ℤ) : ℚ) := by
    rcases Int.le_total 0 t with ht | ht
    · rw [Rat.abs_of_nonneg (Int.cast_nonneg ht), Int.natAbs_of_nonneg ht]
    · rw [Rat.abs_of_nonpos (Int.cast_nonpos.2 ht), Int.ofNat_natAbs_of_nonpos ht, Int.cast_neg]
  unfold decimal
  dsimp only
  rw [habs, Rat.floor_intCast, Int.toNat_natCast, Int.cast_natCast, sub_self, fractionDigits_zero,
    if_pos rfl]
  cases t with
  | ofNat n =>
      have hneg : ¬ ((Int.ofNat n : ℤ) : ℚ) < 0 := not_lt.2 (Nat.cast_nonneg n)
      rw [if_neg hneg, String.empty_append, String.append_empty]
      rfl
  | negSucc n =>
      have hneg : ((Int.negSucc n : ℤ) : ℚ) < 0 := Int.cast_lt_zero.2 (Int.negSucc_lt_zero n)
      rw [if_pos hneg, String.append_empty]
      rfl

theorem decimal_natCast (n : ℕ) : decimal (n : ℚ) = toString n := by
  rw [← Int.cast_natCast, decimal_intCast]
  rfl

end Digits

namespace IntegerColumns

/-- The program reads an id back as the number it is in the database. -/
@[simp] theorem parseInt_read (I : IntegerColumns) (n : ℕ) : (I.read n).parseInt = some n := by
  have htext : (I.read n).text = toString n := by cases I <;> rfl
  rw [Ident.parseInt, htext, parseInt_toString]
  rfl

@[simp] theorem numberText_read (I : IntegerColumns) (n : ℕ) :
    numberText (I.read n).Number = toString n := by
  have hnumber : (I.read n).Number = some (n : ℚ) := by
    cases I with
    | number => rfl
    | string => exact Number_toString n
  rw [hnumber, numberText, decimal_natCast]

theorem read_inj {I : IntegerColumns} {m n : ℕ} : I.read m = I.read n ↔ m = n := by
  constructor
  · intro h
    have hparse := congrArg Ident.parseInt h
    simpa using hparse
  · exact fun h => congrArg I.read h

end IntegerColumns

theorem str_toString_inj {m n : ℕ} : Ident.str (toString m) = .str (toString n) ↔ m = n :=
  IntegerColumns.read_inj (I := .string)

end Js
