import Mathlib.Data.List.TakeWhile
import Mathlib.Algebra.GroupWithZero.Nat

/-!
# Bytes and their texts

A text is written as bytes in UTF-8, and bytes are written as a text in Base64: three bytes are four
digits of six bits each, and what is left at the end is padded to four. Base64 is read up to the
padding, without the characters that are no digits, and the digits of the alphabet for addresses
count as well. Either way, what was written is read back.
-/

namespace Js

/-- `Buffer.from(text, 'utf8')`. -/
def utf8Bytes (text : String) : List UInt8 :=
  text.toByteArray.data.toList

/-- The text of bytes in UTF-8, `none` when they are malformed. -/
def utf8Text (bytes : List UInt8) : Option String :=
  String.fromUTF8? ⟨bytes.toArray⟩

theorem utf8Text_utf8Bytes (text : String) : utf8Text (utf8Bytes text) = some text := by
  rw [utf8Text, utf8Bytes, Array.toArray_toList]
  exact dif_pos text.isValidUTF8

theorem utf8Bytes_ne_nil {text : String} (h : text ≠ "") : utf8Bytes text ≠ [] := by
  intro hbytes
  have hread := utf8Text_utf8Bytes text
  rw [hbytes, show ([] : List UInt8) = utf8Bytes "" from rfl, utf8Text_utf8Bytes] at hread
  exact h (Option.some.inj hread).symm

/-- The digit of six bits. -/
def base64Digit (n : ℕ) : Char :=
  if n < 26 then Char.ofNat (n + 65)
  else if n < 52 then Char.ofNat (n + 71)
  else if n < 62 then Char.ofNat (n - 4)
  else if n = 62 then '+'
  else '/'

/-- The six bits of a digit, in either alphabet. -/
def base64Value (c : Char) : Option ℕ :=
  let n := c.toNat
  if 65 ≤ n ∧ n ≤ 90 then some (n - 65)
  else if 97 ≤ n ∧ n ≤ 122 then some (n - 71)
  else if 48 ≤ n ∧ n ≤ 57 then some (n + 4)
  else if c = '+' ∨ c = '-' then some 62
  else if c = '/' ∨ c = '_' then some 63
  else none

/-- The values of the digits of some bytes. -/
def sextets : List UInt8 → List ℕ
  | a :: b :: c :: bytes =>
      a.toNat / 4 :: (a.toNat % 4 * 16 + b.toNat / 16) :: (b.toNat % 16 * 4 + c.toNat / 64) ::
        c.toNat % 64 :: sextets bytes
  | [a, b] => [a.toNat / 4, a.toNat % 4 * 16 + b.toNat / 16, b.toNat % 16 * 4]
  | [a] => [a.toNat / 4, a.toNat % 4 * 16]
  | [] => []

/-- The bytes of the values of digits. A digit that is left alone at the end is dropped. -/
def sextetBytes : List ℕ → List UInt8
  | p :: q :: r :: s :: rest =>
      .ofNat (p * 4 + q / 16) :: .ofNat (q % 16 * 16 + r / 4) :: .ofNat (r % 4 * 64 + s) ::
        sextetBytes rest
  | [p, q, r] => [.ofNat (p * 4 + q / 16), .ofNat (q % 16 * 16 + r / 4)]
  | [p, q] => [.ofNat (p * 4 + q / 16)]
  | _ => []

/-- The padding after so many digits. -/
def base64Padding (digits : ℕ) : List Char :=
  List.replicate ((4 - digits % 4) % 4) '='

/-- `bytes.toString('base64')`. -/
def toBase64 (bytes : List UInt8) : List Char :=
  (sextets bytes).map base64Digit ++ base64Padding (sextets bytes).length

/-- `Buffer.from(text, 'base64')`. -/
def fromBase64 (text : List Char) : List UInt8 :=
  sextetBytes ((text.takeWhile fun c => c ≠ '=').filterMap base64Value)

theorem base64Value_base64Digit : ∀ n < 64, base64Value (base64Digit n) = some n := by
  decide

theorem base64Digit_ne_pad : ∀ n < 64, base64Digit n ≠ '=' := by
  decide

theorem base64Digit_ne_dot : ∀ n < 64, base64Digit n ≠ '.' := by
  decide

theorem lt_of_mem_sextets {n : ℕ} : ∀ {bytes : List UInt8}, n ∈ sextets bytes → n < 64
  | a :: b :: c :: bytes, h => by
      have ha := a.toNat_lt
      have hb := b.toNat_lt
      have hc := c.toNat_lt
      simp only [sextets, List.mem_cons] at h
      rcases h with rfl | rfl | rfl | rfl | h
      · omega
      · omega
      · omega
      · omega
      · exact lt_of_mem_sextets h
  | [a, b], h => by
      have ha := a.toNat_lt
      have hb := b.toNat_lt
      simp only [sextets, List.mem_cons, List.not_mem_nil, or_false] at h
      omega
  | [a], h => by
      have ha := a.toNat_lt
      simp only [sextets, List.mem_cons, List.not_mem_nil, or_false] at h
      omega

theorem ofNat_eq_of_toNat {n : ℕ} {b : UInt8} (h : n = b.toNat) : UInt8.ofNat n = b := by
  rw [h, UInt8.ofNat_toNat]

theorem sextetBytes_sextets : ∀ bytes : List UInt8, sextetBytes (sextets bytes) = bytes
  | a :: b :: c :: bytes => by
      have ha := a.toNat_lt
      have hb := b.toNat_lt
      have hc := c.toNat_lt
      rw [sextets, sextetBytes, sextetBytes_sextets bytes, ofNat_eq_of_toNat (b := a) (by omega),
        ofNat_eq_of_toNat (b := b) (by omega), ofNat_eq_of_toNat (b := c) (by omega)]
  | [a, b] => by
      have ha := a.toNat_lt
      have hb := b.toNat_lt
      rw [sextets, sextetBytes, ofNat_eq_of_toNat (b := a) (by omega),
        ofNat_eq_of_toNat (b := b) (by omega)]
  | [a] => by
      have ha := a.toNat_lt
      rw [sextets, sextetBytes, ofNat_eq_of_toNat (b := a) (by omega)]
  | [] => rfl

theorem filterMap_base64Digit : ∀ {values : List ℕ}, (∀ n ∈ values, n < 64) →
    (values.map base64Digit).filterMap base64Value = values
  | [], _ => rfl
  | n :: values, h => by
      obtain ⟨hn, hvalues⟩ := List.forall_mem_cons.1 h
      rw [List.map_cons, List.filterMap_cons_some (base64Value_base64Digit n hn),
        filterMap_base64Digit hvalues]

theorem takeWhile_base64Padding (k : ℕ) :
    (base64Padding k).takeWhile (fun c => c ≠ '=') = [] := by
  unfold base64Padding
  cases (4 - k % 4) % 4 with
  | zero => rfl
  | succ m => rfl

/-- The padding is left off, and the digits are read back. -/
theorem fromBase64_toBase64 (bytes : List UInt8) : fromBase64 (toBase64 bytes) = bytes := by
  have hvalues : ∀ n ∈ sextets bytes, n < 64 := fun n hn => lt_of_mem_sextets hn
  have hdigits : ∀ c ∈ (sextets bytes).map base64Digit, decide (c ≠ '=') = true := by
    intro c hc
    obtain ⟨n, hn, rfl⟩ := List.mem_map.1 hc
    exact decide_eq_true (base64Digit_ne_pad n (hvalues n hn))
  rw [fromBase64, toBase64, List.takeWhile_append_of_pos hdigits, takeWhile_base64Padding,
    List.append_nil, filterMap_base64Digit hvalues, sextetBytes_sextets]

theorem dot_not_mem_toBase64 (bytes : List UInt8) : '.' ∉ toBase64 bytes := by
  intro h
  rcases List.mem_append.1 h with h | h
  · obtain ⟨n, hn, hdigit⟩ := List.mem_map.1 h
    exact base64Digit_ne_dot n (lt_of_mem_sextets hn) hdigit
  · cases List.eq_of_mem_replicate h

theorem toBase64_ne_nil {bytes : List UInt8} (h : bytes ≠ []) : toBase64 bytes ≠ [] := by
  intro htext
  have hread := fromBase64_toBase64 bytes
  rw [htext] at hread
  exact h hread.symm

end Js
