import FifiAlert.Js.Ident

/-!
# JSON values as texts

`writeJson` writes a value without white space, as `JSON.stringify` does, and `parseJson` reads
what is written so, and nothing else. Lists and fields are read element by element, with a bound on
the calls, and the length of a text is bound enough for it. A number is read back when it is an
integer: then it is written without decimals, and the text goes on with what no number has.
-/

namespace Js

/-- A character of a string. -/
def escapeChar (c : Char) : List Char :=
  if c = '\x22' then ['\\', '\x22']
  else if c = '\\' then ['\\', '\\']
  else if c = '\n' then ['\\', 'n']
  else if c = '\r' then ['\\', 'r']
  else if c = '\t' then ['\\', 't']
  else if c = '\x08' then ['\\', 'b']
  else if c = '\x0c' then ['\\', 'f']
  else if c.toNat < 32 then
    ['\\', 'u', '0', '0', Nat.digitChar (c.toNat / 16), Nat.digitChar (c.toNat % 16)]
  else [c]

def writeString (s : String) : List Char :=
  '\x22' :: s.toList.flatMap escapeChar ++ ['\x22']

mutual

/-- `JSON.stringify(value)`. -/
def writeJson : Json → List Char
  | .null => ['n', 'u', 'l', 'l']
  | .bool true => ['t', 'r', 'u', 'e']
  | .bool false => ['f', 'a', 'l', 's', 'e']
  | .num q => (decimal q).toList
  | .str s => writeString s
  | .arr elems => '[' :: (writeElems elems).drop 1 ++ [']']
  | .obj fields => '{' :: (writeFields fields).drop 1 ++ ['}']

/-- The elements of an array, each after a comma. -/
def writeElems : List Json → List Char
  | [] => []
  | v :: vs => ',' :: writeJson v ++ writeElems vs

/-- The fields of an object, each after a comma. -/
def writeFields : List (String × Json) → List Char
  | [] => []
  | (key, v) :: fields => ',' :: writeString key ++ ':' :: writeJson v ++ writeFields fields

end

example : writeJson (.obj [("a", .arr [.num 1, .num (-20), .str "\x01\n"]), ("b", .null)]) =
    "\x7b\x22a\x22:[1,-20,\x22\\u0001\\n\x22],\x22b\x22:null\x7d".toList := by
  decide +kernel

/-- What a character stands for after a backslash. -/
def unescapeChar : Char → Option Char
  | '\x22' => some '\x22'
  | '\\' => some '\\'
  | 'n' => some '\n'
  | 'r' => some '\r'
  | 't' => some '\t'
  | 'b' => some '\x08'
  | 'f' => some '\x0c'
  | _ => none

/-- The rest of a string, after its opening quote. -/
def readString : List Char → Option (List Char × List Char)
  | [] => none
  | '\x22' :: cs => some ([], cs)
  | '\\' :: 'u' :: a :: b :: c :: d :: cs =>
      (digits 16 [a, b, c, d]).bind fun code =>
        if 0xd800 ≤ code ∧ code ≤ 0xdfff then none
        else (readString cs).map (Prod.map (Char.ofNat code :: ·) id)
  | '\\' :: c :: cs =>
      (unescapeChar c).bind fun x => (readString cs).map (Prod.map (x :: ·) id)
  | c :: cs =>
      if c.toNat < 32 then none else (readString cs).map (Prod.map (c :: ·) id)

def isNumberChar (c : Char) : Bool :=
  c.isDigit || c = '-' || c = '+' || c = '.' || c = 'e' || c = 'E'

def readNumber (cs : List Char) : Option (Json × List Char) :=
  (signedDecimal (cs.takeWhile isNumberChar)).map fun q => (.num q, cs.dropWhile isNumberChar)

def readWord : List Char → Option (Json × List Char)
  | 'n' :: 'u' :: 'l' :: 'l' :: cs => some (.null, cs)
  | 't' :: 'r' :: 'u' :: 'e' :: cs => some (.bool true, cs)
  | 'f' :: 'a' :: 'l' :: 's' :: 'e' :: cs => some (.bool false, cs)
  | _ => none

/-- What follows an opening bracket, with a comma in front of the first element. -/
def opened (close : Char) (cs : List Char) : List Char :=
  if cs.head? = some close then cs else ',' :: cs

def afterColon : List Char → Option (List Char)
  | ':' :: cs => some cs
  | _ => none

mutual

/-- A value, with a bound on the nested calls, and what follows it. -/
def readValue : ℕ → List Char → Option (Json × List Char)
  | 0, _ => none
  | _, [] => none
  | fuel + 1, c :: cs =>
      if c = '\x22' then (readString cs).map fun (s, rest) => (.str (String.ofList s), rest)
      else if c = '[' then
        (readElems fuel (opened ']' cs)).map fun (elems, rest) => (.arr elems, rest)
      else if c = '{' then
        (readFields fuel (opened '}' cs)).map fun (fields, rest) => (.obj fields, rest)
      else if isNumberChar c then readNumber (c :: cs)
      else readWord (c :: cs)

def readElems : ℕ → List Char → Option (List Json × List Char)
  | fuel + 1, ',' :: cs =>
      (readValue fuel cs).bind fun (v, rest) =>
        (readElems fuel rest).map fun (vs, rest') => (v :: vs, rest')
  | _ + 1, ']' :: cs => some ([], cs)
  | _, _ => none

def readFields : ℕ → List Char → Option (List (String × Json) × List Char)
  | fuel + 1, ',' :: '\x22' :: cs =>
      (readString cs).bind fun (key, colon) =>
        (afterColon colon).bind fun value =>
          (readValue fuel value).bind fun (v, rest) =>
            (readFields fuel rest).map fun (fields, rest') =>
              ((String.ofList key, v) :: fields, rest')
  | _ + 1, '}' :: cs => some ([], cs)
  | _, _ => none

end

/-- `JSON.parse(text)`, for the texts that `writeJson` writes. -/
def parseJson (text : String) : Option Json :=
  (readValue (text.toList.length + 1) text.toList).bind fun (v, rest) =>
    if rest = [] ∧ writeJson v = text.toList then some v else none

theorem parseJson_empty : parseJson "" = none := rfl

/-- The integers among the numbers of the language: those that a mantissa of 53 bits is enough
for. -/
def IsNumber (n : ℤ) : Prop :=
  ∃ (mantissa : ℤ) (exponent : ℕ), mantissa.natAbs < 2 ^ 53 ∧ exponent ≤ 971 ∧
    n = mantissa * 2 ^ exponent

mutual

/-- All numbers of the value are integers. -/
def Json.isIntegral : Json → Bool
  | .num q => q.den = 1
  | .arr elems => elemsIntegral elems
  | .obj fields => fieldsIntegral fields
  | _ => true

def elemsIntegral : List Json → Bool
  | [] => true
  | v :: vs => v.isIntegral && elemsIntegral vs

def fieldsIntegral : List (String × Json) → Bool
  | [] => true
  | (_, v) :: fields => v.isIntegral && fieldsIntegral fields

end

section Strings

theorem digits_controlChar : ∀ n < 32,
    digits 16 ['0', '0', Nat.digitChar (n / 16), Nat.digitChar (n % 16)] = some n := by
  decide

/-- An escaped character is read as the character. -/
theorem readString_escapeChar (c : Char) (cs : List Char) :
    readString (escapeChar c ++ cs) = (readString cs).map (Prod.map (c :: ·) id) := by
  unfold escapeChar
  split_ifs with hquote hbackslash hn hr ht hb hf hcontrol
  · subst hquote
    simp [readString, unescapeChar]
  · subst hbackslash
    simp [readString, unescapeChar]
  · subst hn
    simp [readString, unescapeChar]
  · subst hr
    simp [readString, unescapeChar]
  · subst ht
    simp [readString, unescapeChar]
  · subst hb
    simp [readString, unescapeChar]
  · subst hf
    simp [readString, unescapeChar]
  · have hread := digits_controlChar c.toNat hcontrol
    have hplain : ¬ (0xd800 ≤ c.toNat ∧ c.toNat ≤ 0xdfff) := by omega
    simp [readString, hread, hplain]
  · simp [readString, hbackslash, hcontrol]

/-- A string is read back, whatever follows. -/
theorem readString_flatMap (s rest : List Char) :
    readString (s.flatMap escapeChar ++ '\x22' :: rest) = some (s, rest) := by
  induction s with
  | nil => rfl
  | cons c s ih =>
      rw [List.flatMap_cons, List.append_assoc, readString_escapeChar, ih]
      rfl

theorem writeString_append (s : String) (rest : List Char) :
    writeString s ++ rest = '\x22' :: (s.toList.flatMap escapeChar ++ '\x22' :: rest) := by
  simp [writeString]

end Strings

section Numbers

theorem isNumberChar_of_mem_toDigits {n : ℕ} {c : Char} (h : c ∈ Nat.toDigits 10 n) :
    isNumberChar c = true := by
  simp [isNumberChar, isDigit_toDigits c h]

theorem isNumberChar_toString (t : ℤ) : ∀ c ∈ (toString t).toList, isNumberChar c = true := by
  intro c hc
  cases t with
  | ofNat n =>
      rw [show (toString (Int.ofNat n)).toList = Nat.toDigits 10 n from toList_toString n] at hc
      exact isNumberChar_of_mem_toDigits hc
  | negSucc n =>
      rw [toList_toString_negSucc, List.mem_cons] at hc
      rcases hc with rfl | hc
      · rfl
      · exact isNumberChar_of_mem_toDigits hc

/-- The text of an integer has a first character. -/
theorem exists_toString_eq_cons (t : ℤ) :
    ∃ c cs, (toString t).toList = c :: cs ∧ isNumberChar c = true := by
  cases h : (toString t).toList with
  | nil =>
      have hread := signedDecimal_toString t
      rw [h] at hread
      cases hread
  | cons c cs => exact ⟨c, cs, rfl, isNumberChar_toString t c (h ▸ List.mem_cons_self)⟩

/-- An integer is read back when what follows is no part of a number. -/
theorem readNumber_toString (t : ℤ) {rest : List Char}
    (hrest : ∀ c ∈ rest.head?, isNumberChar c = false) :
    readNumber ((toString t).toList ++ rest) = some (.num t, rest) := by
  have hnone : rest.takeWhile isNumberChar = [] ∧ rest.dropWhile isNumberChar = rest := by
    cases rest with
    | nil => exact ⟨rfl, rfl⟩
    | cons c rest => simp [hrest c rfl]
  rw [readNumber, List.takeWhile_append_of_pos (isNumberChar_toString t),
    List.dropWhile_append_of_pos (isNumberChar_toString t), hnone.1, hnone.2, List.append_nil,
    signedDecimal_toString]
  rfl

theorem ne_of_isNumberChar {c d : Char} (hc : isNumberChar c = true) (hd : isNumberChar d = false) :
    c ≠ d := by
  rintro rfl
  rw [hc] at hd
  cases hd

theorem exists_intCast_of_den {q : ℚ} (h : q.den = 1) : ∃ t : ℤ, q = t :=
  ⟨q.num, (Rat.coe_int_num_of_den_eq_one h).symm⟩

end Numbers

section Values

variable {rest : List Char} {fuel : ℕ}

/-- An integral value starts with no closing bracket. -/
theorem exists_writeJson_eq_cons {v : Json} (hv : v.isIntegral = true) :
    ∃ c cs, writeJson v = c :: cs ∧ c ≠ ']' := by
  cases v with
  | num q =>
      obtain ⟨t, rfl⟩ := exists_intCast_of_den (of_decide_eq_true hv)
      obtain ⟨c, cs, hcs, hc⟩ := exists_toString_eq_cons t
      exact ⟨c, cs, by rw [writeJson, decimal_intCast, hcs], ne_of_isNumberChar hc (by decide)⟩
  | bool b => cases b <;> exact ⟨_, _, rfl, by decide⟩
  | _ => exact ⟨_, _, rfl, by decide⟩

/-- What is opened has the comma of its first element back. -/
theorem opened_drop {close : Char} {text : List Char}
    (h : text = [] ∨ ∃ c cs, text = ',' :: c :: cs ∧ c ≠ close) :
    opened close (text.drop 1 ++ close :: rest) = text ++ close :: rest := by
  rcases h with rfl | ⟨c, cs, rfl, hc⟩
  · exact if_pos rfl
  · exact if_neg fun heq => hc (Option.some.inj heq)

theorem writeElems_eq_cons {vs : List Json} (hvs : elemsIntegral vs = true) :
    writeElems vs = [] ∨ ∃ c cs, writeElems vs = ',' :: c :: cs ∧ c ≠ ']' := by
  cases vs with
  | nil => exact .inl rfl
  | cons v vs =>
      obtain ⟨c, cs, hcs, hc⟩ := exists_writeJson_eq_cons (Bool.and_eq_true_iff.1 hvs).1
      exact .inr ⟨c, cs ++ writeElems vs, by rw [writeElems, hcs]; rfl, hc⟩

theorem writeFields_eq_cons (fields : List (String × Json)) :
    writeFields fields = [] ∨ ∃ c cs, writeFields fields = ',' :: c :: cs ∧ c ≠ '}' := by
  cases fields with
  | nil => exact .inl rfl
  | cons field fields => exact .inr ⟨_, _, rfl, by decide⟩

theorem head?_writeElems (vs : List Json) :
    ∀ c ∈ (writeElems vs ++ ']' :: rest).head?, isNumberChar c = false := by
  cases vs with
  | nil => rintro _ ⟨⟩; rfl
  | cons v vs => rintro _ ⟨⟩; rfl

theorem head?_writeFields (fields : List (String × Json)) :
    ∀ c ∈ (writeFields fields ++ '}' :: rest).head?, isNumberChar c = false := by
  cases fields with
  | nil => rintro _ ⟨⟩; rfl
  | cons field fields => rintro _ ⟨⟩; rfl

mutual

/-- A value is read back from its text, whatever follows that is no part of a number. -/
theorem readValue_writeJson : ∀ (v : Json), v.isIntegral = true →
    ∀ {fuel : ℕ} {rest : List Char}, (writeJson v).length < fuel →
      (∀ c ∈ rest.head?, isNumberChar c = false) →
        readValue fuel (writeJson v ++ rest) = some (v, rest)
  | _, _, 0, _, hfuel, _ => absurd hfuel (Nat.not_lt_zero _)
  | .null, _, _ + 1, _, _, _ => rfl
  | .bool true, _, _ + 1, _, _, _ => rfl
  | .bool false, _, _ + 1, _, _, _ => rfl
  | .num q, hv, fuel + 1, rest, _, hrest => by
      obtain ⟨t, rfl⟩ := exists_intCast_of_den (of_decide_eq_true hv)
      obtain ⟨c, cs, hcs, hc⟩ := exists_toString_eq_cons t
      have hread := readNumber_toString t hrest
      rw [writeJson, decimal_intCast]
      rw [hcs, List.cons_append] at hread ⊢
      rw [readValue, if_neg (ne_of_isNumberChar hc (by decide)),
        if_neg (ne_of_isNumberChar hc (by decide)), if_neg (ne_of_isNumberChar hc (by decide)),
        if_pos hc, hread]
  | .str s, _, fuel + 1, rest, _, _ => by
      rw [writeJson, writeString_append, readValue, if_pos rfl, readString_flatMap,
        Option.map_some]
      simp only [String.ofList_toList]
  | .arr elems, hv, fuel + 1, rest, hfuel, _ => by
      have hlt : (writeElems elems).length < fuel := by
        simp only [writeJson, List.length_append, List.length_cons, List.length_drop,
          List.length_nil] at hfuel
        omega
      have hread : readElems fuel (writeElems elems ++ ']' :: rest) = some (elems, rest) :=
        readElems_writeElems elems hv hlt
      rw [writeJson, List.append_assoc, List.singleton_append, List.cons_append, readValue,
        if_neg (by decide), if_pos rfl, opened_drop (writeElems_eq_cons hv), hread, Option.map_some]
  | .obj fields, hv, fuel + 1, rest, hfuel, _ => by
      have hlt : (writeFields fields).length < fuel := by
        simp only [writeJson, List.length_append, List.length_cons, List.length_drop,
          List.length_nil] at hfuel
        omega
      have hread : readFields fuel (writeFields fields ++ '}' :: rest) = some (fields, rest) :=
        readFields_writeFields fields hv hlt
      rw [writeJson, List.append_assoc, List.singleton_append, List.cons_append, readValue,
        if_neg (by decide), if_neg (by decide), if_pos rfl,
        opened_drop (writeFields_eq_cons fields),
        hread, Option.map_some]

theorem readElems_writeElems : ∀ (vs : List Json), elemsIntegral vs = true →
    ∀ {fuel : ℕ} {rest : List Char}, (writeElems vs).length < fuel →
      readElems fuel (writeElems vs ++ ']' :: rest) = some (vs, rest)
  | _, _, 0, _, hfuel => absurd hfuel (Nat.not_lt_zero _)
  | [], _, fuel + 1, rest, _ => rfl
  | v :: vs, hvs, fuel + 1, rest, hfuel => by
      have ⟨hv, hvs⟩ := Bool.and_eq_true_iff.1 hvs
      simp only [writeElems, List.cons_append, List.length_cons, List.length_append] at hfuel
      have hhead : readValue fuel (writeJson v ++ (writeElems vs ++ ']' :: rest)) = some (v, _) :=
        readValue_writeJson v hv (by omega) (head?_writeElems vs)
      have htail : readElems fuel (writeElems vs ++ ']' :: rest) = some (vs, rest) :=
        readElems_writeElems vs hvs (by omega)
      rw [writeElems, List.cons_append, List.cons_append, List.append_assoc, readElems]
      simp only [hhead, htail, Option.bind_some, Option.map_some]

theorem readFields_writeFields : ∀ (fields : List (String × Json)), fieldsIntegral fields = true →
    ∀ {fuel : ℕ} {rest : List Char}, (writeFields fields).length < fuel →
      readFields fuel (writeFields fields ++ '}' :: rest) = some (fields, rest)
  | _, _, 0, _, hfuel => absurd hfuel (Nat.not_lt_zero _)
  | [], _, fuel + 1, rest, _ => rfl
  | (key, v) :: fields, hfields, fuel + 1, rest, hfuel => by
      have ⟨hv, hfields⟩ := Bool.and_eq_true_iff.1 hfields
      simp only [writeFields, List.cons_append, List.length_cons, List.length_append] at hfuel
      have hhead : readValue fuel (writeJson v ++ (writeFields fields ++ '}' :: rest)) =
          some (v, _) :=
        readValue_writeJson v hv (by omega) (head?_writeFields fields)
      have htail : readFields fuel (writeFields fields ++ '}' :: rest) = some (fields, rest) :=
        readFields_writeFields fields hfields (by omega)
      rw [writeFields, List.append_assoc, List.append_assoc, List.cons_append, List.cons_append,
        writeString_append, readFields, readString_flatMap]
      simp only [Option.bind_some, Option.map_some, afterColon, hhead, htail,
        String.ofList_toList]

end

/-- What is written is read back. -/
theorem parseJson_writeJson {v : Json} (hv : v.isIntegral = true) :
    parseJson (String.ofList (writeJson v)) = some v := by
  have hread : readValue ((writeJson v).length + 1) (writeJson v ++ []) = some (v, []) :=
    readValue_writeJson v hv (Nat.lt_succ_self _) (by rintro _ ⟨⟩)
  rw [List.append_nil] at hread
  rw [parseJson, String.toList_ofList, hread]
  exact if_pos ⟨rfl, rfl⟩

end Values

end Js
