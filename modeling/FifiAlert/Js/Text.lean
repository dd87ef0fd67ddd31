import FifiAlert.Js.Json

/-!
# Strings as JavaScript sees them

The methods of strings that the program uses, on lists of characters: `split`,
`replace` and what they are built from. A length counts UTF-16 code units.
-/

namespace Js

/-- `s.length`. -/
def utf16Length (cs : List Char) : ℕ :=
  (cs.map fun c => if c.toNat < 0x10000 then 1 else 2).sum

/-- `s.slice(0, n)`; a character of two code units that is cut in half is left out. -/
def utf16Take : ℕ → List Char → List Char
  | _, [] => []
  | n, c :: cs =>
    let units := utf16Length [c]
    if units ≤ n then c :: utf16Take (n - units) cs else []

theorem utf16Length_append (cs ds : List Char) :
    utf16Length (cs ++ ds) = utf16Length cs + utf16Length ds := by
  simp [utf16Length]

theorem utf16Length_cons (c : Char) (cs : List Char) :
    utf16Length (c :: cs) = utf16Length [c] + utf16Length cs :=
  utf16Length_append [c] cs

theorem utf16Length_singleton_le (c : Char) : utf16Length [c] ≤ 2 := by
  rw [utf16Length, List.map_singleton, List.sum_singleton]
  split <;> decide

theorem utf16Length_le (cs : List Char) : utf16Length cs ≤ 2 * cs.length := by
  induction cs with
  | nil => exact le_rfl
  | cons c cs ih =>
      rw [utf16Length_cons, List.length_cons]
      have hc := utf16Length_singleton_le c
      omega

theorem utf16Length_take_le (n : ℕ) (cs : List Char) : utf16Length (utf16Take n cs) ≤ n := by
  induction cs generalizing n with
  | nil => exact Nat.zero_le n
  | cons c cs ih =>
      rw [utf16Take]
      split
      next hc =>
        rw [utf16Length_cons]
        have hrest := ih (n - utf16Length [c])
        omega
      next => exact Nat.zero_le n

theorem utf16Take_ne_nil {n : ℕ} {cs : List Char} (hn : 2 ≤ n) (h : cs ≠ []) :
    utf16Take n cs ≠ [] := by
  cases cs with
  | nil => exact absurd rfl h
  | cons c cs =>
      rw [utf16Take, if_pos ((utf16Length_singleton_le c).trans hn)]
      exact List.cons_ne_nil c _

/-- `s.replace(/c/g, r)` for a single character. -/
def replaceChar (c : Char) (r : String) (cs : List Char) : List Char :=
  cs.flatMap fun x => if x = c then r.toList else [x]

/-- The pieces between the occurrences of `sep`, with the characters of an
occurrence still to be skipped and the piece read so far, last character
first. -/
def splitFrom (sep : List Char) : ℕ → List Char → List Char → List (List Char)
  | _, piece, [] => [piece.reverse]
  | skip + 1, piece, _ :: cs => splitFrom sep skip piece cs
  | 0, piece, c :: cs =>
    if sep.isPrefixOf (c :: cs) then piece.reverse :: splitFrom sep (sep.length - 1) [] cs
    else splitFrom sep 0 (c :: piece) cs

/-- `s.split(sep)` for a separator that is not empty. -/
def splitOn (sep cs : List Char) : List (List Char) :=
  splitFrom sep 0 [] cs

/-- `pieces.join(sep)`. -/
def joinWith (sep : List Char) (pieces : List (List Char)) : List Char :=
  sep.intercalate pieces

/-- What a replacement string stands for after the text `before` and before the
text `after`: the patterns with a dollar sign are expanded. -/
def expandReplacement (before found after : List Char) : List Char → List Char
  | '$' :: '$' :: cs => '$' :: expandReplacement before found after cs
  | '$' :: '&' :: cs => found ++ expandReplacement before found after cs
  | '$' :: '\x60' :: cs => before ++ expandReplacement before found after cs
  | '$' :: '\'' :: cs => after ++ expandReplacement before found after cs
  | c :: cs => c :: expandReplacement before found after cs
  | [] => []

/-- `s.replace(pattern, replacement)` for strings: the first occurrence, with the
text before it last character first. -/
def replaceFrom (pattern replacement : List Char) : List Char → List Char → List Char
  | before, [] =>
    if pattern = [] then before.reverse ++ expandReplacement before.reverse [] [] replacement
    else before.reverse
  | before, c :: cs =>
    if pattern.isPrefixOf (c :: cs) then
      let after := (c :: cs).drop pattern.length
      before.reverse ++ expandReplacement before.reverse pattern after replacement ++ after
    else replaceFrom pattern replacement (c :: before) cs

def replace (cs pattern replacement : List Char) : List Char :=
  replaceFrom pattern replacement [] cs

/-- `s.includes(part)`. -/
def includes (cs part : List Char) : Bool :=
  cs.tails.any fun rest => part.isPrefixOf rest

/-- The lower case of a character. Of the characters beyond ASCII only the two are mapped whose
lower case has an ASCII letter. -/
def lowerChar (c : Char) : List Char :=
  if 65 ≤ c.toNat ∧ c.toNat ≤ 90 then [Char.ofNat (c.toNat + 32)]
  else if c.toNat = 0x212a then ['k']
  else if c.toNat = 0x130 then ['i', Char.ofNat 0x307]
  else [c]

/-- `s.toLowerCase()`, for a string that is searched for ASCII letters. -/
def toLowerCase (cs : List Char) : List Char :=
  cs.flatMap lowerChar

/-- The characters that `encodeURIComponent` leaves alone. -/
def isUnreserved (c : Char) : Bool :=
  c.isAlphanum || "-_.!~*'()".toList.contains c

def percentByte (b : UInt8) : List Char :=
  ['%', (Nat.digitChar (b.toNat / 16)).toUpper, (Nat.digitChar (b.toNat % 16)).toUpper]

def encodeURIComponent (cs : List Char) : List Char :=
  cs.flatMap fun c =>
    if isUnreserved c then [c] else (String.utf8EncodeChar c).flatMap percentByte

end Js
