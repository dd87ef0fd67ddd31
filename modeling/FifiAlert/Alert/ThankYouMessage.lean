import FifiAlert.Js.Json
import FifiAlert.Js.Rewriting

/-!
# The public thank-you note

The note of an owner whose pet came home is shown to the neighbours, so tags and
control characters are removed from it and its white space is collapsed. The
passes read a string as JavaScript stores it, a sequence of 16-bit code units in
which half of a surrogate pair may stand alone.
-/

namespace FifiAlert

open Js

/-- A string, by its code units. -/
abbrev Units := List UInt16

namespace ThankYouMessage

/-- The code units that `\s` and `trim` mean; half of a surrogate pair is none. -/
def isWhiteSpaceUnit (u : UInt16) : Bool :=
  isWhiteSpace (Char.ofNat u.toNat)

def opensHtmlTag (u : UInt16) : Bool := u = 0x3c

def closesHtmlTag (u : UInt16) : Bool := u = 0x3e

/-- The control characters of `CONTROL_CHARS`: all but tab, line feed and carriage return. -/
def isControlChar (u : UInt16) : Bool :=
  u ≤ 0x08 || u = 0x0b || u = 0x0c || (0x0e ≤ u && u ≤ 0x1f) || u = 0x7f

def space : UInt16 := 0x20

def cleaned (input : Units) : Units :=
  trimBy isWhiteSpaceUnit (collapse isWhiteSpaceUnit space false
    ((deleteSpans opensHtmlTag closesHtmlTag false input).filter fun u => !isControlChar u))

/-- The argument is `none` where the value is not a string. -/
def sanitizeThankYouMessage (input : Option Units) : Option Units :=
  match input with
  | none => none
  | some text => if 0 < (cleaned text).length then some (cleaned text) else none

/-- A note as the other clients may rely on it. -/
structure Clean (note : Units) : Prop where
  nonempty : note ≠ []
  noTag : ∀ inner : Units, ¬ (0x3c :: inner ++ [0x3e]) <:+: note
  noControl : ∀ u ∈ note, ¬ (u ≤ 0x1f ∨ u = 0x7f)
  noSpaces : ∀ u v : UInt16, [u, v] <:+: note →
    ¬ (isWhiteSpaceUnit u = true ∧ isWhiteSpaceUnit v = true)
  noLeading : ∀ u ∈ note.head?, isWhiteSpaceUnit u = false
  noTrailing : ∀ u ∈ note.getLast?, isWhiteSpaceUnit u = false

section Cleaned

variable {input : Units} {u : UInt16}

theorem isWhiteSpaceUnit_or_isControlChar (h : u ≤ 0x1f) :
    isWhiteSpaceUnit u = true ∨ isControlChar u = true := by
  have hall : ∀ n : Fin 32, isWhiteSpaceUnit (UInt16.ofNat n) = true ∨
      isControlChar (UInt16.ofNat n) = true := by decide
  have hlt : u.toNat < 32 := Nat.lt_succ_of_le (UInt16.le_iff_toNat_le.1 h)
  simpa using hall ⟨u.toNat, hlt⟩

theorem spanless_cleaned (input : Units) :
    Spanless opensHtmlTag closesHtmlTag (cleaned input) :=
  ((((spanless_deleteSpans false input).sublist List.filter_sublist).collapse
    rfl rfl false).sublist (trimBy_isInfix isWhiteSpaceUnit _).sublist)

theorem separate_cleaned (input : Units) : Separate isWhiteSpaceUnit (cleaned input) :=
  List.IsChain.infix (separate_collapse false _).1 (trimBy_isInfix isWhiteSpaceUnit _)

/-- What is left is the replacement, or neither white space nor a control character. -/
theorem eq_space_of_mem_cleaned (h : u ∈ cleaned input) :
    u = space ∨ isWhiteSpaceUnit u = false ∧ isControlChar u = false := by
  have hcollapsed := (trimBy_isInfix isWhiteSpaceUnit _).subset h
  rcases eq_or_mem_of_mem_collapse hcollapsed with hspace | ⟨hmem, hwhite⟩
  · exact .inl hspace
  · exact .inr ⟨hwhite, by simpa using (List.mem_filter.1 hmem).2⟩

theorem isControlChar_of_mem_cleaned (h : u ∈ cleaned input) : isControlChar u = false := by
  rcases eq_space_of_mem_cleaned h with rfl | hu
  · rfl
  · exact hu.2

theorem eq_space_of_isWhiteSpaceUnit (h : u ∈ cleaned input) (hu : isWhiteSpaceUnit u = true) :
    u = space := by
  rcases eq_space_of_mem_cleaned h with hspace | ⟨hwhite, _⟩
  · exact hspace
  · rw [hwhite] at hu
    cases hu

theorem clean_cleaned (h : cleaned input ≠ []) : Clean (cleaned input) where
  nonempty := h
  noTag inner := (spanless_cleaned input).no_span rfl rfl inner
  noControl u hu := by
    have hcontrol := isControlChar_of_mem_cleaned hu
    rintro (hlow | rfl)
    · rcases eq_space_of_mem_cleaned hu with rfl | ⟨hwhite, _⟩
      · exact absurd hlow (by decide)
      · rcases isWhiteSpaceUnit_or_isControlChar hlow with hw | hc
        · exact Bool.false_ne_true (hwhite.symm.trans hw)
        · exact Bool.false_ne_true (hcontrol.symm.trans hc)
    · exact absurd hcontrol (by decide)
  noSpaces u v hin := by
    have hchain : List.IsChain _ [u, v] := List.IsChain.infix (separate_cleaned input) hin
    have hpair := List.isChain_pair.1 hchain
    rintro ⟨hu, hv⟩
    exact Bool.false_ne_true ((hpair hu).symm.trans hv)
  noLeading _ hu := not_of_mem_head?_trimBy hu
  noTrailing _ hu := not_of_mem_getLast?_trimBy hu

/-- A cleaned note has nothing left for any of the passes. -/
theorem cleaned_cleaned (input : Units) : cleaned (cleaned input) = cleaned input := by
  have htags : deleteSpans opensHtmlTag closesHtmlTag false (cleaned input) = cleaned input :=
    deleteSpans_of_spanless (spanless_cleaned input)
  have hcontrols : (cleaned input).filter (fun u => !isControlChar u) = cleaned input :=
    List.filter_eq_self.2 fun u hu => by simp [isControlChar_of_mem_cleaned hu]
  have hspaces : collapse isWhiteSpaceUnit space false (cleaned input) = cleaned input :=
    collapse_of_separate (separate_cleaned input) fun u hu => eq_space_of_isWhiteSpaceUnit hu
  have hends : trimBy isWhiteSpaceUnit (cleaned input) = cleaned input :=
    trimBy_of_ends (fun _ hu => not_of_mem_head?_trimBy hu)
      fun _ hu => not_of_mem_getLast?_trimBy hu
  rw [cleaned, htags, hcontrols, hspaces, hends]

theorem sanitizeThankYouMessage_eq_some_iff {note : Units} :
    sanitizeThankYouMessage (some input) = some note ↔ cleaned input = note ∧ note ≠ [] := by
  rw [sanitizeThankYouMessage]
  split
  next h => simpa using fun hnote => hnote ▸ List.length_pos_iff.1 h
  next h =>
    have hnil : cleaned input = [] := by simpa using h
    simp [hnil]

end Cleaned

/-- A sanitized note is clean, and sanitizing it again changes nothing. -/
theorem sanitizeThankYouMessage_clean {input note : Units}
    (h : sanitizeThankYouMessage (some input) = some note) :
    Clean note ∧ sanitizeThankYouMessage (some note) = some note := by
  obtain ⟨rfl, hne⟩ := sanitizeThankYouMessage_eq_some_iff.1 h
  exact ⟨clean_cleaned hne,
    sanitizeThankYouMessage_eq_some_iff.2 ⟨cleaned_cleaned input, hne⟩⟩

/-- `"<<b>b>\ta \n"`, the tag inside of the tag and the tab. -/
theorem sanitizeThankYouMessage_nested :
    sanitizeThankYouMessage (some [0x3c, 0x3c, 0x62, 0x3e, 0x62, 0x3e, 9, 0x61, 0x20, 10]) =
        some [0x62, 0x3e, 0x20, 0x61] ∧
      Clean [0x62, 0x3e, 0x20, 0x61] ∧
      sanitizeThankYouMessage (some [0x62, 0x3e, 0x20, 0x61]) = some [0x62, 0x3e, 0x20, 0x61] :=
  have h : sanitizeThankYouMessage
      (some [0x3c, 0x3c, 0x62, 0x3e, 0x62, 0x3e, 9, 0x61, 0x20, 10]) =
      some [0x62, 0x3e, 0x20, 0x61] := by decide +kernel
  ⟨h, sanitizeThankYouMessage_clean h⟩

end ThankYouMessage

end FifiAlert
