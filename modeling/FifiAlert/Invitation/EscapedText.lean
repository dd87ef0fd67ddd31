import FifiAlert.Invitation.InvitationText
import FifiAlert.Js.Splitting
import Mathlib.Data.List.Basic

/-!
# Escaped text

`escapeHtml` works on each character alone, `unescapeHtml` undoes it, and the
escaped text has none of the characters that HTML reads in a special way, apart
from the ampersands of its entities.
-/

namespace FifiAlert

open Js

namespace InvitationText

/-- What becomes of a character. -/
def escapeChar (c : Char) : List Char :=
  if c = '&' then "&amp;".toList
  else if c = '<' then "&lt;".toList
  else if c = '>' then "&gt;".toList
  else if c = '"' then "&quot;".toList
  else if c = '\'' then "&#39;".toList
  else [c]

def unescapeHtml : List Char → List Char
  | '&' :: 'a' :: 'm' :: 'p' :: ';' :: cs => '&' :: unescapeHtml cs
  | '&' :: 'l' :: 't' :: ';' :: cs => '<' :: unescapeHtml cs
  | '&' :: 'g' :: 't' :: ';' :: cs => '>' :: unescapeHtml cs
  | '&' :: 'q' :: 'u' :: 'o' :: 't' :: ';' :: cs => '"' :: unescapeHtml cs
  | '&' :: '#' :: '3' :: '9' :: ';' :: cs => '\'' :: unescapeHtml cs
  | c :: cs => c :: unescapeHtml cs
  | [] => []

/-- The entities that stand for a character. -/
def entities : List (List Char) :=
  ["&amp;".toList, "&lt;".toList, "&gt;".toList, "&quot;".toList, "&#39;".toList]

/-- A text without markup: no angle bracket, no quote, and no ampersand but those of
the entities. -/
structure IsEscaped (cs : List Char) : Prop where
  plain : ∀ c ∈ cs, c ≠ '<' ∧ c ≠ '>' ∧ c ≠ '"' ∧ c ≠ '\''
  ampersand : ∀ rest, '&' :: rest <:+ cs → ∃ e ∈ entities, e <+: '&' :: rest

section Escaping

variable {c : Char} {cs ds : List Char}

theorem replaceChar_append (c : Char) (r : String) (cs ds : List Char) :
    replaceChar c r (cs ++ ds) = replaceChar c r cs ++ replaceChar c r ds :=
  List.flatMap_append

@[simp] theorem escapeHtml_append (cs ds : List Char) :
    escapeHtml (cs ++ ds) = escapeHtml cs ++ escapeHtml ds := by
  simp only [escapeHtml, replaceChar_append]

theorem escapeChar_of_plain (hamp : c ≠ '&') (hlt : c ≠ '<') (hgt : c ≠ '>') (hquot : c ≠ '"')
    (hapos : c ≠ '\'') : escapeChar c = [c] := by
  simp [escapeChar, hamp, hlt, hgt, hquot, hapos]

theorem replaceChar_of_ne {d : Char} (h : c ≠ d) (r : String) : replaceChar d r [c] = [c] := by
  unfold replaceChar
  rw [List.flatMap_cons, List.flatMap_nil, if_neg h, List.append_nil]

theorem escapeHtml_singleton (c : Char) : escapeHtml [c] = escapeChar c := by
  have hspecial : ∀ c ∈ ['&', '<', '>', '"', '\''], escapeHtml [c] = escapeChar c :=
    List.forall_iff_forall_mem.1 (by decide)
  by_cases hc : c ∈ ['&', '<', '>', '"', '\'']
  · exact hspecial c hc
  · simp only [List.mem_cons, List.not_mem_nil, or_false, not_or] at hc
    obtain ⟨hamp, hlt, hgt, hquot, hapos⟩ := hc
    rw [escapeChar_of_plain hamp hlt hgt hquot hapos, escapeHtml, replaceChar_of_ne hamp,
      replaceChar_of_ne hlt, replaceChar_of_ne hgt, replaceChar_of_ne hquot,
      replaceChar_of_ne hapos]

theorem escapeHtml_cons (c : Char) (cs : List Char) :
    escapeHtml (c :: cs) = escapeChar c ++ escapeHtml cs := by
  rw [← List.singleton_append, escapeHtml_append, escapeHtml_singleton]

theorem escapeHtml_eq_flatMap (cs : List Char) : escapeHtml cs = cs.flatMap escapeChar := by
  induction cs with
  | nil => rfl
  | cons c cs ih => rw [escapeHtml_cons, ih, List.flatMap_cons]

theorem escapeChar_cases (c : Char) :
    escapeChar c ∈ entities ∨
      escapeChar c = [c] ∧ c ≠ '&' ∧ c ≠ '<' ∧ c ≠ '>' ∧ c ≠ '"' ∧ c ≠ '\'' := by
  have hspecial : ∀ c ∈ ['&', '<', '>', '"', '\''], escapeChar c ∈ entities :=
    List.forall_iff_forall_mem.1 (by decide)
  by_cases hc : c ∈ ['&', '<', '>', '"', '\'']
  · exact .inl (hspecial c hc)
  · simp only [List.mem_cons, List.not_mem_nil, or_false, not_or] at hc
    obtain ⟨hamp, hlt, hgt, hquot, hapos⟩ := hc
    exact .inr ⟨escapeChar_of_plain hamp hlt hgt hquot hapos, hamp, hlt, hgt, hquot, hapos⟩

theorem unescapeHtml_of_ne (hc : c ≠ '&') (cs : List Char) :
    unescapeHtml (c :: cs) = c :: unescapeHtml cs := by
  rw [unescapeHtml] <;> intros <;> contradiction

theorem unescapeHtml_escapeChar (c : Char) (cs : List Char) :
    unescapeHtml (escapeChar c ++ cs) = c :: unescapeHtml cs := by
  by_cases hc : c ∈ ['&', '<', '>', '"', '\'']
  · simp only [List.mem_cons, List.not_mem_nil, or_false] at hc
    rcases hc with rfl | rfl | rfl | rfl | rfl <;> rfl
  · simp only [List.mem_cons, List.not_mem_nil, or_false, not_or] at hc
    obtain ⟨hamp, hlt, hgt, hquot, hapos⟩ := hc
    rw [escapeChar_of_plain hamp hlt hgt hquot hapos, List.singleton_append,
      unescapeHtml_of_ne hamp]

/-- Nothing is lost by escaping. -/
theorem unescapeHtml_escapeHtml (cs : List Char) : unescapeHtml (escapeHtml cs) = cs := by
  induction cs with
  | nil => rfl
  | cons c cs ih => rw [escapeHtml_cons, unescapeHtml_escapeChar, ih]

theorem escapeHtml_inj : escapeHtml cs = escapeHtml ds ↔ cs = ds := by
  constructor
  · intro h
    rw [← unescapeHtml_escapeHtml cs, h, unescapeHtml_escapeHtml]
  · intro h
    rw [h]

theorem mem_escapeChar {d : Char} (h : d ∈ escapeChar c) :
    d ≠ '<' ∧ d ≠ '>' ∧ d ≠ '"' ∧ d ≠ '\'' := by
  rcases escapeChar_cases c with hentity | ⟨hself, -, hplain⟩
  · have hall : ∀ e ∈ entities,
        List.Forall (fun d => d ≠ '<' ∧ d ≠ '>' ∧ d ≠ '"' ∧ d ≠ '\'') e := by decide
    exact List.forall_iff_forall_mem.1 (hall _ hentity) d h
  · rw [hself, List.mem_singleton] at h
    exact h ▸ hplain

theorem mem_escapeHtml {d : Char} (h : d ∈ escapeHtml cs) :
    d ≠ '<' ∧ d ≠ '>' ∧ d ≠ '"' ∧ d ≠ '\'' := by
  rw [escapeHtml_eq_flatMap] at h
  obtain ⟨c, -, hd⟩ := List.mem_flatMap.1 h
  exact mem_escapeChar hd

/-- An ampersand of an entity starts it. -/
theorem ampersand_of_entity {e rest : List Char} (he : e ∈ entities)
    (h : '&' :: rest <:+ e ++ cs) : '&' :: rest = e ++ cs ∨ '&' :: rest <:+ cs := by
  have hform : ∃ tail, e = '&' :: tail ∧ '&' ∉ tail := by
    have hall : ∀ e ∈ entities, e = '&' :: e.tail ∧ '&' ∉ e.tail := by decide
    exact ⟨e.tail, hall e he⟩
  obtain ⟨tail, rfl, htail⟩ := hform
  rw [List.cons_append] at h
  rcases List.suffix_cons_iff.1 h with heq | hsuffix
  · exact .inl heq
  · right
    clear h he
    induction tail with
    | nil => exact hsuffix
    | cons d tail ih =>
        obtain ⟨hne, htail⟩ := List.ne_and_not_mem_of_not_mem_cons htail
        rcases List.suffix_cons_iff.1 hsuffix with heq | hsuffix
        · exact absurd (List.cons_eq_cons.1 heq).1 hne
        · exact ih htail hsuffix

theorem isEscaped_escapeHtml (cs : List Char) : IsEscaped (escapeHtml cs) where
  plain _ hc := mem_escapeHtml hc
  ampersand rest h := by
    induction cs with
    | nil => exact absurd (List.suffix_nil.1 h) (List.cons_ne_nil _ _)
    | cons c cs ih =>
        rw [escapeHtml_cons] at h
        rcases escapeChar_cases c with hentity | ⟨hself, hamp, -⟩
        · rcases ampersand_of_entity hentity h with heq | hsuffix
          · exact ⟨escapeChar c, hentity, heq ▸ List.prefix_append _ _⟩
          · exact ih hsuffix
        · rw [hself, List.singleton_append] at h
          rcases List.suffix_cons_iff.1 h with heq | hsuffix
          · exact absurd (List.cons_eq_cons.1 heq).1.symm hamp
          · exact ih hsuffix

end Escaping

end InvitationText

end FifiAlert
