import FifiAlert.Invitation.EscapedText
import FifiAlert.Invitation.InvitationService
import Mathlib.Tactic.Ring

/-!
# The sender in the footer

The footer puts the name of the sender into a text with `String.replace`, which reads
the dollar patterns of a replacement. Without one of them in the name, the footer
names the sender literally.
-/

namespace FifiAlert

open Js

namespace InvitationText

def senderPlaceholder : List Char := "\x7bsenderName\x7d".toList

/-- The value of `receivedBecause`, from the text of the layout. -/
def receivedBecause (text : List Char) (sender : SenderNameSource) : List Char :=
  escapeHtml (replace text senderPlaceholder (senderDisplayName sender).toList)

/-- The same with the placeholder replaced character for character. -/
def receivedBecauseLiterally (text : List Char) (sender : SenderNameSource) : List Char :=
  escapeHtml (joinWith (senderDisplayName sender).toList (splitOn senderPlaceholder text))

def NamesLiterally (text : List Char) (sender : SenderNameSource) : Prop :=
  receivedBecause text sender = receivedBecauseLiterally text sender

/-- The placeholder occurs once. -/
def HasPlaceholder (text : List Char) : Prop :=
  (splitOn senderPlaceholder text).length = 2

/-- The characters after a dollar sign that `replace` reads. -/
def dollarChars : List Char := ['$', '&', '\x60', '\'']

def NoDollarPattern (name : List Char) : Prop :=
  ∀ c ∈ dollarChars, ¬ ['$', c] <:+: name

/-- Some character on either side of the placeholder belongs to no dollar pattern. -/
def HasWords (text : List Char) : Prop :=
  ∀ side ∈ splitOn senderPlaceholder text, ∃ c ∈ side, c ∉ dollarChars

/-- The dollar patterns that are expanded, by their second character. -/
def dollarPatterns : List Char → List Char
  | '$' :: '$' :: cs => '$' :: dollarPatterns cs
  | '$' :: '&' :: cs => '&' :: dollarPatterns cs
  | '$' :: '\x60' :: cs => '\x60' :: dollarPatterns cs
  | '$' :: '\'' :: cs => '\'' :: dollarPatterns cs
  | _ :: cs => dollarPatterns cs
  | [] => []

section Expansion

variable {before found after cs : List Char} {c : Char}

theorem expandReplacement_of_none (h : dollarPatterns cs = []) :
    expandReplacement before found after cs = cs := by
  fun_induction expandReplacement before found after cs with
  | case1 cs ih => cases h
  | case2 cs ih => cases h
  | case3 cs ih => cases h
  | case4 cs ih => cases h
  | case5 c cs h1 h2 h3 h4 ih => rw [ih (by rwa [dollarPatterns] at h <;> assumption)]
  | case6 => rfl

/-- Where a character comes from that belongs to no pattern. -/
theorem count_expandReplacement (before found after cs : List Char) (hc : c ∉ dollarChars) :
    (expandReplacement before found after cs).count c =
      cs.count c + (dollarPatterns cs).count '&' * found.count c +
        (dollarPatterns cs).count '\x60' * before.count c +
        (dollarPatterns cs).count '\'' * after.count c := by
  simp only [dollarChars, List.mem_cons, List.not_mem_nil, or_false, not_or] at hc
  obtain ⟨hdollar, hamp, htick, hquote⟩ := hc
  fun_induction expandReplacement before found after cs with
  | case1 cs ih => simp [dollarPatterns, ih, Ne.symm hdollar]
  | case2 cs ih =>
      simp [dollarPatterns, ih, Ne.symm hdollar, Ne.symm hamp]
      ring
  | case3 cs ih =>
      simp [dollarPatterns, ih, Ne.symm hdollar, Ne.symm htick]
      ring
  | case4 cs ih =>
      simp [dollarPatterns, ih, Ne.symm hdollar, Ne.symm hquote]
      ring
  | case5 d cs h1 h2 h3 h4 ih =>
      have hrest : dollarPatterns (d :: cs) = dollarPatterns cs := by
        rw [dollarPatterns] <;> assumption
      rw [hrest, List.count_cons, List.count_cons, ih]
      ring
  | case6 => simp [dollarPatterns]

/-- A doubled dollar sign loses one. -/
theorem length_expandReplacement (before found after : List Char)
    (h : ∀ c ∈ dollarPatterns cs, c = '$') :
    (expandReplacement before found after cs).length + (dollarPatterns cs).length =
      cs.length := by
  fun_induction expandReplacement before found after cs with
  | case1 cs ih =>
      rw [dollarPatterns] at h ⊢
      have hrest := ih fun c hc => h c (List.mem_cons_of_mem _ hc)
      simp only [List.length_cons]
      omega
  | case2 cs ih => exact absurd (h '&' (by simp [dollarPatterns])) (by decide)
  | case3 cs ih => exact absurd (h '\x60' (by simp [dollarPatterns])) (by decide)
  | case4 cs ih => exact absurd (h '\'' (by simp [dollarPatterns])) (by decide)
  | case5 d cs h1 h2 h3 h4 ih =>
      have hrest : dollarPatterns (d :: cs) = dollarPatterns cs := by
        rw [dollarPatterns] <;> assumption
      rw [hrest] at h ⊢
      rw [List.length_cons, List.length_cons, ← ih h]
      omega
  | case6 => rfl

theorem mem_dollarChars_of_mem (h : c ∈ dollarPatterns cs) : c ∈ dollarChars := by
  fun_induction dollarPatterns cs with
  | case1 cs ih => exact (List.mem_cons.1 h).elim (fun hc => hc ▸ by decide) ih
  | case2 cs ih => exact (List.mem_cons.1 h).elim (fun hc => hc ▸ by decide) ih
  | case3 cs ih => exact (List.mem_cons.1 h).elim (fun hc => hc ▸ by decide) ih
  | case4 cs ih => exact (List.mem_cons.1 h).elim (fun hc => hc ▸ by decide) ih
  | case5 d cs h1 h2 h3 h4 ih => exact ih h
  | case6 => cases h

theorem pair_infix_cons {a b : Char} :
    [a, b] <:+: c :: cs ↔ (a = c ∧ [b] <+: cs) ∨ [a, b] <:+: cs := by
  rw [List.infix_cons_iff, List.cons_prefix_cons]

theorem dollarPatterns_eq_nil_iff : dollarPatterns cs = [] ↔ NoDollarPattern cs := by
  have hfound : ∀ c ∈ dollarChars, ∀ rest, ¬ NoDollarPattern ('$' :: c :: rest) :=
    fun c hc rest h => h c hc ⟨[], rest, rfl⟩
  fun_induction dollarPatterns cs with
  | case1 cs ih => simpa using hfound '$' (by decide) cs
  | case2 cs ih => simpa using hfound '&' (by decide) cs
  | case3 cs ih => simpa using hfound '\x60' (by decide) cs
  | case4 cs ih => simpa using hfound '\'' (by decide) cs
  | case5 d cs h1 h2 h3 h4 ih =>
      refine ih.trans (forall₂_congr fun c hc => not_congr ?_)
      rw [pair_infix_cons]
      constructor
      · intro h
        exact .inr h
      · rintro (⟨rfl, rest, hrest⟩ | h)
        · exfalso
          simp only [dollarChars, List.mem_cons, List.not_mem_nil, or_false] at hc
          rcases hc with rfl | rfl | rfl | rfl
          · exact h1 rest rfl hrest.symm
          · exact h2 rest rfl hrest.symm
          · exact h3 rest rfl hrest.symm
          · exact h4 rest rfl hrest.symm
        · exact h
  | case6 => simp [NoDollarPattern]

/-- Where the surroundings have words, no pattern stands for itself. -/
theorem expandReplacement_eq_self_iff (hfound : ∃ d ∈ found, d ∉ dollarChars)
    (hbefore : ∃ d ∈ before, d ∉ dollarChars) (hafter : ∃ d ∈ after, d ∉ dollarChars) :
    expandReplacement before found after cs = cs ↔ NoDollarPattern cs := by
  rw [← dollarPatterns_eq_nil_iff]
  constructor
  · intro h
    have hnone : ∀ (k : Char) (side : List Char), (∃ d ∈ side, d ∉ dollarChars) →
        (∀ d ∉ dollarChars, (dollarPatterns cs).count k * side.count d = 0) →
          k ∉ dollarPatterns cs := by
      rintro k side ⟨d, hd, hnot⟩ hzero
      rcases Nat.mul_eq_zero.1 (hzero d hnot) with hk | hside
      · exact List.count_eq_zero.1 hk
      · exact absurd hd (List.count_eq_zero.1 hside)
    have hcount : ∀ d ∉ dollarChars, (dollarPatterns cs).count '&' * found.count d = 0 ∧
        (dollarPatterns cs).count '\x60' * before.count d = 0 ∧
          (dollarPatterns cs).count '\'' * after.count d = 0 := by
      intro d hd
      have hsum := count_expandReplacement before found after cs hd
      rw [h] at hsum
      omega
    have hdollar : ∀ k ∈ dollarPatterns cs, k = '$' := by
      intro k hk
      have hchar := mem_dollarChars_of_mem hk
      simp only [dollarChars, List.mem_cons, List.not_mem_nil, or_false] at hchar
      rcases hchar with rfl | rfl | rfl | rfl
      · rfl
      · exact absurd hk (hnone _ found hfound fun d hd => (hcount d hd).1)
      · exact absurd hk (hnone _ before hbefore fun d hd => (hcount d hd).2.1)
      · exact absurd hk (hnone _ after hafter fun d hd => (hcount d hd).2.2)
    have hlength := length_expandReplacement before found after hdollar
    rw [h] at hlength
    exact List.length_eq_zero_iff.1 (by omega)
  · intro h
    exact expandReplacement_of_none h

end Expansion

section Footer

variable {text : List Char} {sender : SenderNameSource}

/-- With words around the placeholder, a footer is literal exactly when the name has no
dollar pattern. -/
theorem namesLiterally_iff_of_words (honce : HasPlaceholder text) (hwords : HasWords text) :
    NamesLiterally text sender ↔ NoDollarPattern (senderDisplayName sender).toList := by
  obtain ⟨before, after, hsplit, hreplace⟩ := replace_of_length (by decide) honce
  rw [HasWords, hsplit] at hwords
  have hbefore := hwords before (by simp)
  have hafter := hwords after (by simp)
  have hplaceholder : ∃ d ∈ senderPlaceholder, d ∉ dollarChars := ⟨'s', by decide, by decide⟩
  rw [NamesLiterally, receivedBecause, receivedBecauseLiterally, escapeHtml_inj, hreplace, hsplit,
    ← expandReplacement_eq_self_iff hplaceholder hbefore hafter]
  simp [joinWith, List.intercalate]

theorem namesLiterally_of_noDollarPattern (honce : HasPlaceholder text)
    (hname : NoDollarPattern (senderDisplayName sender).toList) : NamesLiterally text sender := by
  obtain ⟨before, after, hsplit, hreplace⟩ := replace_of_length (by decide) honce
  rw [NamesLiterally, receivedBecause, receivedBecauseLiterally, hreplace, hsplit,
    expandReplacement_of_none (dollarPatterns_eq_nil_iff.2 hname)]
  simp [joinWith, List.intercalate]

/-- What the delivery puts into the template. -/
theorem templateData_receivedBecause (invitation : Invitation) (link : String)
    (sender : SenderNameSource) (year : ℤ) :
    (InvitationService.templateData invitation link (senderDisplayName sender)
        year).receivedBecause =
      String.ofList (receivedBecause (getInvitationChrome invitation.locale).receivedBecause.toList
        sender) :=
  rfl

theorem hasWords_iff : HasWords text ↔
    (splitOn senderPlaceholder text).all (fun side => side.any (decide <| · ∉ dollarChars)) =
      true := by
  simp only [HasWords, List.all_eq_true, List.any_eq_true, decide_eq_true_eq]

set_option maxRecDepth 4000 in
theorem hasPlaceholder_chrome (locale : String) :
    HasPlaceholder (getInvitationChrome locale).receivedBecause.toList ∧
      HasWords (getInvitationChrome locale).receivedBecause.toList := by
  have hplaceholder : senderPlaceholder = _ := String.toList_ofList
  have hel : CHROME_el.receivedBecause.toList = _ := String.toList_ofList
  have hen : CHROME_en.receivedBecause.toList = _ := String.toList_ofList
  rw [hasWords_iff]
  unfold getInvitationChrome HasPlaceholder
  split
  · rw [hel, hplaceholder]
    decide +kernel
  · rw [hen, hplaceholder]
    decide +kernel

end Footer

/-- A sender is named literally, under every text, exactly when their name has no dollar pattern;
the texts of the layout tell the names apart in the same way. -/
theorem namesLiterally_iff (sender : SenderNameSource) :
    ((∀ text, HasPlaceholder text → NamesLiterally text sender) ↔
      NoDollarPattern (senderDisplayName sender).toList) ∧
    (∀ text, HasPlaceholder text → HasWords text →
      (NamesLiterally text sender ↔ NoDollarPattern (senderDisplayName sender).toList)) ∧
    ∀ (invitation : Invitation) (link : String) (year : ℤ),
      (InvitationService.templateData invitation link (senderDisplayName sender)
          year).receivedBecause = String.ofList (receivedBecauseLiterally
            (getInvitationChrome invitation.locale).receivedBecause.toList sender) ↔
        NoDollarPattern (senderDisplayName sender).toList := by
  refine ⟨⟨fun h => ?_, fun h text honce => namesLiterally_of_noDollarPattern honce h⟩,
    fun text honce hwords => namesLiterally_iff_of_words honce hwords,
    fun invitation link year => ?_⟩
  · obtain ⟨honce, hwords⟩ := hasPlaceholder_chrome "en"
    exact (namesLiterally_iff_of_words honce hwords).1 (h _ honce)
  · obtain ⟨honce, hwords⟩ := hasPlaceholder_chrome invitation.locale
    rw [templateData_receivedBecause, String.ofList_inj]
    exact namesLiterally_iff_of_words honce hwords

/-- A first name that ends in a dollar sign and an ampersand. -/
def dollarSender : SenderNameSource where
  firstName := some "Ca$&"

theorem not_namesLiterally :
    ¬ ∀ (text : List Char) (sender : SenderNameSource), HasPlaceholder text →
      NamesLiterally text sender := by
  intro h
  obtain ⟨honce, hwords⟩ := hasPlaceholder_chrome "en"
  have hname := (namesLiterally_iff_of_words honce hwords).1 (h _ dollarSender honce)
  have hfound : ['$', '&'] <:+: (senderDisplayName dollarSender).toList := by decide +kernel
  exact hname '&' (by decide) hfound

end InvitationText

end FifiAlert
