import Mathlib.Data.List.Chain
import Mathlib.Data.List.DropRight

/-!
# Rewriting passes over a text

Passes that a global regular expression makes over a text, for characters of any
type: deleting the spans between two kinds of characters, collapsing the runs of
one kind, trimming both ends. Each pass has one lemma for what its result looks
like and one for the texts that it leaves alone.
-/

namespace Js

variable {α : Type*}

/-- `s.replace(/o[^c]*c/g, '')`, with whether the text is read inside of a span. -/
def deleteSpans (opens closes : α → Bool) : Bool → List α → List α
  | _, [] => []
  | true, c :: cs =>
    if closes c then deleteSpans opens closes false cs else deleteSpans opens closes true cs
  | false, c :: cs =>
    if opens c && cs.any closes then deleteSpans opens closes true cs
    else c :: deleteSpans opens closes false cs

/-- `s.replace(/p+/g, r)`, with whether the character before was in a run. -/
def collapse (p : α → Bool) (r : α) : Bool → List α → List α
  | _, [] => []
  | after, c :: cs =>
    if p c then
      if after then collapse p r true cs else r :: collapse p r true cs
    else c :: collapse p r false cs

/-- The text without the leading and the trailing characters of one kind. -/
def trimBy (p : α → Bool) (cs : List α) : List α :=
  (cs.dropWhile p).rdropWhile p

/-- No character that closes a span comes after one that opens it. -/
def Spanless (opens closes : α → Bool) (cs : List α) : Prop :=
  cs.Pairwise fun a b => opens a = true → closes b = false

/-- No two characters next to each other are both of one kind. -/
def Separate (p : α → Bool) (cs : List α) : Prop :=
  cs.IsChain fun a b => p a = true → p b = false

section Spans

variable {opens closes : α → Bool} {cs ds : List α}

theorem deleteSpans_sublist (inside : Bool) (cs : List α) :
    (deleteSpans opens closes inside cs).Sublist cs := by
  induction cs generalizing inside with
  | nil => cases inside <;> simp [deleteSpans]
  | cons c cs ih =>
      cases inside with
      | true =>
          rw [deleteSpans]
          split
          · exact (ih false).cons c
          · exact (ih true).cons c
      | false =>
          rw [deleteSpans]
          split
          · exact (ih true).cons c
          · exact (ih false).cons_cons c

theorem spanless_deleteSpans (inside : Bool) (cs : List α) :
    Spanless opens closes (deleteSpans opens closes inside cs) := by
  induction cs generalizing inside with
  | nil => cases inside <;> exact List.Pairwise.nil
  | cons c cs ih =>
      cases inside with
      | true =>
          rw [deleteSpans]
          split
          · exact ih false
          · exact ih true
      | false =>
          rw [deleteSpans]
          split
          · exact ih true
          next hspan =>
            refine List.pairwise_cons.2 ⟨fun d hd hopens => ?_, ih false⟩
            have hnone : cs.any closes = false := by simpa [hopens] using hspan
            simpa using List.any_eq_false.1 hnone d ((deleteSpans_sublist false cs).subset hd)

theorem deleteSpans_of_spanless (h : Spanless opens closes cs) :
    deleteSpans opens closes false cs = cs := by
  induction cs with
  | nil => rfl
  | cons c cs ih =>
      have hcons := List.pairwise_cons.1 h
      have hkept : (opens c && cs.any closes) = false := by
        rcases hopens : opens c with _ | _
        · rfl
        · exact List.any_eq_false.2 fun d hd => by simp [hcons.1 d hd hopens]
      rw [deleteSpans, hkept, if_neg Bool.false_ne_true, ih hcons.2]

theorem Spanless.sublist (h : Spanless opens closes cs) (hds : ds.Sublist cs) :
    Spanless opens closes ds :=
  List.Pairwise.sublist hds h

theorem Spanless.no_span (h : Spanless opens closes cs) {a b : α} (ha : opens a = true)
    (hb : closes b = true) (inner : List α) : ¬ (a :: inner ++ [b]) <:+: cs := by
  intro hin
  have hspan := List.Pairwise.sublist hin.sublist h
  have hlast : closes b = false :=
    (List.pairwise_cons.1 hspan).1 b (by simp) ha
  rw [hb] at hlast
  cases hlast

end Spans

section Runs

variable {p : α → Bool} {r : α} {cs ds : List α}

theorem eq_or_mem_of_mem_collapse {after : Bool} {c : α}
    (h : c ∈ collapse p r after cs) : c = r ∨ c ∈ cs ∧ p c = false := by
  induction cs generalizing after with
  | nil => cases after <;> simp [collapse] at h
  | cons d cs ih =>
      have hrest : ∀ {b : Bool}, c ∈ collapse p r b cs →
          c = r ∨ c ∈ d :: cs ∧ p c = false := fun hc =>
        (ih hc).imp_right fun hmem => ⟨List.mem_cons_of_mem d hmem.1, hmem.2⟩
      rw [collapse] at h
      split at h
      · split at h
        · exact hrest h
        · exact (List.mem_cons.1 h).elim Or.inl hrest
      next hd =>
        rcases List.mem_cons.1 h with rfl | hc
        · exact .inr ⟨List.mem_cons_self, by simpa using hd⟩
        · exact hrest hc

/-- After a run, the collapsed text does not go on with another one. -/
theorem separate_collapse (after : Bool) (cs : List α) :
    Separate p (collapse p r after cs) ∧
      (after = true → ∀ c ∈ (collapse p r after cs).head?, p c = false) := by
  induction cs generalizing after with
  | nil => cases after <;> exact ⟨List.IsChain.nil, fun _ c hc => by simp [collapse] at hc⟩
  | cons d cs ih =>
      rw [collapse]
      split
      next hd =>
        cases after with
        | true => exact ih true
        | false =>
            exact ⟨(ih true).1.cons fun c hc _ => (ih true).2 rfl c hc,
              fun h => by cases h⟩
      next hd =>
        have hkind : p d = false := by simpa using hd
        exact ⟨(ih false).1.cons fun _ _ h => by simp [hkind] at h,
          fun _ c hc => by simpa [← Option.some.inj hc] using hkind⟩

theorem collapse_after (h : ∀ c ∈ cs.head?, p c = false) :
    collapse p r true cs = collapse p r false cs := by
  cases cs with
  | nil => rfl
  | cons c cs => simp [collapse, h c rfl]

theorem collapse_of_separate (h : Separate p cs) (hr : ∀ c ∈ cs, p c = true → c = r) :
    collapse p r false cs = cs := by
  induction cs with
  | nil => rfl
  | cons c cs ih =>
      have hcons := List.isChain_cons.1 h
      have hrest := ih hcons.2 fun d hd => hr d (List.mem_cons_of_mem c hd)
      rcases hc : p c with _ | _
      · simp [collapse, hc, hrest]
      · have hafter : collapse p r true cs = collapse p r false cs :=
          collapse_after fun d hd => hcons.1 d hd hc
        simp [collapse, hafter, hrest, hr c List.mem_cons_self hc]

/-- A replacement that neither opens nor closes a span leaves a text without spans. -/
theorem Spanless.collapse {opens closes : α → Bool} (h : Spanless opens closes cs)
    (hopens : opens r = false) (hcloses : closes r = false) (after : Bool) :
    Spanless opens closes (collapse p r after cs) := by
  induction cs generalizing after with
  | nil => cases after <;> exact List.Pairwise.nil
  | cons c cs ih =>
      have hcons := List.pairwise_cons.1 h
      rw [Js.collapse]
      split
      · split
        · exact ih hcons.2 true
        · refine List.pairwise_cons.2 ⟨fun d _ hr => ?_, ih hcons.2 true⟩
          rw [hopens] at hr
          cases hr
      · refine List.pairwise_cons.2 ⟨fun d hd hc => ?_, ih hcons.2 false⟩
        rcases eq_or_mem_of_mem_collapse hd with rfl | hmem
        · exact hcloses
        · exact hcons.1 d hmem.1 hc

end Runs

section Ends

variable {p : α → Bool} {cs : List α}

theorem trimBy_isInfix (p : α → Bool) (cs : List α) : trimBy p cs <:+: cs :=
  (List.rdropWhile_prefix p (cs.dropWhile p)).isInfix.trans (List.dropWhile_suffix p).isInfix

theorem not_of_mem_getLast?_trimBy {c : α} (h : c ∈ (trimBy p cs).getLast?) : p c = false := by
  obtain ⟨hne, rfl⟩ := List.mem_getLast?_eq_getLast h
  exact Bool.eq_false_iff.2 (List.rdropWhile_last_not p (cs.dropWhile p) hne)

theorem not_of_mem_head?_trimBy {c : α} (h : c ∈ (trimBy p cs).head?) : p c = false := by
  obtain ⟨rest, hrest⟩ := List.rdropWhile_prefix p (cs.dropWhile p)
  have hhead : (cs.dropWhile p).head? = some c := by
    rw [← hrest, List.head?_append, ← trimBy, Option.mem_def.1 h, Option.some_or]
  have hnot := List.head?_dropWhile_not p cs
  rw [hhead] at hnot
  exact hnot

theorem trimBy_of_ends (hhead : ∀ c ∈ cs.head?, p c = false)
    (hlast : ∀ c ∈ cs.getLast?, p c = false) : trimBy p cs = cs := by
  have hdrop : cs.dropWhile p = cs := by
    cases cs with
    | nil => rfl
    | cons c cs => rw [List.dropWhile_cons_of_neg (by simp [hhead c rfl])]
  rw [trimBy, hdrop, List.rdropWhile_eq_self_iff]
  intro hne hp
  rw [hlast _ (List.getLast?_eq_some_getLast hne)] at hp
  cases hp

end Ends

end Js
