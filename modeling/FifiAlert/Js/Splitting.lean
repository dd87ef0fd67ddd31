import FifiAlert.Js.Text

/-!
# Splitting, replacing and joining

`tokens pat cs` reads a text as a sequence of characters and of occurrences of
`pat`, from the left and without overlaps. Splitting at `pat`, joining with
something else in its place, counting the occurrences and replacing the first one
are all read off the tokens. A rewriting of the characters carries the tokens
along when it leaves those of `pat` alone and makes no new ones.
-/

namespace Js

/-- The tokens of a text, with the characters of an occurrence still to be skipped. -/
def tokensFrom (pat : List Char) : ℕ → List Char → List (Option Char)
  | _, [] => []
  | skip + 1, _ :: cs => tokensFrom pat skip cs
  | 0, c :: cs =>
    if pat.isPrefixOf (c :: cs) then none :: tokensFrom pat (pat.length - 1) cs
    else some c :: tokensFrom pat 0 cs

/-- The characters of a text, and `none` for each occurrence of `pat`. -/
def tokens (pat cs : List Char) : List (Option Char) :=
  tokensFrom pat 0 cs

/-- The text of a token, with `r` for an occurrence. -/
def tokenText (r : List Char) : Option Char → List Char
  | none => r
  | some c => [c]

section Pieces

variable {pat cs r x y : List Char} {skip : ℕ}

theorem splitFrom_ne_nil (skip : ℕ) (piece cs : List Char) : splitFrom pat skip piece cs ≠ [] := by
  induction cs generalizing skip piece with
  | nil => cases skip <;> simp [splitFrom]
  | cons c cs ih =>
      cases skip with
      | zero =>
          rw [splitFrom]
          split
          · exact List.cons_ne_nil _ _
          · exact ih 0 _
      | succ skip => exact ih skip piece

theorem joinWith_cons (r piece : List Char) {pieces : List (List Char)} (h : pieces ≠ []) :
    joinWith r (piece :: pieces) = piece ++ r ++ joinWith r pieces := by
  cases pieces with
  | nil => exact absurd rfl h
  | cons p ps => simp [joinWith, List.intercalate]

theorem joinWith_splitFrom (r : List Char) (skip : ℕ) (piece cs : List Char) :
    joinWith r (splitFrom pat skip piece cs) =
      piece.reverse ++ (tokensFrom pat skip cs).flatMap (tokenText r) := by
  induction cs generalizing skip piece with
  | nil => cases skip <;> simp [splitFrom, tokensFrom, joinWith]
  | cons c cs ih =>
      cases skip with
      | zero =>
          rw [splitFrom, tokensFrom]
          split
          · rw [joinWith_cons _ _ (splitFrom_ne_nil _ _ _), ih]
            simp [tokenText]
          · rw [ih]
            simp [tokenText]
      | succ skip => exact ih skip piece

/-- `s.split(pat).join(r)`. -/
theorem joinWith_splitOn (pat r cs : List Char) :
    joinWith r (splitOn pat cs) = (tokens pat cs).flatMap (tokenText r) :=
  joinWith_splitFrom r 0 [] cs

theorem length_splitFrom (skip : ℕ) (piece cs : List Char) :
    (splitFrom pat skip piece cs).length = (tokensFrom pat skip cs).count none + 1 := by
  induction cs generalizing skip piece with
  | nil => cases skip <;> simp [splitFrom, tokensFrom]
  | cons c cs ih =>
      cases skip with
      | zero =>
          rw [splitFrom, tokensFrom]
          split
          · simp [ih]
          · simp [ih]
      | succ skip => exact ih skip piece

/-- There is one piece more than there are occurrences. -/
theorem length_splitOn (pat cs : List Char) :
    (splitOn pat cs).length = (tokens pat cs).count none + 1 :=
  length_splitFrom 0 [] cs

theorem tokensFrom_eq_drop (skip : ℕ) (cs : List Char) :
    tokensFrom pat skip cs = tokens pat (cs.drop skip) := by
  induction cs generalizing skip with
  | nil => cases skip <;> rfl
  | cons c cs ih =>
      cases skip with
      | zero => rfl
      | succ skip => exact ih skip

theorem splitFrom_eq_drop (skip : ℕ) (piece cs : List Char) :
    splitFrom pat skip piece cs = splitFrom pat 0 piece (cs.drop skip) := by
  induction cs generalizing skip with
  | nil => cases skip <;> rfl
  | cons c cs ih =>
      cases skip with
      | zero => rfl
      | succ skip => exact ih skip

theorem tokens_cons_match {c : Char} (h : pat.isPrefixOf (c :: cs) = true) :
    tokens pat (c :: cs) = none :: tokens pat (cs.drop (pat.length - 1)) := by
  rw [tokens, tokensFrom, if_pos h, tokensFrom_eq_drop]

theorem tokens_cons_plain {c : Char} (h : pat.isPrefixOf (c :: cs) = false) :
    tokens pat (c :: cs) = some c :: tokens pat cs := by
  rw [tokens, tokensFrom, h, if_neg Bool.false_ne_true]
  rfl

theorem prefix_append_drop (hpat : pat ≠ []) {c : Char} (h : pat.isPrefixOf (c :: cs) = true) :
    pat ++ cs.drop (pat.length - 1) = c :: cs := by
  obtain ⟨rest, hrest⟩ := List.isPrefixOf_iff_prefix.1 h
  cases pat with
  | nil => exact absurd rfl hpat
  | cons d ds =>
      obtain ⟨rfl, rfl⟩ := List.cons_eq_cons.1 hrest
      simp

/-- A text is what its tokens stand for. -/
theorem flatMap_tokens (hpat : pat ≠ []) (cs : List Char) :
    (tokens pat cs).flatMap (tokenText pat) = cs := by
  rcases hpre : pat.isPrefixOf cs with _ | _
  · cases cs with
    | nil => rfl
    | cons c cs =>
        rw [tokens_cons_plain hpre, List.flatMap_cons, flatMap_tokens hpat cs]
        rfl
  · cases cs with
    | nil => rfl
    | cons c cs =>
        rw [tokens_cons_match hpre, List.flatMap_cons, flatMap_tokens hpat]
        exact prefix_append_drop hpat hpre
termination_by cs.length
decreasing_by all_goals simp only [List.length_cons, List.length_drop]; omega

/-- Splitting at a single character. -/
theorem tokens_singleton (d : Char) (cs : List Char) :
    tokens [d] cs = cs.map fun c => if c = d then none else some c := by
  induction cs with
  | nil => rfl
  | cons c cs ih =>
      by_cases hc : c = d
      · have hpre : [d].isPrefixOf (c :: cs) = true := by simp [List.isPrefixOf, hc]
        rw [tokens_cons_match hpre, List.map_cons, if_pos hc]
        exact congrArg _ ih
      · have hpre : [d].isPrefixOf (c :: cs) = false := by simp [List.isPrefixOf, Ne.symm hc]
        rw [tokens_cons_plain hpre, List.map_cons, if_neg hc, ih]

/-- A text without the first character of `pat` holds no start of an occurrence. -/
theorem tokens_append_of_not_mem {h : Char} {t : List Char} (hx : h ∉ x) :
    tokens (h :: t) (x ++ y) = x.map some ++ tokens (h :: t) y := by
  induction x with
  | nil => rfl
  | cons c x ih =>
      obtain ⟨hc, hx⟩ := List.ne_and_not_mem_of_not_mem_cons hx
      have hnot : (h :: t).isPrefixOf (c :: (x ++ y)) = false := by
        simp [List.isPrefixOf, hc]
      rw [List.cons_append, tokens_cons_plain hnot, ih hx]
      rfl

theorem isPrefixOf_append_cons {d : Char} (hd : d ∉ pat) :
    pat.isPrefixOf (x ++ d :: y) = pat.isPrefixOf x := by
  induction pat generalizing x with
  | nil => simp
  | cons e pat ih =>
      obtain ⟨hne, hd⟩ := List.ne_and_not_mem_of_not_mem_cons hd
      cases x with
      | nil => simp [List.isPrefixOf, Ne.symm hne]
      | cons c x =>
          rw [List.cons_append, List.isPrefixOf_cons_cons, List.isPrefixOf_cons_cons, ih hd]

/-- No occurrence goes over a character that `pat` does not have. -/
theorem tokens_append_cons {d : Char} (hpat : pat ≠ []) (hd : d ∉ pat) (x y : List Char) :
    tokens pat (x ++ d :: y) = tokens pat x ++ some d :: tokens pat y := by
  cases x with
  | nil =>
      have hnot : pat.isPrefixOf (d :: y) = false := by
        rw [← List.nil_append (d :: y), isPrefixOf_append_cons hd]
        cases pat with
        | nil => exact absurd rfl hpat
        | cons e pat => rfl
      exact tokens_cons_plain hnot
  | cons c x =>
      have hsame : pat.isPrefixOf (c :: (x ++ d :: y)) = pat.isPrefixOf (c :: x) :=
        isPrefixOf_append_cons (x := c :: x) hd
      rcases hpre : pat.isPrefixOf (c :: x) with _ | _
      · rw [List.cons_append, tokens_cons_plain (hsame.trans hpre),
          tokens_cons_plain hpre, tokens_append_cons hpat hd x y]
        rfl
      · have hle : pat.length - 1 ≤ x.length := by
          have hlength := (List.isPrefixOf_iff_prefix.1 hpre).length_le
          simp only [List.length_cons] at hlength
          omega
        rw [List.cons_append, tokens_cons_match (hsame.trans hpre),
          tokens_cons_match hpre, List.drop_append_of_le_length hle,
          tokens_append_cons hpat hd]
        rfl
termination_by x.length
decreasing_by all_goals simp only [List.length_cons, List.length_drop]; omega

end Pieces

section Joining

variable {d : Char} {piece : List Char}

/-- A piece goes up to the separator. -/
theorem splitFrom_append_cons (h : d ∉ piece) (read rest : List Char) :
    splitFrom [d] 0 read (piece ++ d :: rest) = (read.reverse ++ piece) :: splitOn [d] rest := by
  induction piece generalizing read with
  | nil => simp [splitFrom, splitOn]
  | cons c piece ih =>
      obtain ⟨hc, hpiece⟩ := List.ne_and_not_mem_of_not_mem_cons h
      have hnot : [d].isPrefixOf (c :: (piece ++ d :: rest)) = false := by
        simp [List.isPrefixOf, hc]
      rw [List.cons_append, splitFrom, hnot, if_neg Bool.false_ne_true, ih hpiece]
      simp

/-- Without a separator there is one piece. -/
theorem splitFrom_of_not_mem (h : d ∉ piece) (read : List Char) :
    splitFrom [d] 0 read piece = [read.reverse ++ piece] := by
  induction piece generalizing read with
  | nil => simp [splitFrom]
  | cons c piece ih =>
      obtain ⟨hc, hpiece⟩ := List.ne_and_not_mem_of_not_mem_cons h
      have hnot : [d].isPrefixOf (c :: piece) = false := by simp [List.isPrefixOf, hc]
      rw [splitFrom, hnot, if_neg Bool.false_ne_true, ih hpiece]
      simp

/-- Pieces without the separator are split where they were joined. -/
theorem splitOn_joinWith {pieces : List (List Char)} (hne : pieces ≠ [])
    (h : ∀ piece ∈ pieces, d ∉ piece) : splitOn [d] (joinWith [d] pieces) = pieces := by
  induction pieces with
  | nil => exact absurd rfl hne
  | cons piece pieces ih =>
      obtain ⟨hpiece, hpieces⟩ := List.forall_mem_cons.1 h
      by_cases hnil : pieces = []
      · subst hnil
        rw [show joinWith [d] [piece] = piece by simp [joinWith], splitOn,
          splitFrom_of_not_mem hpiece, List.reverse_nil, List.nil_append]
      · rw [joinWith_cons _ _ hnil, List.append_assoc, List.singleton_append, splitOn,
          splitFrom_append_cons hpiece, ih hnil hpieces, List.reverse_nil, List.nil_append]

end Joining

section Rewriting

variable {h : Char} {t cs : List Char} {g : Char → List Char}

/-- A rewriting of the characters that leaves those of a pattern alone and starts
every other replacement with a character that the pattern does not have. -/
structure Spares (h : Char) (t : List Char) (g : Char → List Char) : Prop where
  same : ∀ c ∈ h :: t, g c = [c]
  other : ∀ c ∉ h :: t, ∃ d ds, g c = d :: ds ∧ d ∉ h :: t ∧ h ∉ ds

theorem Spares.isPrefixOf_flatMap (hg : Spares h t g) {q : List Char} (hq : q ⊆ h :: t)
    (cs : List Char) : q.isPrefixOf (cs.flatMap g) = q.isPrefixOf cs := by
  induction q generalizing cs with
  | nil => simp
  | cons e q ih =>
      obtain ⟨he, hq⟩ := List.cons_subset.1 hq
      cases cs with
      | nil => rfl
      | cons c cs =>
          by_cases hc : c ∈ h :: t
          · rw [List.flatMap_cons, hg.same c hc, List.singleton_append, List.isPrefixOf_cons_cons,
              List.isPrefixOf_cons_cons, ih hq]
          · obtain ⟨d, ds, hd, hnot, -⟩ := hg.other c hc
            have hec : (e == c) = false := beq_eq_false_iff_ne.2 fun heq => hc (heq ▸ he)
            have hed : (e == d) = false := beq_eq_false_iff_ne.2 fun heq => hnot (heq ▸ he)
            rw [List.flatMap_cons, hd, List.cons_append, List.isPrefixOf_cons_cons,
              List.isPrefixOf_cons_cons, hec, hed, Bool.false_and, Bool.false_and]

/-- What a rewriting makes of a token. -/
def rewriteToken (g : Char → List Char) : Option Char → List (Option Char)
  | none => [none]
  | some c => (g c).map some

theorem Spares.flatMap_drop (hg : Spares h t g) {k : ℕ} (hk : ∀ c ∈ cs.take k, c ∈ h :: t) :
    (cs.flatMap g).drop k = (cs.drop k).flatMap g := by
  induction cs generalizing k with
  | nil => simp
  | cons c cs ih =>
      cases k with
      | zero => rfl
      | succ k =>
          rw [List.flatMap_cons, hg.same c (hk c (by simp)), List.singleton_append,
            List.drop_succ_cons, List.drop_succ_cons]
          exact ih fun d hd => hk d (by simp [hd])

/-- The occurrences stay where they are. -/
theorem Spares.tokens_flatMap (hg : Spares h t g) (cs : List Char) :
    tokens (h :: t) (cs.flatMap g) = (tokens (h :: t) cs).flatMap (rewriteToken g) := by
  cases cs with
  | nil => rfl
  | cons c cs =>
      have hsame := hg.isPrefixOf_flatMap (List.Subset.refl (h :: t)) (c :: cs)
      rcases hpre : (h :: t).isPrefixOf (c :: cs) with _ | _
      · rw [tokens_cons_plain hpre, List.flatMap_cons (f := rewriteToken g)]
        by_cases hc : c ∈ h :: t
        · rw [List.flatMap_cons, hg.same c hc, List.singleton_append] at hsame ⊢
          rw [tokens_cons_plain (hsame.trans hpre), hg.tokens_flatMap cs]
          simp [rewriteToken, hg.same c hc]
        · obtain ⟨d, ds, hd, hnot, hh⟩ := hg.other c hc
          have hfree : h ∉ g c := by
            rw [hd]
            exact List.not_mem_cons_of_ne_of_not_mem (fun heq => hnot (heq ▸ List.mem_cons_self)) hh
          rw [List.flatMap_cons, tokens_append_of_not_mem hfree, hg.tokens_flatMap cs]
          rfl
      · have hcat := prefix_append_drop (List.cons_ne_nil h t) hpre
        obtain ⟨rfl, hcs⟩ := List.cons_eq_cons.1 hcat
        have htake : ∀ d ∈ cs.take t.length, d ∈ h :: t := by
          intro d hd
          have htail : t ++ cs.drop ((h :: t).length - 1) = cs := hcs
          rw [← htail, List.take_left] at hd
          exact List.mem_cons_of_mem h hd
        rw [tokens_cons_match hpre, List.flatMap_cons (f := rewriteToken g)]
        rw [List.flatMap_cons, hg.same h List.mem_cons_self, List.singleton_append] at hsame ⊢
        rw [tokens_cons_match (hsame.trans hpre), List.length_cons, Nat.add_sub_cancel,
          hg.flatMap_drop htake, hg.tokens_flatMap]
        rfl
termination_by cs.length
decreasing_by all_goals simp only [List.length_cons, List.length_drop]; omega

end Rewriting

section Replace

variable {pat r cs a b : List Char} {ts : List (Option Char)}

/-- The first occurrence is where the text is cut and where it is replaced, by what the
replacement stands for there. -/
theorem replaceFrom_of_tokens (hpat : pat ≠ []) (h : tokens pat cs = a.map some ++ none :: ts)
    (before : List Char) :
    ∃ rest, tokens pat rest = ts ∧
      splitFrom pat 0 before cs = (before.reverse ++ a) :: splitOn pat rest ∧
      replaceFrom pat r before cs = before.reverse ++ a ++
        expandReplacement (before.reverse ++ a) pat rest r ++ rest := by
  induction cs generalizing a before with
  | nil => cases a <;> cases h
  | cons c cs ih =>
      rcases hpre : pat.isPrefixOf (c :: cs) with _ | _
      · rw [tokens_cons_plain hpre] at h
        cases a with
        | nil => cases h
        | cons d a =>
            obtain ⟨hc, htokens⟩ := List.cons_eq_cons.1 h
            cases hc
            obtain ⟨rest, hrest, hsplit, hreplace⟩ := ih htokens (c :: before)
            rw [replaceFrom, splitFrom, hpre, if_neg Bool.false_ne_true,
              if_neg Bool.false_ne_true, hsplit, hreplace]
            exact ⟨rest, hrest, by simp, by simp⟩
      · rw [tokens_cons_match hpre] at h
        cases a with
        | cons d a => cases h
        | nil =>
            have hdrop : (c :: cs).drop pat.length = cs.drop (pat.length - 1) := by
              cases pat with
              | nil => exact absurd rfl hpat
              | cons d ds => rfl
            rw [replaceFrom, splitFrom, if_pos hpre, if_pos hpre, hdrop, splitFrom_eq_drop]
            exact ⟨cs.drop (pat.length - 1), (List.cons_eq_cons.1 h).2, by simp [splitOn], by simp⟩

theorem exists_map_some (h : none ∉ ts) : ∃ b : List Char, ts = b.map some := by
  induction ts with
  | nil => exact ⟨[], rfl⟩
  | cons o ts ih =>
      obtain ⟨b, rfl⟩ := ih fun hmem => h (List.mem_cons_of_mem o hmem)
      cases o with
      | none => exact absurd List.mem_cons_self h
      | some c => exact ⟨c :: b, rfl⟩

/-- A text with one occurrence, cut there. -/
theorem exists_tokens_eq_of_count (h : (tokens pat cs).count none = 1) :
    ∃ a b : List Char, tokens pat cs = a.map some ++ none :: b.map some := by
  have hmem : none ∈ tokens pat cs := List.count_pos_iff.1 (by omega)
  obtain ⟨as, bs, hsplit, has⟩ := List.eq_append_cons_of_mem hmem
  have hbs : none ∉ bs := by
    rw [hsplit, List.count_append, List.count_cons_self, List.count_eq_zero.2 has] at h
    exact List.count_eq_zero.1 (by omega)
  obtain ⟨a, rfl⟩ := exists_map_some has
  obtain ⟨b, rfl⟩ := exists_map_some hbs
  exact ⟨a, b, hsplit⟩

theorem flatMap_tokenText_map_some (b : List Char) :
    (b.map some).flatMap (tokenText r) = b := by
  induction b with
  | nil => rfl
  | cons c b ih => rw [List.map_cons, List.flatMap_cons, ih, tokenText, List.singleton_append]

/-- A text without an occurrence is not cut. -/
theorem splitOn_of_count (hpat : pat ≠ []) (h : (tokens pat cs).count none = 0) :
    splitOn pat cs = [cs] := by
  have hlength := length_splitOn pat cs
  rw [h] at hlength
  obtain ⟨piece, hpiece⟩ := List.length_eq_one_iff.1 hlength
  have hjoin := joinWith_splitOn pat pat cs
  rw [hpiece, flatMap_tokens hpat] at hjoin
  rw [hpiece, ← hjoin]
  simp [joinWith]

/-- Replacing the only occurrence, and what takes its place. -/
theorem replace_of_length (hpat : pat ≠ []) (h : (splitOn pat cs).length = 2) :
    ∃ a b, splitOn pat cs = [a, b] ∧
      ∀ r, replace cs pat r = a ++ expandReplacement a pat b r ++ b := by
  rw [length_splitOn] at h
  obtain ⟨a, b, htokens⟩ := exists_tokens_eq_of_count (Nat.succ.inj h)
  have hlast : ∀ rest, tokens pat rest = b.map some → rest = b := by
    intro rest hrest
    rw [← flatMap_tokens hpat rest, hrest, flatMap_tokenText_map_some]
  have hone : ∀ rest, tokens pat rest = b.map some → splitOn pat rest = [b] := by
    intro rest hrest
    have hcount : (tokens pat rest).count none = 0 := by
      rw [hrest]
      exact List.count_eq_zero.2 (by simp)
    rw [splitOn_of_count hpat hcount, hlast rest hrest]
  refine ⟨a, b, ?_, fun r => ?_⟩
  · obtain ⟨rest, hrest, hsplit, -⟩ := replaceFrom_of_tokens (r := []) hpat htokens []
    rw [splitOn, hsplit, hone rest hrest]
    rfl
  · obtain ⟨rest, hrest, -, hreplace⟩ := replaceFrom_of_tokens (r := r) hpat htokens []
    rw [replace, hreplace, hlast rest hrest]
    rfl

end Replace

end Js
