import FifiAlert.Invitation.EscapedText

/-!
# The bodies of an invitation

The HTML body is a list of paragraphs of escaped characters, line breaks and links.
Taking the markup away again and unescaping gives the body as plain text, and there
is one link for each placeholder.
-/

namespace FifiAlert

open Js

namespace InvitationText

/-- A piece of a paragraph. -/
inductive Inline where
  | char (c : Char)
  | lineBreak
  | link
  deriving DecidableEq

def openParagraph : List Char := "<p style=\"margin:0 0 16px 0;\">".toList

def closeParagraph : List Char := "</p>".toList

def lineBreak : List Char := "<br/>".toList

/-- The element of a link whose text is its address. -/
def anchorTo (escapedLink : List Char) : List Char :=
  "<a href=\"".toList ++ escapedLink ++
    "\" style=\"color:#007bff;word-break:break-all;\">".toList ++ escapedLink ++ "</a>".toList

/-- The HTML of a piece, for a link. -/
def Inline.html (link : List Char) : Inline → List Char
  | char c => escapeChar c
  | lineBreak => InvitationText.lineBreak
  | .link => anchorTo (escapeHtml link)

/-- The plain text of a piece, for a link. -/
def Inline.plain (link : List Char) : Inline → List Char
  | char c => [c]
  | lineBreak => ['\n']
  | .link => link

/-- The piece for a character or for a placeholder. -/
def Inline.ofToken : Option Char → Inline
  | none => link
  | some c => if c = '\n' then lineBreak else char c

/-- The paragraphs of a body. -/
def document (body : List Char) : List (List Inline) :=
  (splitBlocks [] 0 (normalizeText body)).map fun block =>
    (tokens INVITE_LINK_PLACEHOLDER.toList block).map Inline.ofToken

def paragraphHtml (link : List Char) (p : List Inline) : List Char :=
  openParagraph ++ p.flatMap (Inline.html link) ++ closeParagraph

def renderHtml (link : List Char) (doc : List (List Inline)) : List Char :=
  joinWith ['\n'] (doc.map (paragraphHtml link))

/-- Paragraphs are a blank line apart. -/
def renderPlain (link : List Char) (doc : List (List Inline)) : List Char :=
  joinWith ['\n', '\n'] (doc.map fun p => p.flatMap (Inline.plain link))

/-- The text without its tags, with whether it is read inside of one; a line break becomes
a newline and the end of a paragraph before another one a blank line. -/
def stripMarkup : Bool → List Char → List Char
  | false, '<' :: 'b' :: 'r' :: '/' :: '>' :: cs => '\n' :: stripMarkup false cs
  | false, '<' :: '/' :: 'p' :: '>' :: '\n' :: cs => '\n' :: '\n' :: stripMarkup false cs
  | false, '<' :: cs => stripMarkup true cs
  | false, c :: cs => c :: stripMarkup false cs
  | true, '>' :: cs => stripMarkup false cs
  | true, _ :: cs => stripMarkup true cs
  | _, [] => []

/-- The plain text of an HTML body. -/
def plainText (html : List Char) : List Char :=
  unescapeHtml (stripMarkup false html)

/-- The text with every run of two or more newlines cut to two, after a number of newlines. -/
def squeezeNewlines : ℕ → List Char → List Char
  | _, [] => []
  | n, c :: cs =>
    if c = '\n' then
      if n < 2 then '\n' :: squeezeNewlines (n + 1) cs else squeezeNewlines n cs
    else c :: squeezeNewlines 0 cs

/-- A text made of the fixed elements around escaped texts. -/
def OnlyFixedMarkup (html : List Char) : Prop :=
  ∃ paragraphs : List (List (List Char)),
    html = joinWith ['\n'] (paragraphs.map fun p =>
      openParagraph ++ p.flatten ++ closeParagraph) ∧
    ∀ p ∈ paragraphs, ∀ piece ∈ p, IsEscaped piece ∨ piece = lineBreak ∨
      ∃ url, IsEscaped url ∧ piece = anchorTo url

/-- The number of occurrences of `part`. -/
def countOccurrences (part cs : List Char) : ℕ :=
  (splitOn part cs).length - 1

section Rendering

variable {c : Char} {cs link : List Char}

theorem escapeHtml_placeholder :
    escapeHtml INVITE_LINK_PLACEHOLDER.toList = INVITE_LINK_PLACEHOLDER.toList := by decide

/-- An escaped character, a newline as a line break. -/
def markupChar (c : Char) : List Char :=
  if c = '\n' then lineBreak else escapeChar c

theorem newline_not_mem_escapeChar (hc : c ≠ '\n') : '\n' ∉ escapeChar c := by
  rcases escapeChar_cases c with hentity | ⟨hself, -⟩
  · have hall : ∀ e ∈ entities, '\n' ∉ e := by decide
    exact hall _ hentity
  · simpa [hself] using Ne.symm hc

/-- `split('\n').join('<br/>')` after escaping. -/
theorem joinWith_lines (cs : List Char) :
    joinWith lineBreak (splitOn ['\n'] (escapeHtml cs)) = cs.flatMap markupChar := by
  rw [joinWith_splitOn, tokens_singleton, escapeHtml_eq_flatMap, List.flatMap_map,
    List.flatMap_assoc]
  congr 1
  funext c
  by_cases hc : c = '\n'
  · subst hc
    rfl
  · have hkept : ∀ ds : List Char, '\n' ∉ ds →
        (ds.flatMap fun d => tokenText lineBreak (if d = '\n' then none else some d)) = ds := by
      intro ds hds
      induction ds with
      | nil => rfl
      | cons d ds ih =>
          obtain ⟨hd, hds⟩ := List.ne_and_not_mem_of_not_mem_cons hds
          rw [List.flatMap_cons, if_neg (Ne.symm hd), ih hds]
          rfl
    rw [hkept _ (newline_not_mem_escapeChar hc), markupChar, if_neg hc]

/-- The markup of a character neither breaks a placeholder nor makes one. -/
theorem spares_markupChar : Spares '\x7b' "inviteLink\x7d".toList markupChar where
  same := List.forall_iff_forall_mem.1 (by decide)
  other c hc := by
    have hentities : ∀ e ∈ entities, ∃ d ds, e = d :: ds ∧
        d ∉ '\x7b' :: "inviteLink\x7d".toList ∧ '\x7b' ∉ ds := by
      intro e he
      have hall : ∀ e ∈ entities, e = '&' :: e.tail ∧ '\x7b' ∉ e.tail := by decide
      exact ⟨'&', e.tail, (hall e he).1, by decide, (hall e he).2⟩
    by_cases hline : c = '\n'
    · subst hline
      exact ⟨'<', "br/>".toList, rfl, by decide, by decide⟩
    · rw [markupChar, if_neg hline]
      rcases escapeChar_cases c with hentity | ⟨hself, -⟩
      · exact hentities _ hentity
      · exact ⟨c, [], hself, hc, List.not_mem_nil⟩

theorem flatMap_tokenText_rewriteToken (link : List Char) (o : Option Char) :
    (rewriteToken markupChar o).flatMap (tokenText (anchorTo (escapeHtml link))) =
      (Inline.ofToken o).html link := by
  cases o with
  | none => exact List.append_nil _
  | some c =>
      rw [rewriteToken, flatMap_tokenText_map_some, Inline.ofToken, markupChar]
      split <;> rfl

/-- The HTML of a block, piece by piece. -/
theorem blockHtml_eq (block link : List Char) :
    joinWith (anchorTo (escapeHtml link)) (splitOn (escapeHtml INVITE_LINK_PLACEHOLDER.toList)
        (joinWith lineBreak (splitOn ['\n'] (escapeHtml block)))) =
      ((tokens INVITE_LINK_PLACEHOLDER.toList block).map Inline.ofToken).flatMap
        (Inline.html link) := by
  rw [escapeHtml_placeholder, joinWith_lines, joinWith_splitOn, List.flatMap_map]
  refine (congrArg _ (spares_markupChar.tokens_flatMap block)).trans ?_
  rw [List.flatMap_assoc]
  exact congrArg (fun f => List.flatMap f _) (funext (flatMap_tokenText_rewriteToken link))

theorem renderInvitationHtmlBody_eq (body link : List Char) :
    renderInvitationHtmlBody body link = renderHtml link (document body) := by
  rw [renderHtml, document, List.map_map]
  refine congrArg (joinWith ['\n']) (List.map_congr_left fun block _ => ?_)
  exact congrArg (fun html => openParagraph ++ html ++ closeParagraph) (blockHtml_eq block link)

theorem renderHtml_onlyFixedMarkup (link : List Char) (doc : List (List Inline)) :
    OnlyFixedMarkup (renderHtml link doc) := by
  refine ⟨doc.map fun p => p.map (Inline.html link), ?_, ?_⟩
  · rw [renderHtml, List.map_map]
    rfl
  · intro p hp piece hpiece
    obtain ⟨q, -, rfl⟩ := List.mem_map.1 hp
    obtain ⟨i, -, rfl⟩ := List.mem_map.1 hpiece
    cases i with
    | char c =>
        have hescaped := isEscaped_escapeHtml [c]
        rw [escapeHtml_singleton] at hescaped
        exact .inl hescaped
    | lineBreak => exact .inr (.inl rfl)
    | link => exact .inr (.inr ⟨escapeHtml link, isEscaped_escapeHtml link, rfl⟩)

end Rendering

section Stripping

variable {c : Char} {x y link : List Char}

theorem stripMarkup_of_ne (hc : c ≠ '<') (cs : List Char) :
    stripMarkup false (c :: cs) = c :: stripMarkup false cs := by
  rw [stripMarkup] <;> intros <;> contradiction

theorem stripMarkup_append (hx : '<' ∉ x) (y : List Char) :
    stripMarkup false (x ++ y) = x ++ stripMarkup false y := by
  induction x with
  | nil => rfl
  | cons c x ih =>
      obtain ⟨hc, hx⟩ := List.ne_and_not_mem_of_not_mem_cons hx
      rw [List.cons_append, stripMarkup_of_ne (Ne.symm hc), ih hx, List.cons_append]

/-- The rest of a tag. -/
theorem stripMarkup_tag (hx : '>' ∉ x) (y : List Char) :
    stripMarkup true (x ++ '>' :: y) = stripMarkup false y := by
  induction x with
  | nil => rfl
  | cons c x ih =>
      obtain ⟨hc, hx⟩ := List.ne_and_not_mem_of_not_mem_cons hx
      rw [List.cons_append, stripMarkup, ih hx]
      exact fun h => hc h.symm

theorem lt_not_mem_escapeHtml (cs : List Char) : '<' ∉ escapeHtml cs :=
  fun h => (mem_escapeHtml h).1 rfl

theorem gt_not_mem_escapeHtml (cs : List Char) : '>' ∉ escapeHtml cs :=
  fun h => (mem_escapeHtml h).2.1 rfl

/-- An element whose start tag has the address in it and whose text is the address. -/
theorem stripMarkup_element (start start' style style' close : List Char)
    (hstart : start = '<' :: start') (hstyle : style = style' ++ ['>'])
    (hopens : ∀ cs, stripMarkup false ('<' :: (start' ++ cs)) = stripMarkup true (start' ++ cs))
    (hstart' : '>' ∉ start') (hstyle' : '>' ∉ style')
    (hclose : ∀ cs, stripMarkup false (close ++ cs) = stripMarkup false cs)
    (link y : List Char) :
    stripMarkup false (start ++ escapeHtml link ++ style ++ escapeHtml link ++ close ++ y) =
      escapeHtml link ++ stripMarkup false y := by
  have htag : '>' ∉ start' ++ (escapeHtml link ++ style') := by
    rw [List.mem_append, List.mem_append, not_or, not_or]
    exact ⟨hstart', gt_not_mem_escapeHtml link, hstyle'⟩
  have hrest := stripMarkup_tag htag (escapeHtml link ++ (close ++ y))
  subst hstart hstyle
  simp only [List.append_assoc, List.cons_append, List.nil_append] at hrest ⊢
  rw [hopens, hrest, stripMarkup_append (lt_not_mem_escapeHtml link), hclose]

theorem stripMarkup_anchorTo (link y : List Char) :
    stripMarkup false (anchorTo (escapeHtml link) ++ y) =
      escapeHtml link ++ stripMarkup false y :=
  stripMarkup_element "<a href=\"".toList "a href=\"".toList
    "\" style=\"color:#007bff;word-break:break-all;\">".toList
    "\" style=\"color:#007bff;word-break:break-all;\"".toList "</a>".toList rfl rfl
    (fun _ => rfl) (by decide) (by decide +kernel) (fun _ => rfl) link y

theorem stripMarkup_inline (i : Inline) (y : List Char) :
    stripMarkup false (i.html link ++ y) = escapeHtml (i.plain link) ++ stripMarkup false y := by
  cases i with
  | char c =>
      have hlt : '<' ∉ escapeChar c := escapeHtml_singleton c ▸ lt_not_mem_escapeHtml [c]
      rw [Inline.html, Inline.plain, stripMarkup_append hlt, escapeHtml_singleton]
  | lineBreak => rfl
  | link => exact stripMarkup_anchorTo link y

theorem stripMarkup_inlines (link : List Char) (p : List Inline) (y : List Char) :
    stripMarkup false (p.flatMap (Inline.html link) ++ y) =
      escapeHtml (p.flatMap (Inline.plain link)) ++ stripMarkup false y := by
  induction p with
  | nil => rfl
  | cons i p ih =>
      rw [List.flatMap_cons, List.append_assoc, stripMarkup_inline, ih, List.flatMap_cons,
        escapeHtml_append, List.append_assoc]

theorem stripMarkup_openParagraph (y : List Char) :
    stripMarkup false (openParagraph ++ y) = stripMarkup false y := rfl

/-- Without its markup a document is its plain text, escaped. -/
theorem stripMarkup_renderHtml (link : List Char) (doc : List (List Inline)) :
    stripMarkup false (renderHtml link doc) = escapeHtml (renderPlain link doc) := by
  unfold renderHtml renderPlain
  induction doc with
  | nil => rfl
  | cons p doc ih =>
      cases doc with
      | nil =>
          have hlast : stripMarkup false (openParagraph ++ (p.flatMap (Inline.html link) ++
              closeParagraph)) = escapeHtml (p.flatMap (Inline.plain link)) := by
            rw [stripMarkup_openParagraph, stripMarkup_inlines]
            exact List.append_nil _
          simpa [joinWith, paragraphHtml] using hlast
      | cons q doc =>
          have hhtml : joinWith ['\n'] ((p :: q :: doc).map (paragraphHtml link)) =
              paragraphHtml link p ++ ['\n'] ++
                joinWith ['\n'] ((q :: doc).map (paragraphHtml link)) :=
            joinWith_cons _ _ (List.cons_ne_nil _ _)
          have hplain : joinWith ['\n', '\n'] ((p :: q :: doc).map fun p =>
              p.flatMap (Inline.plain link)) = p.flatMap (Inline.plain link) ++ ['\n', '\n'] ++
                joinWith ['\n', '\n'] ((q :: doc).map fun p => p.flatMap (Inline.plain link)) :=
            joinWith_cons _ _ (List.cons_ne_nil _ _)
          have hnext := stripMarkup_inlines link p (closeParagraph ++ ['\n'] ++
            joinWith ['\n'] ((q :: doc).map (paragraphHtml link)))
          rw [hhtml, hplain, escapeHtml_append, escapeHtml_append, ← ih]
          simp only [paragraphHtml, List.append_assoc] at hnext ⊢
          rw [stripMarkup_openParagraph, hnext]
          rfl

theorem plainText_renderHtml (link : List Char) (doc : List (List Inline)) :
    plainText (renderHtml link doc) = renderPlain link doc := by
  rw [plainText, stripMarkup_renderHtml, unescapeHtml_escapeHtml]

end Stripping

section Faithful

variable {body link cs : List Char}

/-- A text cut into blocks, with two or more newlines between them. -/
inductive Blocks : List Char → List (List Char) → Prop
  | last (block : List Char) : Blocks block [block]
  | cons (block : List Char) {k : ℕ} {rest : List Char} {blocks : List (List Char)} :
      2 ≤ k → Blocks rest blocks →
        Blocks (block ++ List.replicate k '\n' ++ rest) (block :: blocks)

theorem blocks_splitBlocks (block : List Char) (n : ℕ) (cs : List Char) :
    Blocks (block.reverse ++ List.replicate n '\n' ++ cs) (splitBlocks block n cs) := by
  fun_induction splitBlocks block n cs with
  | case1 block n cs ih => simpa [List.replicate_succ'] using ih
  | case2 block c cs hc ih => simpa using ih
  | case3 block c cs hc ih => simpa using ih
  | case4 block n c cs hc h0 h1 ih =>
      exact .cons _ ((Nat.two_le_iff n).2 ⟨h0, h1⟩) (by simpa using ih)
  | case5 block => simpa using Blocks.last block.reverse
  | case6 block => simpa using Blocks.last ('\n' :: block).reverse
  | case7 block n h0 h1 =>
      simpa using Blocks.cons block.reverse ((Nat.two_le_iff n).2 ⟨h0, h1⟩) (Blocks.last [])

/-- The text of a body or of a block, with the link in place. -/
def textWith (link cs : List Char) : List Char :=
  (tokens INVITE_LINK_PLACEHOLDER.toList cs).flatMap (tokenText link)

theorem renderInvitationTextBody_eq (body link : List Char) :
    renderInvitationTextBody body link = textWith link (normalizeText body) :=
  joinWith_splitOn _ _ _

theorem plain_ofToken (link : List Char) (o : Option Char) :
    (Inline.ofToken o).plain link = tokenText link o := by
  cases o with
  | none => rfl
  | some c =>
      rw [Inline.ofToken]
      split
      next hc => rw [hc]; rfl
      next => rfl

theorem renderPlain_document (body link : List Char) :
    renderPlain link (document body) =
      joinWith ['\n', '\n'] ((splitBlocks [] 0 (normalizeText body)).map (textWith link)) := by
  rw [renderPlain, document, List.map_map]
  refine congrArg (joinWith ['\n', '\n']) (List.map_congr_left fun block _ => ?_)
  rw [Function.comp_apply, List.flatMap_map]
  exact congrArg (fun f => List.flatMap f _) (funext (plain_ofToken link))

/-- No placeholder goes over a newline. -/
theorem tokens_newlines {k : ℕ} (hk : 0 < k) (cs ds : List Char) :
    tokens INVITE_LINK_PLACEHOLDER.toList (cs ++ List.replicate k '\n' ++ ds) =
      tokens INVITE_LINK_PLACEHOLDER.toList cs ++ List.replicate k (some '\n') ++
        tokens INVITE_LINK_PLACEHOLDER.toList ds := by
  obtain ⟨k, rfl⟩ := Nat.exists_eq_succ_of_ne_zero (Nat.ne_of_gt hk)
  have hnewline : '\n' ∉ INVITE_LINK_PLACEHOLDER.toList := by decide
  have hrun : '\x7b' ∉ List.replicate k '\n' := fun h =>
    absurd (List.eq_of_mem_replicate h) (by decide)
  have hrest := tokens_append_of_not_mem (t := "inviteLink\x7d".toList) (y := ds) hrun
  rw [List.replicate_succ, List.append_assoc, List.cons_append,
    tokens_append_cons (by decide) hnewline, List.replicate_succ, List.append_assoc,
    List.cons_append]
  refine congrArg (fun ts => _ ++ some '\n' :: ts) (hrest.trans ?_)
  rw [List.map_replicate]
  rfl

theorem flatMap_replicate_newline (link : List Char) (k : ℕ) :
    (List.replicate k (some '\n')).flatMap (tokenText link) = List.replicate k '\n' := by
  rw [← List.map_replicate, flatMap_tokenText_map_some]

theorem textWith_newlines {k : ℕ} (hk : 0 < k) (link cs ds : List Char) :
    textWith link (cs ++ List.replicate k '\n' ++ ds) =
      textWith link cs ++ List.replicate k '\n' ++ textWith link ds := by
  rw [textWith, tokens_newlines hk, List.flatMap_append, List.flatMap_append,
    flatMap_replicate_newline]
  rfl

/-- Reading on after a text depends on the newlines it ends with only. -/
theorem squeezeNewlines_append (n : ℕ) (cs : List Char) :
    ∃ m, ∀ ds, squeezeNewlines n (cs ++ ds) = squeezeNewlines n cs ++ squeezeNewlines m ds := by
  induction cs generalizing n with
  | nil => exact ⟨n, fun _ => rfl⟩
  | cons c cs ih =>
      by_cases hc : c = '\n'
      · by_cases hn : n < 2
        · obtain ⟨m, hm⟩ := ih (n + 1)
          exact ⟨m, fun ds => by simp [squeezeNewlines, hc, hn, hm]⟩
        · obtain ⟨m, hm⟩ := ih n
          exact ⟨m, fun ds => by simp [squeezeNewlines, hc, hn, hm]⟩
      · obtain ⟨m, hm⟩ := ih 0
        exact ⟨m, fun ds => by simp [squeezeNewlines, hc, hm]⟩

theorem squeezeNewlines_run {n : ℕ} (hn : ¬ n < 2) (k : ℕ) (cs : List Char) :
    squeezeNewlines n (List.replicate k '\n' ++ cs) = squeezeNewlines n cs := by
  induction k with
  | zero => rfl
  | succ k ih =>
      rw [List.replicate_succ, List.cons_append, squeezeNewlines, if_pos rfl, if_neg hn, ih]

/-- Two or more newlines are two. -/
theorem squeezeNewlines_replicate {k : ℕ} (hk : 2 ≤ k) (n : ℕ) (cs : List Char) :
    squeezeNewlines n (List.replicate k '\n' ++ cs) =
      squeezeNewlines n (['\n', '\n'] ++ cs) := by
  obtain ⟨k, rfl⟩ := Nat.exists_eq_add_of_le' hk
  rw [List.replicate_succ, List.replicate_succ]
  match n with
  | 0 => simp [squeezeNewlines, squeezeNewlines_run]
  | 1 => simp [squeezeNewlines, squeezeNewlines_run]
  | n + 2 => simp [squeezeNewlines, squeezeNewlines_run]

/-- The blocks a blank line apart are the text, up to the length of the runs of newlines. -/
theorem Blocks.squeezeNewlines_eq {blocks : List (List Char)} (h : Blocks cs blocks)
    (link : List Char) (n : ℕ) :
    squeezeNewlines n (joinWith ['\n', '\n'] (blocks.map (textWith link))) =
      squeezeNewlines n (textWith link cs) := by
  induction h generalizing n with
  | last block => simp [joinWith]
  | cons block hk hrest ih =>
      rename_i k rest blocks
      have hjoin : joinWith ['\n', '\n'] ((block :: blocks).map (textWith link)) =
          textWith link block ++ ['\n', '\n'] ++
            joinWith ['\n', '\n'] (blocks.map (textWith link)) :=
        joinWith_cons _ _ (by cases hrest <;> exact List.cons_ne_nil _ _)
      obtain ⟨m, hm⟩ := squeezeNewlines_append n (textWith link block)
      obtain ⟨m', hm'⟩ := squeezeNewlines_append m ['\n', '\n']
      rw [hjoin, textWith_newlines (by omega), List.append_assoc, List.append_assoc, hm, hm,
        squeezeNewlines_replicate hk, hm', hm', ih]

/-- The blocks have the placeholders of the text. -/
theorem Blocks.sum_count {blocks : List (List Char)} (h : Blocks cs blocks) :
    (blocks.map fun block => (tokens INVITE_LINK_PLACEHOLDER.toList block).count none).sum =
      (tokens INVITE_LINK_PLACEHOLDER.toList cs).count none := by
  induction h with
  | last block => simp
  | cons block hk hrest ih =>
      rw [tokens_newlines (by omega), List.count_append, List.count_append, List.map_cons,
        List.sum_cons, ih, List.count_replicate]
      simp

end Faithful

section Links

variable {x y url : List Char}

theorem countPlaceholders_eq (cs : List Char) :
    countPlaceholders cs = (tokens INVITE_LINK_PLACEHOLDER.toList cs).count none := by
  rw [countPlaceholders, length_splitOn, Nat.add_sub_cancel]

/-- How often a link is found in a text. -/
def linkCount (url cs : List Char) : ℕ :=
  (tokens (anchorTo url) cs).count none

theorem exists_anchorTo_eq (url : List Char) : ∃ rest, anchorTo url = '<' :: 'a' :: rest :=
  ⟨_, rfl⟩

theorem linkCount_append (hx : '<' ∉ x) (url y : List Char) :
    linkCount url (x ++ y) = linkCount url y := by
  obtain ⟨rest, hanchor⟩ := exists_anchorTo_eq url
  have hnone : none ∉ x.map some := by simp
  rw [linkCount, hanchor, tokens_append_of_not_mem hx, List.count_append,
    List.count_eq_zero.2 hnone, Nat.zero_add, linkCount, hanchor]

/-- Another tag is no link. -/
theorem linkCount_tag {d : Char} (hd : d ≠ 'a') (hx : '<' ∉ d :: x) (url y : List Char) :
    linkCount url ('<' :: d :: x ++ y) = linkCount url y := by
  have hnot : (anchorTo url).isPrefixOf ('<' :: (d :: x ++ y)) = false := by
    obtain ⟨rest, hanchor⟩ := exists_anchorTo_eq url
    simp [hanchor, List.isPrefixOf, Ne.symm hd]
  have hrest := linkCount_append hx url y
  rw [linkCount] at hrest ⊢
  rw [List.cons_append, tokens_cons_plain hnot, List.count_cons, hrest]
  rfl

theorem linkCount_anchorTo (url y : List Char) :
    linkCount url (anchorTo url ++ y) = linkCount url y + 1 := by
  obtain ⟨rest, hanchor⟩ := exists_anchorTo_eq url
  rw [linkCount, linkCount]
  generalize anchorTo url = anchor at hanchor
  subst hanchor
  have hpre : ('<' :: 'a' :: rest).isPrefixOf ('<' :: ('a' :: rest ++ y)) = true :=
    List.isPrefixOf_iff_prefix.2 (List.prefix_append _ _)
  rw [List.cons_append, tokens_cons_match hpre, List.count_cons_self]
  simp

theorem linkCount_inlines (link : List Char) (p : List Inline) (y : List Char) :
    linkCount (escapeHtml link) (p.flatMap (Inline.html link) ++ y) =
      p.count .link + linkCount (escapeHtml link) y := by
  induction p with
  | nil => simp
  | cons i p ih =>
      rw [List.flatMap_cons, List.append_assoc]
      cases i with
      | char c =>
          have hlt : '<' ∉ escapeChar c := escapeHtml_singleton c ▸ lt_not_mem_escapeHtml [c]
          rw [Inline.html, linkCount_append hlt, ih, List.count_cons_of_ne (by simp)]
      | lineBreak =>
          have htag :
              linkCount (escapeHtml link) (lineBreak ++ (p.flatMap (Inline.html link) ++ y)) =
              linkCount (escapeHtml link) (p.flatMap (Inline.html link) ++ y) :=
            linkCount_tag (x := "r/>".toList) (by decide) (by decide) _ _
          rw [Inline.html, htag, ih, List.count_cons_of_ne (by simp)]
      | link =>
          rw [Inline.html, linkCount_anchorTo, ih, List.count_cons_self]
          omega

theorem linkCount_paragraph (link : List Char) (p : List Inline) (y : List Char) :
    linkCount (escapeHtml link) (paragraphHtml link p ++ y) =
      p.count .link + linkCount (escapeHtml link) y := by
  have hopen : ∀ cs, linkCount (escapeHtml link) (openParagraph ++ cs) =
      linkCount (escapeHtml link) cs :=
    linkCount_tag (x := " style=\"margin:0 0 16px 0;\">".toList) (by decide) (by decide +kernel) _
  have hclose : ∀ cs, linkCount (escapeHtml link) (closeParagraph ++ cs) =
      linkCount (escapeHtml link) cs :=
    linkCount_tag (x := "p>".toList) (by decide) (by decide) _
  rw [paragraphHtml, List.append_assoc, List.append_assoc, hopen, linkCount_inlines, hclose]

theorem linkCount_renderHtml (link : List Char) (doc : List (List Inline)) :
    linkCount (escapeHtml link) (renderHtml link doc) =
      (doc.map fun p => p.count .link).sum := by
  unfold renderHtml
  induction doc with
  | nil => rfl
  | cons p doc ih =>
      cases doc with
      | nil =>
          have hlast := linkCount_paragraph link p []
          have hnil : linkCount (escapeHtml link) [] = 0 := rfl
          rw [List.append_nil, hnil] at hlast
          simpa [joinWith] using hlast
      | cons q doc =>
          have hhtml : joinWith ['\n'] ((p :: q :: doc).map (paragraphHtml link)) =
              paragraphHtml link p ++ (['\n'] ++
                joinWith ['\n'] ((q :: doc).map (paragraphHtml link))) :=
            (joinWith_cons _ _ (List.cons_ne_nil _ _)).trans (List.append_assoc _ _ _)
          rw [hhtml, linkCount_paragraph, linkCount_append (by decide), ih]
          rfl

theorem count_link_ofToken (ts : List (Option Char)) :
    (ts.map Inline.ofToken).count .link = ts.count none := by
  induction ts with
  | nil => rfl
  | cons o ts ih =>
      cases o with
      | none => rw [List.map_cons, Inline.ofToken, List.count_cons_self, List.count_cons_self, ih]
      | some c =>
          have hne : Inline.ofToken (some c) ≠ .link := by
            rw [Inline.ofToken]
            split <;> simp
          rw [List.map_cons, List.count_cons_of_ne hne, List.count_cons_of_ne (by simp), ih]

end Links

/-- The HTML body has the fixed elements around escaped text only; without them it is the text
body, up to the length of the runs of newlines; and the link is in it once for each
placeholder. -/
theorem renderInvitationBodies_faithful (body link : List Char) :
    OnlyFixedMarkup (renderInvitationHtmlBody body link) ∧
      squeezeNewlines 0 (plainText (renderInvitationHtmlBody body link)) =
        squeezeNewlines 0 (renderInvitationTextBody body link) ∧
      countOccurrences (anchorTo (escapeHtml link)) (renderInvitationHtmlBody body link) =
        countPlaceholders (normalizeText body) := by
  have hblocks := blocks_splitBlocks [] 0 (normalizeText body)
  rw [List.reverse_nil, List.replicate_zero, List.append_nil, List.nil_append] at hblocks
  rw [renderInvitationHtmlBody_eq]
  refine ⟨renderHtml_onlyFixedMarkup link (document body), ?_, ?_⟩
  · rw [plainText_renderHtml, renderPlain_document, hblocks.squeezeNewlines_eq,
      renderInvitationTextBody_eq]
  · have hcount := linkCount_renderHtml link (document body)
    rw [document, List.map_map] at hcount
    rw [countPlaceholders_eq, ← hblocks.sum_count, countOccurrences, length_splitOn,
      Nat.add_sub_cancel]
    refine hcount.trans (congrArg List.sum (List.map_congr_left fun block _ => ?_))
    exact count_link_ofToken _

end InvitationText

end FifiAlert
