import FifiAlert.Auth.TokenProtocol

/-!
# The code of the token service follows its protocol

Each function of the token service is walked once, in the order of its code: at
every call the protocol permits it, and at the end the answer is one that the
marks of the run account for. What a thread knows is its own list of marks,
which nobody else changes, and what permitted calls of others keep (`Later`).
-/

namespace FifiAlert

open Concurrency Store TokenService

section Later

variable {ι : Type*} [DecidableEq ι]

/-- What interference keeps for thread `i`: the marks made so far, its own marks,
the rows with their owners and types, and the novelty of tokens it can sign. -/
structure Later (E : TokenEnv) (i : ι) (w w' : TokenSnapshot ι) : Prop where
  marks : ∀ m ∈ w.marks, m ∈ w'.marks
  own : w'.own TokenMark.thread i = w.own TokenMark.thread i
  rows : ∀ k row, w.state.sessions.find? k = some row →
    ∃ row', w'.state.sessions.find? k = some row' ∧ row'.userId = row.userId ∧
      row'.tokenType = row.tokenType
  unknown : ∀ p e t, .drew i p.jti ∈ w.marks →
    w.state.sessions.find? (E.hashToken (E.sign p e t)) = none →
      w'.state.sessions.find? (E.hashToken (E.sign p e t)) = none

theorem Later.refl (E : TokenEnv) (i : ι) (w : TokenSnapshot ι) : Later E i w w where
  marks := fun _ => id
  own := rfl
  rows := fun _ row h => ⟨row, h, rfl, rfl⟩
  unknown := fun _ _ _ _ => id

theorem Later.trans {E : TokenEnv} {i : ι} {w₁ w₂ w₃ : TokenSnapshot ι}
    (h : Later E i w₁ w₂) (h' : Later E i w₂ w₃) : Later E i w₁ w₃ where
  marks := fun m hm => h'.marks m (h.marks m hm)
  own := h'.own.trans h.own
  rows := by
    intro k row hrow
    obtain ⟨row', hrow', hu, ht⟩ := h.rows k row hrow
    obtain ⟨row'', hrow'', hu', ht'⟩ := h'.rows k row' hrow'
    exact ⟨row'', hrow'', hu'.trans hu, ht'.trans ht⟩
  unknown := fun p e t hd hn => h'.unknown p e t (h.marks _ hd) (h.unknown p e t hd hn)

variable {E : TokenEnv} {hE : E.Lawful} {req : ι → TokenRequest} {s₀ : World}
  {fails : TokenCall → Prop} {admits : ι → TokenCall → TokenSnapshot ι → Prop} {i : ι}

/-- One permitted call of another thread. -/
theorem Later.of_call {j : ι} (hij : j ≠ i) {l : TokenCall} {w : TokenSnapshot ι}
    (hinv : TokenInv E s₀ w) (h : TokenPermits E req j l w) (hE : E.Lawful) :
    Later E i w (w.after TokenMark.of j l l.effect) where
  marks := fun _ hm => Snapshot.mem_after_of_mem hm
  own := Snapshot.own_after_ne TokenMark.thread_of hij l _
  rows := by
    intro k row hrow
    obtain ⟨row', hrow', hu, ht, -⟩ := h.row_kept hrow
    exact ⟨row', hrow', hu, ht⟩
  unknown := fun p e t hd hn => h.unknown_kept hE hn fun hd' =>
    hij (hinv.drewOnce j i p.jti hd' hd)

theorem Later.of_interference {w w' : TokenSnapshot ι}
    (h : Relation.ReflTransGen
      ((tokenProtocol hE req s₀ fails admits).Interference i) w w') : Later E i w w' := by
  induction h with
  | refl => exact Later.refl E i w
  | tail _ hs ih =>
      refine ih.trans ?_
      cases hs with
      | call j hij hc =>
          cases hc with
          | mk l hinv hper _ => exact Later.of_call hij hinv hper hE
      | env henv _ =>
          obtain ⟨hsessions, -⟩ := henv
          exact
            { marks := fun _ => id
              own := rfl
              rows := fun k row hrow => ⟨row, hsessions ▸ hrow, rfl, rfl⟩
              unknown := fun p e t _ hn => hsessions ▸ hn }

theorem mem_own_of_thread {w : TokenSnapshot ι} {m : TokenMark ι} (hm : m.thread = i) :
    m ∈ w.marks ↔ m ∈ w.own TokenMark.thread i := by
  rw [Snapshot.mem_own]
  exact ⟨fun h => ⟨h, hm⟩, fun h => h.1⟩

end Later

section Rules

variable {ι : Type*} [DecidableEq ι] {E : TokenEnv} (hE : E.Lawful) (req : ι → TokenRequest)
  (s₀ : World) (fails : TokenCall → Prop)
  (admits : ι → TokenCall → TokenSnapshot ι → Prop)

/-- Safety under the contract of the token protocol. -/
abbrev TokenSafe {α : Type} (i : ι) (Q : Except AppError α → TokenSnapshot ι → Prop)
    (p : TokenProcess α) (w : TokenSnapshot ι) : Prop :=
  Safe (tokenProtocol hE req s₀ fails admits).contract i Q p w

variable {hE req s₀ fails admits} {α β : Type} {i : ι}
  {Q : Except AppError β → TokenSnapshot ι → Prop} {w : TokenSnapshot ι}

theorem token_ret {b : β}
    (h : ∀ w', Later E i w w' → TokenInv E s₀ w' → Q (.ok b) w') :
    TokenSafe hE req s₀ fails admits i Q (.ret b) w :=
  Safe.ret fun w' hr hi => h w' (Later.of_interference hr) hi

theorem token_raise {e : AppError}
    (h : ∀ w', Later E i w w' → TokenInv E s₀ w' → Q (.error e) w') :
    TokenSafe hE req s₀ fails admits i Q (.raise e) w :=
  Safe.raise fun w' hr hi => h w' (Later.of_interference hr) hi

/-- A call that the protocol permits, or that fails. -/
theorem token_call {l : TokenCall} {next : World → World} {rest : World → TokenProcess β}
    {fault : TokenProcess β} (hnext : next = l.effect)
    (h : ∀ w', Later E i w w' → TokenInv E s₀ w' → TokenPermits E req i l w' ∧
      TokenSafe hE req s₀ fails admits i Q (rest w'.state)
        (w'.after TokenMark.of i l l.effect))
    (hfault : ∀ w', Later E i w w' → TokenSafe hE req s₀ fails admits i Q fault w') :
    TokenSafe hE req s₀ fails admits i Q (.call l next rest fault) w := by
  refine Protocol.safe_call hnext fun w' hr hi => ⟨fun _ => ?_, fun _ => ?_⟩
  · obtain ⟨hper, hrest⟩ := h w' (Later.of_interference hr) hi
    exact ⟨hper, fun _ => hrest⟩
  · exact hfault w' (Later.of_interference hr)

/-- A read of the shared state. -/
theorem token_read {l : TokenCall} {g : World → α} {k : α → TokenProcess β}
    (hmark : ∀ s, TokenMark.of i l s = none)
    (h : ∀ w', Later E i w w' → TokenInv E s₀ w' →
      TokenSafe hE req s₀ fails admits i Q (k (g w'.state)) w')
    (herr : ∀ e w', e.isReuse = false → Q (.error e) w') :
    TokenSafe hE req s₀ fails admits i Q (TokenService.read l g >>= k) w :=
  Safe.query_bind hmark (fun w' hr hi _ => h w' (Later.of_interference hr) hi)
    fun _ => token_raise fun w' _ _ => herr _ w' rfl

/-- A read that may leave a mark. -/
theorem token_read_marked {l : TokenCall} {g : World → α} {k : α → TokenProcess β}
    (hl : id = l.effect)
    (h : ∀ w', Later E i w w' → TokenInv E s₀ w' → TokenPermits E req i l w' ∧
      TokenSafe hE req s₀ fails admits i Q (k (g w'.state))
        (w'.after TokenMark.of i l l.effect))
    (herr : ∀ e w', e.isReuse = false → Q (.error e) w') :
    TokenSafe hE req s₀ fails admits i Q (TokenService.read l g >>= k) w :=
  token_call hl h fun _ _ => token_raise fun w' _ _ => herr _ w' rfl

/-- A write that the protocol permits. -/
theorem token_write {l : TokenCall} {g : World → α} {k : α → TokenProcess β}
    (h : ∀ w', Later E i w w' → TokenInv E s₀ w' → TokenPermits E req i l w' ∧
      TokenSafe hE req s₀ fails admits i Q (k (g w'.state))
        (w'.after TokenMark.of i l l.effect))
    (herr : ∀ e w', e.isReuse = false → Q (.error e) w') :
    TokenSafe hE req s₀ fails admits i Q (TokenService.write l g >>= k) w :=
  token_call rfl h fun _ _ => token_raise fun w' _ _ => herr _ w' rfl

/-- A fresh row is inserted; the branch for a duplicate token is never taken. -/
theorem storeTokenInSession_safe {Q : Except AppError Unit → TokenSnapshot ι → Prop}
    {token : String} {userId : ℕ} {tokenType : TokenType} {expiresAt : Time}
    {ipAddress userAgent : Option String} {row : Session} (ht : tokenType ≠ .session)
    (hrow : row =
      { token := E.hashToken token, tokenType, userId, expiresAt, ipAddress, userAgent })
    (hmay : ∀ w', Later E i w w' → TokenInv E s₀ w' → MayCreate E req i row w')
    (hok : ∀ w', Later E i w w' → MayCreate E req i row w' →
      ∀ w'', Later E i (w'.after TokenMark.of i (.sessionCreate row)
        (TokenCall.sessionCreate row).effect) w'' → TokenInv E s₀ w'' → Q (.ok ()) w'')
    (herr : ∀ e w', e.isReuse = false → Q (.error e) w') :
    TokenSafe hE req s₀ fails admits i Q
      (storeTokenInSession E token userId tokenType expiresAt ipAddress userAgent) w := by
  unfold storeTokenInSession
  simp only [ht, if_false, ← hrow]
  refine Safe.tryCatch (token_call rfl (fun w' hl hi => ?_) fun w' hl => ?_)
  · have hnow := hmay w' hl hi
    refine ⟨hnow, ?_⟩
    simp only [hnow.new]
    exact token_ret fun w'' hl' hi' => hok w' hl hnow w'' hl' hi'
  · exact token_raise fun w'' _ _ => token_raise fun w₃ _ _ => herr _ w₃ rfl

/-- The own marks of a thread that may mint a token of this type for this user. -/
structure MayMint (req : ι → TokenRequest) (i : ι) (userId : ℕ) (tokenType : TokenType)
    (own : List (TokenMark ι)) : Prop where
  first : ∀ row, .created i row ∈ own → row.tokenType ≠ tokenType
  owner : (∃ user ip ua, req i = .issue user ip ua ∧ user.user.id = userId) ∨
    (∃ k, .claimed i k userId ∈ own) ∧ .orphaned i ∉ own ∧
      ∀ row, .created i row ∈ own → row.tokenType ≠ .refresh

/-- Minting a token draws one id and inserts one row. -/
theorem generateToken_safe {Q : Except AppError (String × Time) → TokenSnapshot ι → Prop}
    {duration : String} {payload : ℕ → IJwtPayload} {ipAddress userAgent : Option String}
    (userId : ℕ) (tokenType : TokenType) (ht : tokenType ≠ .session)
    (hpayload : ∀ n, (payload n).sub = userId ∧ (payload n).type = tokenType ∧
      (payload n).jti = n)
    (hmay : MayMint req i userId tokenType (w.own TokenMark.thread i))
    (hok : ∀ w' n row token expiresAt, w'.own TokenMark.thread i =
        .created i row :: .drew i n :: w.own TokenMark.thread i →
      row.token = E.hashToken token → row.tokenType = tokenType → row.userId = userId →
      Q (.ok (token, expiresAt)) w')
    (herr : ∀ e w', e.isReuse = false → Q (.error e) w') :
    TokenSafe hE req s₀ fails admits i Q
      (generateToken E duration payload ipAddress userAgent) w := by
  unfold generateToken
  cases hduration : durationToSeconds duration with
  | error e => exact token_raise fun w' _ _ => herr _ w' (durationToSeconds_error hduration)
  | ok seconds =>
      refine token_read (fun _ => rfl) (fun w₁ hl₁ _ => ?_) herr
      refine token_write (fun w₂ hl₂ hi₂ => ⟨trivial, ?_⟩) herr
      refine token_read (fun _ => rfl) (fun w₃ hl₃ _ => ?_) herr
      obtain ⟨hsub, htype, hjti⟩ := hpayload w₂.state.nextUUID
      have hown₃ : w₃.own TokenMark.thread i =
          .drew i w₂.state.nextUUID :: w.own TokenMark.thread i := by
        rw [hl₃.own, Snapshot.own_after_self TokenMark.thread_of, hl₂.own, hl₁.own]
        rfl
      have hdrew : .drew i w₂.state.nextUUID ∈ w₃.marks := by
        rw [mem_own_of_thread (i := i) rfl, hown₃]
        exact List.mem_cons_self
      have hnew : w₃.state.sessions.find?
          (E.hashToken (E.sign (payload w₂.state.nextUUID) seconds w₃.state.now)) = none := by
        refine hl₃.unknown _ _ _ ?_ ?_
        · exact Snapshot.mem_after.2 (.inl (by rw [hjti]; rfl))
        · exact hi₂.fresh _ _ _ (by rw [hjti])
      rw [htype, hsub]
      obtain ⟨row, hrow⟩ : ∃ row : Session, row =
          { token := E.hashToken (E.sign (payload w₂.state.nextUUID) seconds w₃.state.now),
            tokenType, userId, expiresAt := w₁.state.now + seconds * 1000, ipAddress,
            userAgent } := ⟨_, rfl⟩
      have htoken : row.token =
          E.hashToken (E.sign (payload w₂.state.nextUUID) seconds w₃.state.now) := hrow ▸ rfl
      have hrowType : row.tokenType = tokenType := hrow ▸ rfl
      have hrowUser : row.userId = userId := hrow ▸ rfl
      refine Safe.bind (storeTokenInSession_safe ht hrow (fun w₄ hl₄ _ => ?_)
        (fun w₄ hl₄ hmay₄ w₅ hl₅ _ => ?_) herr)
      · have hown₄ := hl₄.own.trans hown₃
        refine
          { new := htoken ▸ hl₄.unknown _ _ _ (by rw [hjti]; exact hdrew) hnew
            unrevoked := hrow ▸ rfl
            noPair := hrow ▸ rfl
            signed := ⟨_, _, _, htoken, by rw [hjti]; exact hl₄.marks _ hdrew⟩
            first := fun row' hm => hrowType ▸ hmay.first row' ?_
            owner := ?_ }
        · rw [mem_own_of_thread (i := i) rfl, hown₄] at hm
          simpa using hm
        · refine hrowUser ▸ hmay.owner.imp_right ?_
          rintro ⟨⟨k, hk⟩, horphan, hrefresh⟩
          refine ⟨⟨k, ?_⟩, ?_, fun row' hm => hrefresh row' ?_⟩
          · rw [mem_own_of_thread (i := i) rfl, hown₄]
            exact List.mem_cons_of_mem _ hk
          · rw [mem_own_of_thread (i := i) rfl, hown₄]
            simpa using horphan
          · rw [mem_own_of_thread (i := i) rfl, hown₄] at hm
            simpa using hm
      · refine token_ret fun w₆ hl₆ _ =>
          hok w₆ w₂.state.nextUUID row _ _ ?_ htoken hrowType hrowUser
        rw [hl₆.own, hl₅.own, Snapshot.own_after_self TokenMark.thread_of, hl₄.own, hown₃]
        simp [TokenMark.of, hmay₄.new]

/-- The pair was stored on the row by some thread, or its encryption was there
at the start. -/
def Replayable (E : TokenEnv) (s₀ : World) (k : String) (pair : IRotatedTokens)
    (w : TokenSnapshot ι) : Prop :=
  (∃ j, .stored j k pair ∈ w.marks) ∨
    ∃ row₀ b, s₀.sessions.find? k = some row₀ ∧ row₀.replacementCiphertext = some b ∧
      decryptReplacement E b = some pair

omit [DecidableEq ι] in
theorem TokenInv.replayable {k b : String} {row : Session} {pair : IRotatedTokens}
    (hinv : TokenInv E s₀ w) (hrow : w.state.sessions.find? k = some row)
    (hb : row.replacementCiphertext = some b) (hd : decryptReplacement E b = some pair) :
    Replayable E s₀ k pair w := by
  rcases hinv.blob k row b hrow hb with ⟨j, pair', hm, hd'⟩ | ⟨row₀, hrow₀, hb₀⟩
  · rw [hd, Option.some.injEq] at hd'
    exact .inl ⟨j, hd' ▸ hm⟩
  · exact .inr ⟨row₀, b, hrow₀, hb₀, hd⟩

theorem Replayable.later {k : String} {pair : IRotatedTokens} {w' : TokenSnapshot ι}
    (h : Replayable E s₀ k pair w) (hl : Later E i w w') : Replayable E s₀ k pair w' :=
  h.imp_left fun ⟨j, hm⟩ => ⟨j, hl.marks _ hm⟩

theorem replayReplacement_safe
    {Q : Except AppError (Option IRotatedTokens) → TokenSnapshot ι → Prop}
    {ciphertext : String} {userId : ℕ}
    (hsome : ∀ pair w', decryptReplacement E ciphertext = some pair → Later E i w w' →
      Q (.ok (some pair)) w')
    (hnone : ∀ w', Q (.ok none) w') (herr : ∀ e w', e.isReuse = false → Q (.error e) w') :
    TokenSafe hE req s₀ fails admits i Q (replayReplacement E ciphertext userId) w := by
  unfold replayReplacement
  cases hd : decryptReplacement E ciphertext with
  | none => exact token_ret fun w' _ _ => hnone w'
  | some pair =>
      dsimp only
      split
      · exact token_ret fun w' _ _ => hnone w'
      · refine token_read (fun _ => rfl) (fun w₁ hl₁ _ => ?_) herr
        cases w₁.state.sessions.find? (E.hashToken pair.refreshToken) with
        | none => exact token_ret fun w' _ _ => hnone w'
        | some child =>
            dsimp only
            split
            · exact token_ret fun w' _ _ => hnone w'
            split
            · exact token_ret fun w' _ _ => hnone w'
            refine token_read (fun _ => rfl) (fun w₂ hl₂ _ => ?_) herr
            split
            · exact token_ret fun w' _ _ => hnone w'
            · exact token_ret fun w₃ hl₃ _ => hsome pair w₃ hd (hl₁.trans (hl₂.trans hl₃))

/-- Whatever the loop answers with was stored on the row it polls. -/
theorem awaitLoop_safe
    {Q : Except AppError (Option IRotatedTokens) → TokenSnapshot ι → Prop}
    {tokenHash : String} {userId : ℕ} {wait : Bool} (left : ℕ) (ciphertext : Option String)
    (hinit : ∀ b pair, ciphertext = some b → decryptReplacement E b = some pair →
      Replayable E s₀ tokenHash pair w)
    (hok : ∀ r w', (∀ pair, r = some pair → Replayable E s₀ tokenHash pair w') →
      Later E i w w' → Q (.ok r) w')
    (hnone : ∀ w', Q (.ok none) w')
    (herr : ∀ e w', e.isReuse = false → Q (.error e) w') :
    TokenSafe hE req s₀ fails admits i Q
      (awaitLoop E tokenHash userId wait left ciphertext) w := by
  induction left generalizing ciphertext w with
  | zero =>
      unfold awaitLoop
      cases ht : Js.truthy ciphertext with
      | some b =>
          obtain ⟨hc, -⟩ := Js.truthy_eq_some_iff.1 ht
          refine replayReplacement_safe (fun pair w' hd hl => hok _ w' ?_ hl) hnone herr
          rintro pair' ⟨⟩
          exact (hinit b pair hc hd).later hl
      | none =>
          cases wait <;> exact token_ret fun w' _ _ => hnone w'
  | succ left ih =>
      unfold awaitLoop
      cases ht : Js.truthy ciphertext with
      | some b =>
          obtain ⟨hc, -⟩ := Js.truthy_eq_some_iff.1 ht
          refine replayReplacement_safe (fun pair w' hd hl => hok _ w' ?_ hl) hnone herr
          rintro pair' ⟨⟩
          exact (hinit b pair hc hd).later hl
      | none =>
          cases wait with
          | false => exact token_ret fun w' _ _ => hnone w'
          | true =>
              refine token_read (fun _ => rfl) (fun w₁ hl₁ _ => ?_) herr
              refine token_read (fun _ => rfl) (fun w₂ hl₂ hi₂ => ?_) herr
              refine ih _ ?_ fun r w' hr hl => hok r w' hr (hl₁.trans (hl₂.trans hl))
              intro b pair hb hd
              obtain ⟨row, hrow, hrb⟩ := Option.bind_eq_some_iff.1 hb
              exact hi₂.replayable hrow hrb hd

/-- Revoking all tokens of a user ends with its own mark. -/
theorem revokeAllUserTokens_safe {Q : Except AppError ℕ → TokenSnapshot ι → Prop}
    {userId : ℕ} {exceptToken : Option String}
    (hok : ∀ n w', .revokedAll i userId ((Js.truthy exceptToken).map E.hashToken) ∈ w'.marks →
      Q (.ok n) w')
    (herr : ∀ e w', e.isReuse = false → Q (.error e) w') :
    TokenSafe hE req s₀ fails admits i Q (revokeAllUserTokens E userId exceptToken) w := by
  unfold revokeAllUserTokens
  refine token_write (fun w₁ _ _ => ⟨trivial, ?_⟩) herr
  refine token_read (fun _ => rfl) (fun w₂ _ _ => ?_) herr
  rw [← bind_pure (TokenService.write _ _)]
  refine token_write (fun w₃ _ _ => ⟨trivial, ?_⟩) herr
  exact token_ret fun w₄ hl₄ _ => hok _ w₄ (hl₄.marks _ (Snapshot.mem_after.2 (.inl rfl)))

/-- What accounts for the answer of a rotation: a pair stored on the row, or the
pair that the thread minted after its claim and could not store. -/
def Answered (E : TokenEnv) (s₀ : World) (i : ι) (k : String) (pair : IRotatedTokens)
    (w : TokenSnapshot ι) : Prop :=
  Replayable E s₀ k pair w ∨
    (∃ u, .claimed i k u ∈ w.marks) ∧ Minted E i pair w ∧ ∀ k' p, .stored i k' p ∉ w.marks

/-- A call leaves the own marks alone when it leaves no mark. -/
theorem own_after_silent {l : TokenCall} (hmark : TokenMark.of i l w.state = none) :
    (w.after TokenMark.of i l l.effect).own TokenMark.thread i =
      w.own TokenMark.thread i := by
  rw [Snapshot.own_after_self TokenMark.thread_of, hmark]
  rfl

/-- The own marks of a thread that has minted its pair. -/
theorem answered_of_own {k : String} {u n n' : ℕ} {access refresh : Session}
    (pair : IRotatedTokens)
    (hown : w.own TokenMark.thread i =
      [.created i refresh, .drew i n', .created i access, .drew i n, .claimed i k u])
    (ha : access.token = E.hashToken pair.accessToken) (hat : access.tokenType = .access)
    (hr : refresh.token = E.hashToken pair.refreshToken)
    (hrt : refresh.tokenType = .refresh) :
    (.claimed i k u ∈ w.marks) ∧ Minted E i pair w ∧ ∀ k' p, .stored i k' p ∉ w.marks := by
  refine ⟨?_, ⟨access, refresh, ?_, ?_, ha, hat, hr, hrt⟩, fun k' p hm => ?_⟩
  · rw [mem_own_of_thread (i := i) rfl, hown]
    simp
  · rw [mem_own_of_thread (i := i) rfl, hown]
    simp
  · rw [mem_own_of_thread (i := i) rfl, hown]
    simp
  · rw [mem_own_of_thread (i := i) rfl, hown] at hm
    simp at hm

/-- Storing the pair leaves its mark, or fails without a trace. -/
theorem storeReplacement_safe {Q : Except AppError Unit → TokenSnapshot ι → Prop}
    {k : String} {pair : IRotatedTokens}
    (hmay : ∀ w', w'.own TokenMark.thread i = w.own TokenMark.thread i →
      (∃ u, .claimed i k u ∈ w'.marks) ∧ Minted E i pair w' ∧ ∀ k' p, .stored i k' p ∉ w'.marks)
    (hok : ∀ w', .stored i k pair ∈ w'.marks ∨
      w'.own TokenMark.thread i = w.own TokenMark.thread i → Q (.ok ()) w') :
    TokenSafe hE req s₀ fails admits i Q (storeReplacement E k pair) w := by
  unfold storeReplacement
  dsimp only
  refine Safe.tryCatch (token_call rfl (fun w₁ hl₁ _ => ⟨trivial, ?_⟩) fun w₁ hl₁ => ?_)
  · have hown : ∀ w₂, Later E i (w₁.after TokenMark.of i .randomBytes
        (TokenCall.effect .randomBytes)) w₂ →
        w₂.own TokenMark.thread i = w.own TokenMark.thread i :=
      fun w₂ hl₂ => hl₂.own.trans ((own_after_silent rfl).trans hl₁.own)
    refine token_call rfl (fun w₂ hl₂ _ => ⟨?_, ?_⟩) fun w₂ hl₂ => ?_
    · obtain ⟨hclaimed, hminted, hstored⟩ := hmay w₂ (hown w₂ hl₂)
      exact ⟨hE.decrypt_encrypt _ _, hclaimed, hminted, hstored⟩
    · dsimp only
      cases hrow : w₂.state.sessions.find? k with
      | some row =>
          refine token_ret fun w₃ hl₃ _ => hok w₃ (.inl (hl₃.marks _ ?_))
          exact Snapshot.mem_after.2 (.inl (by simp [TokenMark.of, hrow]))
      | none =>
          refine token_raise fun w₃ hl₃ _ => token_ret fun w₄ hl₄ _ => hok w₄ (.inr ?_)
          rw [hl₄.own, hl₃.own, own_after_silent (by simp [TokenMark.of, hrow]), hown w₂ hl₂]
    · refine token_raise fun w₃ hl₃ _ => token_ret fun w₄ hl₄ _ => hok w₄ (.inr ?_)
      exact hl₄.own.trans (hl₃.own.trans (hown w₂ hl₂))
  · refine token_raise fun w₂ hl₂ _ => token_ret fun w₃ hl₃ _ => hok w₃ (.inr ?_)
    exact hl₃.own.trans (hl₂.own.trans hl₁.own)

/-- After its claim a thread mints one pair and answers with it. -/
theorem mintReplacement_safe {Q : Except AppError IRotatedTokens → TokenSnapshot ι → Prop}
    {tokenHash : String} {session : Session} {ipAddress userAgent : Option String}
    (hown : w.own TokenMark.thread i = [.claimed i tokenHash session.userId])
    (hok : ∀ pair w', Answered E s₀ i tokenHash pair w' → Q (.ok pair) w')
    (herr : ∀ e w', e.isReuse = false → Q (.error e) w') :
    TokenSafe hE req s₀ fails admits i Q
      (mintReplacement E tokenHash session ipAddress userAgent) w := by
  unfold mintReplacement
  refine token_read_marked rfl (fun w₁ hl₁ _ => ⟨trivial, ?_⟩) herr
  cases hu : w₁.state.findUserWithRoles session.userId with
  | none => exact token_raise fun w' _ _ => herr _ w' rfl
  | some user =>
      obtain ⟨row, hrow, huser⟩ := Option.map_eq_some_iff.1 hu
      have hid : user.user.id = session.userId := by
        rw [← huser]
        exact Table.key_of_find? hrow
      have hown₁ : (w₁.after TokenMark.of i (.userFindUnique session.userId)
          (TokenCall.effect (.userFindUnique session.userId))).own TokenMark.thread i =
            [.claimed i tokenHash session.userId] := by
        rw [own_after_silent (by simp [TokenMark.of, hrow]), hl₁.own, hown]
      refine Safe.bind (generateToken_safe session.userId .access
        (by decide) (fun _ => ⟨hid, rfl, rfl⟩) ?_
        (fun w₂ n access token expiresAt hown₂ ha hat _ => ?_) herr)
      · rw [hown₁]
        exact ⟨by simp, .inr ⟨⟨tokenHash, by simp⟩, by simp, by simp⟩⟩
      rw [hown₁] at hown₂
      refine Safe.bind (generateToken_safe session.userId .refresh
        (by decide) (fun _ => ⟨hid, rfl, rfl⟩) ?_
        (fun w₃ n' refresh token' expiresAt' hown₃ hr hrt _ => ?_) herr)
      · rw [hown₂]
        exact ⟨by simp [hat], .inr ⟨⟨tokenHash, by simp⟩, by simp, by simp [hat]⟩⟩
      rw [hown₂] at hown₃
      have hanswered : ∀ w₄ : TokenSnapshot ι,
          w₄.own TokenMark.thread i = w₃.own TokenMark.thread i → _ :=
        fun w₄ hown₄ => answered_of_own (E := E)
          ⟨user.user.id, token, expiresAt, token', expiresAt'⟩ (hown₄.trans hown₃) ha hat hr hrt
      refine Safe.bind (storeReplacement_safe (fun w₄ hown₄ => ?_) fun w₄ hw₄ =>
        token_ret fun w₅ hl₅ _ => hok _ w₅ ?_)
      · obtain ⟨hclaimed, hminted, hstored⟩ := hanswered w₄ hown₄
        exact ⟨⟨_, hclaimed⟩, hminted, hstored⟩
      · rcases hw₄ with hstored | hown₄
        · exact .inl (.inl ⟨i, hl₅.marks _ hstored⟩)
        · obtain ⟨hclaimed, hminted, hstored⟩ := hanswered w₅ (hl₅.own.trans hown₄)
          exact .inr ⟨⟨_, hclaimed⟩, hminted, hstored⟩

/-- A wait for the pair ends with a stored pair or an exception. -/
theorem await_safe {Q : Except AppError IRotatedTokens → TokenSnapshot ι → Prop}
    {tokenHash : String} {userId : ℕ} {initial : Option String} {wait : Bool}
    (hinit : ∀ b pair, initial = some b → decryptReplacement E b = some pair →
      Replayable E s₀ tokenHash pair w)
    (hok : ∀ pair w', Answered E s₀ i tokenHash pair w' → Q (.ok pair) w')
    (herr : ∀ e w', e.isReuse = false → Q (.error e) w') :
    TokenSafe hE req s₀ fails admits i Q
      (awaitReplacement E tokenHash userId initial wait >>= fun replay =>
        match replay with
        | some pair => return pair
        | none => .raise (.unauthorized "Refresh token already used")) w := by
  refine Safe.bind (awaitLoop_safe REPLAY_WAIT_ATTEMPTS initial hinit (fun r w₁ hr _ => ?_)
    (fun w₁ => ?_) herr)
  · cases r with
    | some pair => exact token_ret fun w₂ hl₂ _ => hok pair w₂ (.inl ((hr pair rfl).later hl₂))
    | none => exact token_raise fun w' _ _ => herr _ w' rfl
  · exact token_raise fun w' _ _ => herr _ w' rfl

theorem claimAndMint_safe {Q : Except AppError IRotatedTokens → TokenSnapshot ι → Prop}
    {tokenHash : String} {session : Session} {ipAddress userAgent : Option String}
    (hpresents : ∃ raw ip ua, req i = .rotate raw ip ua ∧ tokenHash = E.hashToken raw)
    (hown : w.own TokenMark.thread i = [])
    (hrow : ∃ row, w.state.sessions.find? tokenHash = some row ∧
      row.userId = session.userId ∧ row.tokenType = .refresh)
    (hok : ∀ pair w', Answered E s₀ i tokenHash pair w' → Q (.ok pair) w')
    (herr : ∀ e w', e.isReuse = false → Q (.error e) w') :
    TokenSafe hE req s₀ fails admits i Q
      (claimAndMint E tokenHash session ipAddress userAgent) w := by
  obtain ⟨row, hrow, huser, htype⟩ := hrow
  unfold claimAndMint
  refine token_read (fun _ => rfl) (fun w₁ hl₁ _ => ?_) herr
  refine token_write (fun w₂ hl₂ _ => ?_) herr
  obtain ⟨row₂, hrow₂, huser₂, htype₂⟩ := (hl₁.trans hl₂).rows tokenHash row hrow
  have hown₂ := hl₂.own.trans (hl₁.own.trans hown)
  refine ⟨⟨hpresents, ⟨row₂, hrow₂, htype₂.trans htype⟩, hown₂⟩, ?_⟩
  rw [count_live, hrow₂, Option.any_some]
  by_cases hrev : row₂.revoked = true
  · simp only [hrev, Bool.not_true, Bool.false_eq_true, if_false, if_true]
    exact await_safe (by simp) hok herr
  · simp only [hrev, Bool.not_false, if_true, Nat.one_ne_zero, if_false]
    refine mintReplacement_safe ?_ hok herr
    rw [Snapshot.own_after_self TokenMark.thread_of, hown₂]
    simp [TokenMark.of, hrow₂, hrev, huser₂, huser]

theorem replayOrDetectReuse_safe
    {Q : Except AppError IRotatedTokens → TokenSnapshot ι → Prop}
    {tokenHash : String} {session : Session}
    (hinit : ∀ b pair, session.replacementCiphertext = some b →
      decryptReplacement E b = some pair → Replayable E s₀ tokenHash pair w)
    (hok : ∀ pair w', Answered E s₀ i tokenHash pair w' → Q (.ok pair) w')
    (hreuse : ∀ w', .revokedAll i session.userId none ∈ w'.marks →
      Q (.error (.refreshTokenReuse session.userId)) w')
    (herr : ∀ e w', e.isReuse = false → Q (.error e) w') :
    TokenSafe hE req s₀ fails admits i Q (replayOrDetectReuse E tokenHash session) w := by
  unfold replayOrDetectReuse
  refine token_read (fun _ => rfl) (fun w₁ hl₁ _ => ?_) herr
  split
  · refine token_read (fun _ => rfl) (fun w₂ hl₂ _ => ?_) herr
    exact await_safe (fun b pair hb hd => (hinit b pair hb hd).later (hl₁.trans hl₂)) hok herr
  · refine Safe.bind (revokeAllUserTokens_safe (fun _ w₂ hm => ?_) herr)
    exact token_raise fun w₃ hl₃ _ => hreuse w₃ (hl₃.marks _ hm)

/-- The answer of a rotation is accounted for. -/
theorem rotateRefreshToken_safe
    {Q : Except AppError IRotatedTokens → TokenSnapshot ι → Prop} {rawToken : String}
    {ipAddress userAgent : Option String} (hreq : req i = .rotate rawToken ipAddress userAgent)
    (hown : w.own TokenMark.thread i = [])
    (hok : ∀ pair w', Answered E s₀ i (E.hashToken rawToken) pair w' → Q (.ok pair) w')
    (hreuse : ∀ u w', .revokedAll i u none ∈ w'.marks → Q (.error (.refreshTokenReuse u)) w')
    (herr : ∀ e w', e.isReuse = false → Q (.error e) w') :
    TokenSafe hE req s₀ fails admits i Q
      (rotateRefreshToken E rawToken ipAddress userAgent) w := by
  unfold rotateRefreshToken
  refine token_read (fun _ => rfl) (fun w₁ hl₁ _ => ?_) herr
  cases E.verify rawToken w₁.state.now with
  | none => exact token_raise fun w' _ _ => herr _ w' rfl
  | some payload =>
      dsimp only
      split
      · exact token_raise fun w' _ _ => herr _ w' rfl
      refine token_read (fun _ => rfl) (fun w₂ hl₂ hi₂ => ?_) herr
      cases hrow : w₂.state.sessions.find? (E.hashToken rawToken) with
      | none => exact token_raise fun w' _ _ => herr _ w' rfl
      | some session =>
          dsimp only
          split
          · exact token_raise fun w' _ _ => herr _ w' rfl
          next htype =>
          split
          · exact replayOrDetectReuse_safe (fun b pair => hi₂.replayable hrow) hok
              (hreuse session.userId) herr
          · refine claimAndMint_safe ⟨rawToken, _, _, hreq, rfl⟩
              (hl₂.own.trans (hl₁.own.trans hown)) ?_ hok herr
            exact ⟨session, hrow, rfl, not_not.1 htype⟩

theorem issueTokens_safe {Q : Except AppError IRotatedTokens → TokenSnapshot ι → Prop}
    {user : UserWithRoles} {ipAddress userAgent : Option String}
    (hreq : req i = .issue user ipAddress userAgent)
    (hown : w.own TokenMark.thread i = []) (hok : ∀ pair w', Q (.ok pair) w')
    (herr : ∀ e w', e.isReuse = false → Q (.error e) w') :
    TokenSafe hE req s₀ fails admits i Q (issueTokens E user ipAddress userAgent) w := by
  unfold issueTokens
  refine Safe.bind (generateToken_safe user.user.id .access
    (by decide) (fun _ => ⟨rfl, rfl, rfl⟩) ?_
    (fun w₁ n access token expiresAt hown₁ _ hat _ => ?_) herr)
  · rw [hown]
    exact ⟨by simp, .inl ⟨user, _, _, hreq, rfl⟩⟩
  rw [hown] at hown₁
  refine Safe.bind (generateToken_safe user.user.id .refresh
    (by decide) (fun _ => ⟨rfl, rfl, rfl⟩) ?_
    (fun w₂ n' refresh token' expiresAt' _ _ _ _ => ?_) herr)
  · rw [hown₁]
    exact ⟨by simp [hat], .inl ⟨user, _, _, hreq, rfl⟩⟩
  · exact token_ret fun w₃ _ _ => hok _ w₃

theorem revokeToken_safe {Q : Except AppError Bool → TokenSnapshot ι → Prop}
    {token : String} (hok : ∀ b w', Q (.ok b) w')
    (herr : ∀ e w', e.isReuse = false → Q (.error e) w') :
    TokenSafe hE req s₀ fails admits i Q (revokeToken E token) w := by
  unfold revokeToken
  refine token_read (fun _ => rfl) (fun w₁ _ _ => ?_) herr
  refine token_write (fun w₂ _ _ => ⟨trivial, ?_⟩) herr
  exact token_ret fun w₃ _ _ => hok _ w₃

/-- What the end of a request says about the run. -/
def TokenPost (E : TokenEnv) (s₀ : World) (req : ι → TokenRequest) (i : ι) :
    Except AppError TokenAnswer → TokenSnapshot ι → Prop
  | .error (.refreshTokenReuse userId), w => .revokedAll i userId none ∈ w.marks
  | .error _, _ => True
  | .ok answer, w =>
      match req i with
      | .rotate rawToken _ _ =>
          ∃ pair, answer = .pair pair ∧ Answered E s₀ i (E.hashToken rawToken) pair w
      | .revokeAll userId exceptToken =>
          .revokedAll i userId ((Js.truthy exceptToken).map E.hashToken) ∈ w.marks
      | _ => True

theorem process_safe (hown : w.own TokenMark.thread i = []) :
    TokenSafe hE req s₀ fails admits i (TokenPost E s₀ req i) ((req i).process E) w := by
  have herr : ∀ e w', e.isReuse = false → TokenPost E s₀ req i (.error e) w' := by
    intro e w' he
    cases e <;> trivial
  cases hreq : req i with
  | rotate rawToken ipAddress userAgent =>
      refine Safe.bind (rotateRefreshToken_safe hreq hown (fun pair w₁ h => ?_)
        (fun _ _ => id) herr)
      have hpost : ∀ {w₂}, Answered E s₀ i (E.hashToken rawToken) pair w₂ →
          TokenPost E s₀ req i (.ok (.pair pair)) w₂ := by
        intro w₂ h₂
        simp only [TokenPost, hreq]
        exact ⟨pair, rfl, h₂⟩
      refine token_ret fun w₂ hl₂ _ => hpost ?_
      rcases h with h | ⟨⟨u, hclaimed⟩, ⟨access, refresh, ha, hr, hrest⟩, hstored⟩
      · exact .inl (h.later hl₂)
      · refine .inr ⟨⟨u, hl₂.marks _ hclaimed⟩,
          ⟨access, refresh, hl₂.marks _ ha, hl₂.marks _ hr, hrest⟩, fun k p hm => ?_⟩
        rw [mem_own_of_thread (i := i) rfl, hl₂.own,
          ← mem_own_of_thread (i := i) rfl] at hm
        exact hstored k p hm
  | revoke token =>
      refine Safe.bind (revokeToken_safe (fun b w₁ => ?_) herr)
      exact token_ret fun w₂ _ _ => by simp [TokenPost, hreq]
  | revokeAll userId exceptToken =>
      refine Safe.bind (revokeAllUserTokens_safe (fun n w₁ h => ?_) herr)
      refine token_ret fun w₂ hl₂ _ => ?_
      simp only [TokenPost, hreq]
      exact hl₂.marks _ h
  | issue user ipAddress userAgent =>
      refine Safe.bind (issueTokens_safe hreq hown (fun p w₁ => ?_) herr)
      exact token_ret fun w₂ _ _ => by simp [TokenPost, hreq]

end Rules

/-- A pool of requests that has not started yet. -/
def tokenPool {ι : Type*} (E : TokenEnv) (s₀ : World) (req : ι → TokenRequest) :
    Config ι World TokenCall AppError TokenAnswer (TokenMark ι) :=
  Config.init s₀ fun i => (req i).process E

/-- Every pool of requests follows the protocol. -/
theorem tokenPool_sound {ι : Type*} [DecidableEq ι] {E : TokenEnv} (hE : E.Lawful)
    {s₀ : World} (hfresh : FreshIds E s₀) (req : ι → TokenRequest)
    (fails : TokenCall → Prop) (admits : ι → TokenCall → TokenSnapshot ι → Prop) :
    Sound (tokenProtocol hE req s₀ fails admits).contract (TokenPost E s₀ req)
      (tokenPool E s₀ req) :=
  ⟨TokenInv.init hfresh, fun _ => process_safe rfl⟩

end FifiAlert
