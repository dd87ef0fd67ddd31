import FifiAlert.Auth.TokenService
import FifiAlert.Concurrency.Protocol
import Mathlib.Data.Rat.Encodable
import Mathlib.Logic.Equiv.List

/-!
# The calls of the token service as a protocol

The token service seen from the session table: which calls it makes, and when.
A thread claims the row of the token it presents, at most once; it inserts rows
for the user whose row it claimed, one of each type; it writes the pair it
minted on the row it claimed; and it never unrevokes a row. The marks record who
drew which id, claimed which row, inserted which row and stored which pair.

`TokenInv` is what every run keeps: ids still to be drawn occur in no row, no
two threads draw the same id, and every stored blob is the encryption of a pair
that some thread stored on that row, or was there at the start.
-/

namespace FifiAlert

open Concurrency Store

/-- What the cryptography is relied on for: different tokens have different
hashes, different ids make different tokens, and decryption inverts
encryption. -/
structure TokenEnv.Lawful (E : TokenEnv) : Prop where
  hashToken_injective : Function.Injective E.hashToken
  jti_of_sign : ∀ {p p' e e' t t'}, E.sign p e t = E.sign p' e' t' → p.jti = p'.jti
  decrypt_encrypt : ∀ iv pair, TokenService.decryptReplacement E
    (TokenService.encryptReplacement E iv pair) = some pair

section PlainEnv

/-- A string as the list of its code points. -/
def codePoints (s : String) : List ℕ := s.toList.map Char.toNat

def ofCodePoints (cs : List ℕ) : String := String.ofList (cs.map Char.ofNat)

theorem ofCodePoints_codePoints (s : String) : ofCodePoints (codePoints s) = s := by
  have hchar : Char.ofNat ∘ Char.toNat = id := funext Char.ofNat_toNat
  simp [ofCodePoints, codePoints, hchar]

/-- A number in unary. -/
def tally (n : ℕ) : String := String.ofList (List.replicate n '1')

theorem length_tally (n : ℕ) : (tally n).length = n := by
  simp [tally]

theorem tally_injective : Function.Injective tally := by
  intro m n h
  rw [← length_tally m, h, length_tally]

/-- An environment without secrets that meets the assumptions: the hash is the
identity, a token is its id in unary, every string verifies as a refresh token
of user 1, and a blob is the pair in clear as one number. -/
def plainEnv : TokenEnv where
  hashToken := id
  sign := fun p _ _ => tally p.jti
  verify := fun _ _ => some
    { sub := 1, email := "", roles := [], gates := [], type := .refresh, jti := 0 }
  gcmSeal := fun _ v => match v with
    | .obj [(_, .num u), (_, .str a), (_, .str ax), (_, .str r), (_, .str rx)] =>
        tally (Encodable.encode
          (u, codePoints a, codePoints ax, codePoints r, codePoints rx))
    | _ => ""
  gcmOpen := fun blob =>
    (Encodable.decode blob.length :
      Option (ℚ × List ℕ × List ℕ × List ℕ × List ℕ)).map fun (u, a, ax, r, rx) => .obj
        [("userId", .num u), ("accessToken", .str (ofCodePoints a)),
          ("accessExpiresAt", .str (ofCodePoints ax)),
          ("refreshToken", .str (ofCodePoints r)),
          ("refreshExpiresAt", .str (ofCodePoints rx))]
  toISOString := fun t => tally (Encodable.encode t)
  newDate := fun s => (Encodable.decode s.length).getD 0

theorem plainEnv_newDate (t : Time) : plainEnv.newDate (plainEnv.toISOString t) = t := by
  simp only [plainEnv, length_tally, Encodable.encodek, Option.getD_some]

/-- The fields of a replacement pair. -/
def pairJson (u : ℚ) (a ax r rx : String) : Js.Json :=
  .obj [("userId", .num u), ("accessToken", .str a), ("accessExpiresAt", .str ax),
    ("refreshToken", .str r), ("refreshExpiresAt", .str rx)]

theorem plainEnv_gcmOpen (iv : ℕ) (u : ℚ) (a ax r rx : String) :
    plainEnv.gcmOpen (plainEnv.gcmSeal iv (pairJson u a ax r rx)) =
      some (pairJson u a ax r rx) := by
  simp only [pairJson, plainEnv, length_tally, Encodable.encodek, Option.map_some,
    ofCodePoints_codePoints]

/-- A pair comes back from its blob when its fields and its dates do. -/
theorem TokenEnv.decrypt_encrypt_of {E : TokenEnv} {iv : ℕ} {pair : IRotatedTokens}
    (hdate : ∀ t, E.newDate (E.toISOString t) = t)
    (hopen : ∀ u a ax r rx,
      E.gcmOpen (E.gcmSeal iv (pairJson u a ax r rx)) = some (pairJson u a ax r rx)) :
    TokenService.decryptReplacement E (TokenService.encryptReplacement E iv pair) = some pair := by
  unfold pairJson at hopen
  simp [TokenService.decryptReplacement, TokenService.encryptReplacement, hopen, Js.Json.get?,
    List.lookup_cons, hdate]

theorem plainEnv_lawful : plainEnv.Lawful where
  hashToken_injective := Function.injective_id
  jti_of_sign := fun h => tally_injective h
  decrypt_encrypt := fun iv _ =>
    TokenEnv.decrypt_encrypt_of plainEnv_newDate (plainEnv_gcmOpen iv)

/-- One user with one live refresh token. -/
def plainWorld : World where
  users := Table.empty.insertNew { id := 1, email := "" }
  sessions := Table.empty.insertNew
    { token := "R", tokenType := .refresh, userId := 1, expiresAt := 0 }

theorem find?_plainWorld {k : String} {row : Session}
    (h : plainWorld.sessions.find? k = some row) :
    k = "R" ∧ row = { token := "R", tokenType := .refresh, userId := 1, expiresAt := 0 } := by
  rcases Table.find?_of_insertNew h with h | ⟨-, hk, hrow⟩
  · cases h
  · exact ⟨hk.symm, hrow⟩

theorem tally_ne (n : ℕ) : tally n ≠ "R" := by
  intro h
  obtain rfl : n = 1 := (length_tally n).symm.trans (congrArg String.length h)
  exact absurd h (by decide)

end PlainEnv

/-- What a client asks of the service. -/
inductive TokenRequest where
  | rotate (rawToken : String) (ipAddress userAgent : Option String)
  | revoke (token : String)
  | revokeAll (userId : ℕ) (exceptToken : Option String)
  | issue (user : UserWithRoles) (ipAddress userAgent : Option String)

inductive TokenAnswer where
  | pair (p : IRotatedTokens)
  | revoked (done : Bool)
  | count (n : ℕ)
  deriving DecidableEq

/-- The process that serves a request. -/
def TokenRequest.process (E : TokenEnv) : TokenRequest → TokenProcess TokenAnswer
  | rotate rawToken ipAddress userAgent =>
      return .pair (← TokenService.rotateRefreshToken E rawToken ipAddress userAgent)
  | revoke token => return .revoked (← TokenService.revokeToken E token)
  | revokeAll userId exceptToken =>
      return .count (← TokenService.revokeAllUserTokens E userId exceptToken)
  | issue user ipAddress userAgent =>
      return .pair (← TokenService.issueTokens E user ipAddress userAgent)

/-- The notable calls of a run. -/
inductive TokenMark (ι : Type*) where
  | drew (i : ι) (jti : ℕ)
  | claimed (i : ι) (token : String) (userId : ℕ)
  | orphaned (i : ι)
  | created (i : ι) (row : Session)
  | stored (i : ι) (token : String) (pair : IRotatedTokens)
  | revokedAll (i : ι) (userId : ℕ) (exceptHash : Option String)
  deriving DecidableEq

namespace TokenMark

variable {ι : Type*}

def thread : TokenMark ι → ι
  | drew i _ => i
  | claimed i _ _ => i
  | orphaned i => i
  | created i _ => i
  | stored i _ _ => i
  | revokedAll i _ _ => i

/-- The mark of a call, from the state in which it is made. A claim is marked
when it finds the row unrevoked, an insertion when the token is new, and the
read of the user when there is no such user any more. -/
def of (i : ι) : TokenCall → World → Option (TokenMark ι)
  | .randomUUID, w => some (drew i w.nextUUID)
  | .userFindUnique id, w =>
      if (w.users.find? id).isNone then some (orphaned i) else none
  | .sessionClaim token _, w =>
      (w.sessions.find? token).bind fun row =>
        if row.revoked then none else some (claimed i token row.userId)
  | .sessionCreate row, w =>
      if (w.sessions.find? row.token).isNone then some (created i row) else none
  | .sessionStoreReplacement token pair _, w =>
      (w.sessions.find? token).map fun _ => stored i token pair
  | .sessionRevokeAll userId exceptHash _, _ => some (revokedAll i userId exceptHash)
  | _, _ => none

theorem thread_of (i : ι) (l : TokenCall) (w : World) (m : TokenMark ι)
    (h : of i l w = some m) : m.thread = i := by
  cases l with
  | sessionClaim token date =>
      obtain ⟨row, -, hm⟩ := Option.bind_eq_some_iff.1 h
      by_cases hr : row.revoked = true
      · simp [hr] at hm
      · simp only [hr, Bool.false_eq_true, if_false, Option.some.injEq] at hm
        exact hm ▸ rfl
  | sessionStoreReplacement token pair blob =>
      obtain ⟨row, -, hm⟩ := Option.map_eq_some_iff.1 h
      exact hm ▸ rfl
  | userFindUnique id =>
      simp only [of, Option.ite_none_right_eq_some, Option.some.injEq] at h
      exact h.2 ▸ rfl
  | sessionCreate row =>
      simp only [of, Option.ite_none_right_eq_some, Option.some.injEq] at h
      exact h.2 ▸ rfl
  | randomUUID => exact Option.some.inj h ▸ rfl
  | sessionRevokeAll userId exceptHash date => exact Option.some.inj h ▸ rfl
  | _ => cases h

section Inversion

variable {i j : ι} {l : TokenCall} {w : World}

theorem of_eq_drew {n : ℕ} (h : of i l w = some (drew j n)) :
    i = j ∧ l = .randomUUID ∧ n = w.nextUUID := by
  have hij := thread_of i l w _ h
  cases l with
  | randomUUID =>
      simp only [of, Option.some.injEq, drew.injEq] at h
      exact ⟨h.1, rfl, h.2.symm⟩
  | sessionClaim token date => simp [of, Option.bind_eq_some_iff] at h
  | _ => simp [of] at h

theorem of_eq_claimed {k : String} {u : ℕ} (h : of i l w = some (claimed j k u)) :
    i = j ∧ (∃ date, l = .sessionClaim k date) ∧
      ∃ row, w.sessions.find? k = some row ∧ row.revoked = false ∧ row.userId = u := by
  cases l with
  | sessionClaim token date =>
      obtain ⟨row, hrow, hm⟩ := Option.bind_eq_some_iff.1 h
      by_cases hr : row.revoked = true
      · simp [hr] at hm
      · simp only [hr, Bool.false_eq_true, if_false, Option.some.injEq, claimed.injEq] at hm
        obtain ⟨rfl, rfl, rfl⟩ := hm
        exact ⟨rfl, ⟨date, rfl⟩, row, hrow, by simpa using hr, rfl⟩
  | _ => simp [of] at h

theorem of_eq_created {row : Session} (h : of i l w = some (created j row)) :
    i = j ∧ l = .sessionCreate row ∧ w.sessions.find? row.token = none := by
  cases l with
  | sessionCreate row' =>
      simp only [of, Option.ite_none_right_eq_some, Option.some.injEq, created.injEq,
        Option.isNone_iff_eq_none] at h
      obtain ⟨hnone, rfl, rfl⟩ := h
      exact ⟨rfl, rfl, hnone⟩
  | sessionClaim token date => simp [of, Option.bind_eq_some_iff] at h
  | _ => simp [of] at h

theorem of_eq_stored {k : String} {p : IRotatedTokens}
    (h : of i l w = some (stored j k p)) :
    i = j ∧ ∃ blob, l = .sessionStoreReplacement k p blob := by
  cases l with
  | sessionStoreReplacement token pair blob =>
      obtain ⟨row, -, hm⟩ := Option.map_eq_some_iff.1 h
      simp only [stored.injEq] at hm
      obtain ⟨rfl, rfl, rfl⟩ := hm
      exact ⟨rfl, blob, rfl⟩
  | sessionClaim token date => simp [of, Option.bind_eq_some_iff] at h
  | _ => simp [of] at h

theorem of_eq_revokedAll {u : ℕ} {k : Option String}
    (h : of i l w = some (revokedAll j u k)) :
    i = j ∧ ∃ date, l = .sessionRevokeAll u k date := by
  cases l with
  | sessionRevokeAll userId exceptHash date =>
      simp only [of, Option.some.injEq, revokedAll.injEq] at h
      obtain ⟨rfl, rfl, rfl⟩ := h
      exact ⟨rfl, date, rfl⟩
  | sessionClaim token date => simp [of, Option.bind_eq_some_iff] at h
  | _ => simp [of] at h

end Inversion

end TokenMark

/-- The surroundings of the token service: others may move the clock and change
users and roles, but only the service touches the session table and draws ids. -/
def tokenSetting {ι : Type*} (fails : TokenCall → Prop)
    (admits : ι → TokenCall → Snapshot World (TokenMark ι) → Prop) :
    Setting ι World TokenCall (TokenMark ι) where
  mark := TokenMark.of
  env := fun w w' => w'.sessions = w.sessions ∧ w'.nextUUID = w.nextUUID
  mayFail := fails
  admits := admits

namespace TokenCall

/-- What a call does to the row it finds under a key; only an insertion adds
rows. -/
def onRow : TokenCall → Session → Session
  | sessionClaim token date, s => if Session.live token s then Session.revoke date s else s
  | sessionRevoke token date, s => if Session.live token s then Session.revoke date s else s
  | sessionUnrevoke token expiresAt ipAddress userAgent, s =>
      if s.token = token then { s with expiresAt, ipAddress, userAgent, revoked := false }
      else s
  | sessionStoreReplacement token _ blob, s =>
      if s.token = token then { s with replacementCiphertext := some blob } else s
  | sessionDropReplacements userId, s =>
      if s.userId = userId && s.replacementCiphertext.isSome then
        { s with replacementCiphertext := none }
      else s
  | sessionRevokeAll userId exceptHash date, s =>
      if Session.liveOf userId exceptHash s then Session.revoke date s else s
  | _, s => s

theorem find?_effect {l : TokenCall} (hl : ∀ row, l ≠ sessionCreate row) (w : World)
    (k : String) : (l.effect w).sessions.find? k = (w.sessions.find? k).map l.onRow := by
  cases l with
  | sessionCreate row => exact (hl row rfl).elim
  | _ => cases h : w.sessions.find? k <;> simp [effect, onRow, h]

section OnRow

variable (l : TokenCall) (s : Session)

@[simp] theorem token_onRow : (l.onRow s).token = s.token := by
  cases l <;> simp only [onRow] <;> split <;> rfl

@[simp] theorem userId_onRow : (l.onRow s).userId = s.userId := by
  cases l <;> simp only [onRow] <;> split <;> rfl

@[simp] theorem tokenType_onRow : (l.onRow s).tokenType = s.tokenType := by
  cases l <;> simp only [onRow] <;> split <;> rfl

variable {l s}

/-- Only the branch for a duplicate token ever unrevokes a row. -/
theorem revoked_onRow (hl : ∀ k e ip ua, l ≠ sessionUnrevoke k e ip ua)
    (h : s.revoked = true) : (l.onRow s).revoked = true := by
  cases l with
  | sessionUnrevoke k e ip ua => exact (hl k e ip ua rfl).elim
  | _ =>
      simp only [onRow]
      first
        | exact h
        | (split <;> first | exact h | rfl)

/-- A blob on a row was there before, or is written by this call. -/
theorem replacement_onRow {b : String} (h : (l.onRow s).replacementCiphertext = some b) :
    s.replacementCiphertext = some b ∨
      ∃ pair, l = sessionStoreReplacement s.token pair b := by
  cases l with
  | sessionStoreReplacement token pair blob =>
      simp only [onRow] at h
      split at h
      next ht =>
          obtain rfl : blob = b := Option.some.inj h
          exact .inr ⟨pair, by rw [ht]⟩
      next => exact .inl h
  | sessionDropReplacements userId =>
      simp only [onRow] at h
      split at h
      next => cases h
      next => exact .inl h
  | _ =>
      refine .inl ?_
      simp only [onRow] at h
      first
        | exact h
        | (split at h <;> exact h)

end OnRow

theorem find?_create (row : Session) (w : World) (h : w.sessions.find? row.token = none)
    (k : String) : ((sessionCreate row).effect w).sessions.find? k =
      if row.token = k then some row else w.sessions.find? k :=
  Table.find?_insertNew h k

end TokenCall

abbrev TokenSnapshot (ι : Type*) := Snapshot World (TokenMark ι)

/-- Ids still to be drawn occur in no row. -/
def FreshIds (E : TokenEnv) (w : World) : Prop :=
  ∀ p e t, w.nextUUID ≤ p.jti → w.sessions.find? (E.hashToken (E.sign p e t)) = none

/-- Thread `i` inserted the rows of the pair. -/
def Minted {ι : Type*} (E : TokenEnv) (i : ι) (pair : IRotatedTokens)
    (w : TokenSnapshot ι) : Prop :=
  ∃ access refresh : Session, .created i access ∈ w.marks ∧ .created i refresh ∈ w.marks ∧
    access.token = E.hashToken pair.accessToken ∧ access.tokenType = .access ∧
    refresh.token = E.hashToken pair.refreshToken ∧ refresh.tokenType = .refresh

/-- Thread `i` has claimed a row of the user and has neither inserted its refresh
row yet nor found that the user is gone. -/
def InWindow {ι : Type*} (i : ι) (userId : ℕ) (w : TokenSnapshot ι) : Prop :=
  (∃ k, .claimed i k userId ∈ w.marks) ∧ .orphaned i ∉ w.marks ∧
    ∀ row, .created i row ∈ w.marks → row.tokenType ≠ .refresh

/-- When a row may be inserted: its token was signed with an id the thread drew
and is new, it is the first of its type by this thread, and the thread serves a
login or stands in the window of a rotation for the owner of the row. -/
structure MayCreate {ι : Type*} (E : TokenEnv) (req : ι → TokenRequest) (i : ι)
    (row : Session) (w : TokenSnapshot ι) : Prop where
  new : w.state.sessions.find? row.token = none
  unrevoked : row.revoked = false
  noPair : row.replacementCiphertext = none
  signed : ∃ p e t, row.token = E.hashToken (E.sign p e t) ∧ .drew i p.jti ∈ w.marks
  first : ∀ row', .created i row' ∈ w.marks → row'.tokenType ≠ row.tokenType
  owner : (∃ user ip ua, req i = .issue user ip ua ∧ user.user.id = row.userId) ∨
    InWindow i row.userId w

/-- When a rotation may claim a row: it presents the token of the row, which is
a refresh row, and this is the first notable call of the thread. -/
structure MayClaim {ι : Type*} [DecidableEq ι] (E : TokenEnv) (req : ι → TokenRequest)
    (i : ι) (token : String) (w : TokenSnapshot ι) : Prop where
  presents : ∃ raw ip ua, req i = .rotate raw ip ua ∧ token = E.hashToken raw
  refresh : ∃ row, w.state.sessions.find? token = some row ∧ row.tokenType = .refresh
  first : w.own TokenMark.thread i = []

/-- When a pair may be remembered on a row: the thread claimed the row, minted
the pair and has stored no pair before. -/
structure MayStore {ι : Type*} (E : TokenEnv) (i : ι) (token : String)
    (pair : IRotatedTokens) (blob : String) (w : TokenSnapshot ι) : Prop where
  decrypts : TokenService.decryptReplacement E blob = some pair
  claimed : ∃ u, .claimed i token u ∈ w.marks
  minted : Minted E i pair w
  first : ∀ k p, .stored i k p ∉ w.marks

/-- When the code makes each of its calls. -/
def TokenPermits {ι : Type*} [DecidableEq ι] (E : TokenEnv) (req : ι → TokenRequest) (i : ι) :
    TokenCall → TokenSnapshot ι → Prop
  | .sessionClaim token _, w => MayClaim E req i token w
  | .sessionCreate row, w => MayCreate E req i row w
  | .sessionUnrevoke _ _ _ _, _ => False
  | .sessionStoreReplacement token pair blob, w => MayStore E i token pair blob w
  | _, _ => True

/-- What every run keeps, from the state `s₀` on. -/
structure TokenInv {ι : Type*} (E : TokenEnv) (s₀ : World) (w : TokenSnapshot ι) : Prop where
  fresh : FreshIds E w.state
  drawn : ∀ i n, .drew i n ∈ w.marks → n < w.state.nextUUID
  drewOnce : ∀ i j n, .drew i n ∈ w.marks → .drew j n ∈ w.marks → i = j
  blob : ∀ k row b, w.state.sessions.find? k = some row →
    row.replacementCiphertext = some b →
      (∃ i pair, .stored i k pair ∈ w.marks ∧
        TokenService.decryptReplacement E b = some pair) ∨
      ∃ row₀, s₀.sessions.find? k = some row₀ ∧ row₀.replacementCiphertext = some b

theorem freshIds_plainWorld : FreshIds plainEnv plainWorld := by
  intro p e t _
  cases h : plainWorld.sessions.find? (plainEnv.hashToken (plainEnv.sign p e t)) with
  | none => rfl
  | some row => exact (tally_ne p.jti (find?_plainWorld h).1).elim

theorem TokenInv.init {ι : Type*} {E : TokenEnv} {s₀ : World} (h : FreshIds E s₀) :
    TokenInv E s₀ (⟨s₀, []⟩ : TokenSnapshot ι) where
  fresh := h
  drawn := by simp
  drewOnce := by simp
  blob := fun _ row _ hrow hb => .inr ⟨row, hrow, hb⟩

section Step

variable {ι : Type*} [DecidableEq ι] {E : TokenEnv} {req : ι → TokenRequest}
  {i : ι} {l : TokenCall} {w : TokenSnapshot ι}

/-- A permitted call keeps every row, its owner and its type, and a revoked row
stays revoked. -/
theorem TokenPermits.row_kept (h : TokenPermits E req i l w) {k : String} {row : Session}
    (hrow : w.state.sessions.find? k = some row) :
    ∃ row', (l.effect w.state).sessions.find? k = some row' ∧ row'.userId = row.userId ∧
      row'.tokenType = row.tokenType ∧ (row.revoked = true → row'.revoked = true) := by
  by_cases hl : ∃ new, l = .sessionCreate new
  · obtain ⟨new, rfl⟩ := hl
    exact ⟨row, Table.find?_insertNew_of_some hrow, rfl, rfl, id⟩
  · refine ⟨l.onRow row, ?_, by simp, by simp, TokenCall.revoked_onRow ?_⟩
    · rw [TokenCall.find?_effect (fun new he => hl ⟨new, he⟩), hrow, Option.map_some]
    · rintro k e ip ua rfl
      exact h

/-- A row after a permitted call was there before, or was inserted by it. -/
theorem TokenPermits.row_origin (h : TokenPermits E req i l w) {k : String} {row' : Session}
    (hrow : (l.effect w.state).sessions.find? k = some row') :
    (∃ row, w.state.sessions.find? k = some row ∧ row' = l.onRow row) ∨
      (l = .sessionCreate row' ∧ row'.token = k ∧ MayCreate E req i row' w) := by
  by_cases hl : ∃ new, l = .sessionCreate new
  · obtain ⟨new, rfl⟩ := hl
    have hmay : MayCreate E req i new w := h
    rw [TokenCall.find?_create new w.state hmay.new] at hrow
    split at hrow
    next hk =>
        obtain rfl := Option.some.inj hrow
        exact .inr ⟨rfl, hk, hmay⟩
    next => exact .inl ⟨row', hrow, rfl⟩
  · rw [TokenCall.find?_effect (fun new he => hl ⟨new, he⟩)] at hrow
    obtain ⟨row, hr, rfl⟩ := Option.map_eq_some_iff.1 hrow
    exact .inl ⟨row, hr, rfl⟩

theorem TokenCall.nextUUID_effect (l : TokenCall) (w : World) :
    w.nextUUID ≤ (l.effect w).nextUUID := by
  cases l <;> simp [TokenCall.effect]

/-- A token signed with an id that this call does not use stays unknown. -/
theorem TokenPermits.unknown_kept (h : TokenPermits E req i l w) (hE : E.Lawful)
    {p : IJwtPayload} {e : ℕ} {t : Time}
    (hnone : w.state.sessions.find? (E.hashToken (E.sign p e t)) = none)
    (hdrew : .drew i p.jti ∉ w.marks) :
    (l.effect w.state).sessions.find? (E.hashToken (E.sign p e t)) = none := by
  cases hr : (l.effect w.state).sessions.find? (E.hashToken (E.sign p e t)) with
  | none => rfl
  | some row =>
      rcases h.row_origin hr with ⟨row₀, hrow₀, -⟩ | ⟨-, htoken, hmay⟩
      · rw [hnone] at hrow₀
        cases hrow₀
      · obtain ⟨p', e', t', hsign, hdrew'⟩ := hmay.signed
        have hjti := hE.jti_of_sign (hE.hashToken_injective (hsign.symm.trans htoken))
        exact (hdrew (hjti ▸ hdrew')).elim

/-- The step lemma of the invariant. -/
theorem TokenInv.call {s₀ : World} (hE : E.Lawful) (hinv : TokenInv E s₀ w)
    (h : TokenPermits E req i l w) :
    TokenInv E s₀ (w.after TokenMark.of i l l.effect) where
  fresh := by
    intro p e t hp
    have hold : w.state.nextUUID ≤ p.jti :=
      (TokenCall.nextUUID_effect l w.state).trans hp
    refine h.unknown_kept hE (hinv.fresh p e t hold) fun hd => ?_
    exact absurd (hinv.drawn i p.jti hd) (not_lt.2 hold)
  drawn := by
    intro j n hm
    rcases Snapshot.mem_after.1 hm with hnew | hold
    · obtain ⟨-, rfl, rfl⟩ := TokenMark.of_eq_drew hnew
      exact Nat.lt_succ_self _
    · exact (hinv.drawn j n hold).trans_le (TokenCall.nextUUID_effect l w.state)
  drewOnce := by
    intro j j' n hm hm'
    rcases Snapshot.mem_after.1 hm with hnew | hold <;>
      rcases Snapshot.mem_after.1 hm' with hnew' | hold'
    · exact (TokenMark.of_eq_drew hnew).1.symm.trans (TokenMark.of_eq_drew hnew').1
    · obtain ⟨-, -, rfl⟩ := TokenMark.of_eq_drew hnew
      exact absurd (hinv.drawn j' _ hold') (lt_irrefl _)
    · obtain ⟨-, -, rfl⟩ := TokenMark.of_eq_drew hnew'
      exact absurd (hinv.drawn j _ hold) (lt_irrefl _)
    · exact hinv.drewOnce j j' n hold hold'
  blob := by
    intro k row b hrow hb
    rcases h.row_origin hrow with ⟨row₀, hrow₀, rfl⟩ | ⟨-, -, hmay⟩
    · rcases TokenCall.replacement_onRow hb with hold | ⟨pair, rfl⟩
      · rcases hinv.blob k row₀ b hrow₀ hold with ⟨j, pair, hm, hd⟩ | hinit
        · exact .inl ⟨j, pair, Snapshot.mem_after_of_mem hm, hd⟩
        · exact .inr hinit
      · have hmay : MayStore E i row₀.token pair b w := h
        have hk : row₀.token = k := Table.key_of_find? hrow₀
        refine .inl ⟨i, pair, Snapshot.mem_after.2 (.inl ?_), hmay.decrypts⟩
        simp [TokenMark.of, hk, hrow₀]
    · rw [hmay.noPair] at hb
      cases hb

end Step

/-- The token service as a protocol. -/
def tokenProtocol {ι : Type*} [DecidableEq ι] {E : TokenEnv} (hE : E.Lawful)
    (req : ι → TokenRequest) (s₀ : World) (fails : TokenCall → Prop)
    (admits : ι → TokenCall → TokenSnapshot ι → Prop) :
    Protocol (tokenSetting fails admits) where
  effect := TokenCall.effect
  permits := TokenPermits E req
  inv := TokenInv E s₀
  inv_call := fun hinv hper _ => hinv.call hE hper
  inv_env := by
    rintro s s' m ⟨hs, hu⟩ hinv
    exact
      { fresh := fun p e t hp => hs ▸ hinv.fresh p e t (hu ▸ hp)
        drawn := fun i n hm => hu ▸ hinv.drawn i n hm
        drewOnce := hinv.drewOnce
        blob := fun k row b hrow => hinv.blob k row b (hs ▸ hrow) }

end FifiAlert
