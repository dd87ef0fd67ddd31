import FifiAlert.User.AccountedCalls

/-!
# What the verified flag says

Whoever is verified has an address that somebody vouched for: a link that was
mailed to it, a trusted provider, an administrator or a manager. This holds in
every interleaving of the flows that write an address or the flag, but for one of
them: the update of a user by themselves may replace the address of a verified
row, and leaves the flag.
-/

namespace FifiAlert

open Concurrency Store

section Run

variable {ι : Type*} {A : AccountEnv} {T : TokenContents} {s₀ : World} {req : ι → AccountRequest}
  {fails : AccountCall → Prop}

/-- A pool of requests that has not started yet. -/
def accountPool (A : AccountEnv) (s₀ : World) (req : ι → AccountRequest) :
    Config ι World AccountCall AppError Unit AddressMark :=
  Config.init s₀ fun i => (req i).process A

/-- Every verified user has an address that was vouched for, and nobody replaced the address of
one otherwise. -/
def AddressesVouched (w : AddressSnapshot) : Prop :=
  (∀ id email, w.state.address id = some (email, true) → AddressSnapshot.Vouched w id email) ∧
    ∀ id, AddressMark.replaced id ∉ w.marks

/-- A call that is accounted for keeps the flags in step with the addresses. -/
theorem AddressesVouched.call {request : AccountRequest} {w : AddressSnapshot} {l : AccountCall}
    {next : World → World} (hw : AddressesVouched w) (hcall : AccountedCall A T request l next)
    (hkept : AddressKept A.user request l w) {mark : ι → AccountCall → World → Option AddressMark}
    {i : ι} (hmark : mark i = AddressMark.of A T request) :
    AddressesVouched (w.after mark i l next) := by
  obtain ⟨hvouched, hreplaced⟩ := hcall w hkept
  rw [← hmark] at hvouched hreplaced
  constructor
  · intro id email hemail
    rcases hvouched id email hemail with hold | ⟨voucher, userIds, hnew, hmem⟩
    · obtain ⟨voucher, userIds, hm, hmem⟩ := hw.1 id email hold
      exact ⟨voucher, userIds, Snapshot.mem_after_of_mem hm, hmem⟩
    · exact ⟨voucher, userIds, Snapshot.mem_after.2 (.inl hnew), hmem⟩
  · intro id hm
    rcases Snapshot.mem_after.1 hm with hnew | hold
    · exact hreplaced id hnew
    · exact hw.2 id hold

variable [DecidableEq ι]

theorem addressesVouched_of_reaches (hconfigured : AsConfigured A T)
    (hnested : ∀ id relations w w', A.nested id relations w = .ok w' → SameAddresses w w')
    (hs₀ : ∀ id email, s₀.address id ≠ some (email, true))
    {c : Config ι World AccountCall AppError Unit AddressMark}
    (h : Reaches (accountSetting A T req fails fun i => AddressKept A.user (req i))
      (accountPool A s₀ req) c) : AddressesVouched c.toSnapshot := by
  refine Reaches.confined (P := fun i => AccountedCall A T (req i)) (R := fun _ _ => True)
    (fun i l next w hcall hkept hw => ?_) ?_
    (fun i => AccountRequest.process_accounted hconfigured hnested (req i)) h ?_
  · exact AddressesVouched.call hw hcall hkept rfl
  · rintro w w' marks henv ⟨hvouched, hreplaced⟩
    refine ⟨fun id email hemail => ?_, hreplaced⟩
    rcases henv id with hsame | hgone
    · exact hvouched id email (hsame.symm.trans hemail)
    · rw [hgone] at hemail
      cases hemail
  · exact ⟨fun id email hemail => (hs₀ id email hemail).elim, nofun⟩

/-- Of any number of signups, creations by administrators, updates, social sign-ins, changes of an
address, opened links, bans and unbans, in any interleaving: whoever is verified has an address
that a link, a provider or a manager vouched for, and no user gave themselves another one, when no
update by a user names another address for a verified row. -/
theorem verifiedAddress_vouched (hconfigured : AsConfigured A T)
    (hnested : ∀ id relations w w', A.nested id relations w = .ok w' → SameAddresses w w')
    (hs₀ : ∀ id email, s₀.address id ≠ some (email, true))
    {c : Config ι World AccountCall AppError Unit AddressMark}
    (h : Reaches (accountSetting A T req fails fun i => AddressKept A.user (req i))
      (accountPool A s₀ req) c) :
    (∀ user ∈ c.state.users.rows, user.emailVerified = true →
      ∃ voucher userIds, .vouched voucher user.email userIds ∈ c.marks ∧ user.id ∈ userIds) ∧
      ∀ id, .replaced id ∉ c.marks := by
  obtain ⟨hvouched, hreplaced⟩ := addressesVouched_of_reaches hconfigured hnested hs₀ h
  refine ⟨fun user huser hverified => hvouched user.id user.email ?_, hreplaced⟩
  rw [World.address, Table.find?_of_mem huser, Option.map_some, hverified]

end Run

section Witness

/-- A user with the smallest id above all others, who is not verified. -/
def plainSignUpEmail (body : SignUpEmailBody) (w : World) :
    Except AppError (Option SignedUpUser) × World :=
  let id := (w.users.rows.map User.id).foldr max 0 + 1
  if w.users.rows.any fun user => user.email = body.email then
    (.error (.error "User already exists"), w)
  else
    (.ok (some { id, email := body.email, name := body.name }),
      { w with
        users := w.users.insertNew
          { id, name := body.name, email := body.email, image := body.image } })

def User.verify (user : User) : User := { user with emailVerified := true }

theorem User.verify_id (user : User) : user.verify.id = user.id := rfl

/-- The token of a link is the address that it was mailed to. -/
def plainVerifyEmail (token : String) (w : World) : Except AppError Unit × World :=
  (.ok (), { w with
    users := w.users.updateMany (fun user => user.email = token) User.verify User.verify_id })

/-- Addresses are in lower case already, and nobody signs in with a provider. -/
def plainAccountEnv : AccountEnv where
  token := plainEnv
  user := plainUserEnv
  betterAuth :=
    { signedOut := fun _ _ => false
      resetPassword := fun _ _ w => (.error (.error "INVALID_TOKEN"), w)
      getSession := fun _ w => (.ok none, w)
      signInEmail := fun _ _ w => (.error (.error "INVALID_EMAIL_OR_PASSWORD"), w)
      signInSocial := fun _ w => (.error (.error "provider not found"), w)
      sendVerificationEmail := fun _ w => (.ok (), w) }
  verifyPassword := fun _ _ => false
  toLowerCase := id
  isSocialProviderConfigured := fun _ => false
  passkeyConfig := { enabled := false, rpId := "", origins := [] }
  verifyAuthenticationResponse := fun _ _ _ _ => .error (.error "not configured")
  nested := fun _ _ w => .ok w
  dateValue := fun date => .num (date.getD 0)
  signUpEmail := plainSignUpEmail
  changeEmail := fun _ _ w => (.ok (), w)
  verifyEmail := plainVerifyEmail
  sessionToken := fun bytes => toString bytes
  buildSessionCookie := id

def plainContents : TokenContents where
  link := fun token _ => some (.verifyEmail token)
  profile := fun _ => none

theorem plainSignUpEmail_address (body : SignUpEmailBody) (w : World) (id : ℕ) :
    (plainSignUpEmail body w).2.address id = w.address id ∨
      (plainSignUpEmail body w).2.address id = some (body.email, false) := by
  unfold plainSignUpEmail
  by_cases htaken : (w.users.rows.any fun user => user.email = body.email) = true
  · exact .inl (by simp only [htaken, if_true])
  simp only [htaken, Bool.false_eq_true, if_false, World.address]
  cases hfound : w.users.find? ((w.users.rows.map User.id).foldr max 0 + 1) with
  | some user => exact .inl (by rw [Table.insertNew_of_some hfound])
  | none =>
      rw [Table.find?_insertNew hfound]
      by_cases hid : (w.users.rows.map User.id).foldr max 0 + 1 = id
      · exact .inr (by rw [if_pos hid]; rfl)
      · exact .inl (by rw [if_neg hid])

theorem plainVerifyEmail_address (token : String) (w : World) (id : ℕ) :
    (plainVerifyEmail token w).2.address id = w.address id ∨
      (EmailLink.verifyEmail token).Opens (w.address id)
        ((plainVerifyEmail token w).2.address id) := by
  unfold plainVerifyEmail World.address
  rw [Table.find?_updateMany]
  cases w.users.find? id with
  | none => exact .inl rfl
  | some user =>
      by_cases hemail : user.email = token
      · subst hemail
        exact .inr (by simpa [User.verify] using EmailLink.Opens.verifyEmail user.email _)
      · exact .inl (by simp [hemail])

theorem plainAccountEnv_asConfigured : AsConfigured plainAccountEnv plainContents where
  signUpEmail := plainSignUpEmail_address
  changeEmail := fun _ _ _ _ => .inl rfl
  verifyEmail := fun token w id =>
    (plainVerifyEmail_address token w id).imp_right fun h => ⟨.verifyEmail token, rfl, h⟩
  signInSocial := fun _ _ _ => .inl rfl
  getSession := fun _ _ _ => rfl
  sendVerificationEmail := fun _ _ _ => rfl
  socialProviders := nofun

/-- Nobody has signed up, and there is a role for those who will. -/
def rolesWorld : World where
  roles := Table.empty.insertNew { id := 1, slug := "user", level := 1 }

/-- A user signs up, opens the link, and updates themselves. -/
def signupAndUpdate (body : List (String × Js.Json)) : Fin 3 → AccountRequest
  | 0 => .signup { firstName := "Eva", lastName := "M", email := "a@b.c", password := "1234" }
  | 1 => .verifyEmail "a@b.c"
  | 2 => .update 1 body { userId := some 1, roles := [some "user"] }

def signupPool (body : List (String × Js.Json)) :
    Config (Fin 3) World AccountCall AppError Unit AddressMark :=
  accountPool plainAccountEnv rolesWorld (signupAndUpdate body)

/-- The three of them, one after the other. -/
def signedUpAndUpdated (body : List (String × Js.Json)) :
    Config (Fin 3) World AccountCall AppError Unit AddressMark :=
  (signupPool body).schedule
    (fun i => AddressMark.of plainAccountEnv plainContents (signupAndUpdate body i))
    [0, 0, 0, 0, 0, 0, 0, 1, 2, 2]

/-- The call does not write an address. -/
def namesNoAddress : AccountCall → Bool
  | .auth (.user (.userUpdate _ data)) => (data.lookup "email").isNone
  | _ => true

theorem AddressKept.of_namesNoAddress {E : UserEnv} {request : AccountRequest} {l : AccountCall}
    {w : AddressSnapshot} (h : namesNoAddress l = true) : AddressKept E request l w := by
  unfold AddressKept
  split
  next id data =>
      refine .inr ?_
      rintro ⟨email, v, newEmail, u, -, hlookup, -⟩
      have hnone : data.lookup "email" = none := Option.isNone_iff_eq_none.1 h
      rw [hnone] at hlookup
      cases hlookup
  · trivial

/-- A user who has verified their address changes their name. -/
theorem verifiedAddress_vouched_name :
    let c := signedUpAndUpdated [("firstName", .str "Evi")]
    c.state.address 1 = some ("a@b.c", true) ∧
      (∀ user ∈ c.state.users.rows, user.emailVerified = true →
        ∃ voucher userIds, .vouched voucher user.email userIds ∈ c.marks ∧ user.id ∈ userIds) ∧
      ∀ id, .replaced id ∉ c.marks := by
  intro c
  have hrun : (signupPool [("firstName", .str "Evi")]).scheduleOk
      (fun i => AddressMark.of plainAccountEnv plainContents
        (signupAndUpdate [("firstName", .str "Evi")] i))
      (fun _ l _ => namesNoAddress l) [0, 0, 0, 0, 0, 0, 0, 1, 2, 2] = true := by
    decide +kernel
  refine ⟨by decide +kernel, verifiedAddress_vouched plainAccountEnv_asConfigured ?_ ?_
    (Reaches.scheduleOk
      (S := accountSetting plainAccountEnv plainContents
        (signupAndUpdate [("firstName", .str "Evi")]) (fun _ => False)
        fun i => AddressKept plainUserEnv (signupAndUpdate [("firstName", .str "Evi")] i))
      (fun _ l _ => namesNoAddress l) (fun _ _ _ => AddressKept.of_namesNoAddress) hrun)⟩
  · intro id relations w w' h
    obtain rfl := Except.ok.inj h
    exact fun _ => rfl
  · exact nofun

end Witness

section Replaced

/-- A user who has verified their address gives themselves another one, and stays verified. -/
theorem update_replaces_verifiedAddress :
    let req := signupAndUpdate [("email", .str "x@y.z")]
    AsConfigured plainAccountEnv plainContents ∧ (∀ i, (req i).manages = false) ∧
      ∃ c, Reaches (accountSetting plainAccountEnv plainContents req (fun _ => False)
          fun _ _ _ => True)
          (accountPool plainAccountEnv rolesWorld req) c ∧
        (∀ i, c.pool i = .ret ()) ∧
        (∃ user ∈ c.state.users.rows, user.id = 1 ∧ user.emailVerified = true ∧
          ∀ voucher userIds, .vouched voucher user.email userIds ∉ c.marks) ∧
        .replaced 1 ∈ c.marks := by
  intro req
  refine ⟨plainAccountEnv_asConfigured, ?_, signedUpAndUpdated [("email", .str "x@y.z")],
    Reaches.schedule (fun _ _ _ => trivial) _ _, ?_, ?_, ?_⟩
  · exact fun
      | 0 => rfl
      | 1 => rfl
      | 2 => rfl
  · exact fun
      | 0 => Process.eq_ret_of_result? (by decide +kernel)
      | 1 => Process.eq_ret_of_result? (by decide +kernel)
      | 2 => Process.eq_ret_of_result? (by decide +kernel)
  · have haddress : (signedUpAndUpdated [("email", .str "x@y.z")]).state.address 1 =
        some ("x@y.z", true) := by decide +kernel
    have hmarks : (signedUpAndUpdated [("email", .str "x@y.z")]).marks =
        [.replaced 1, .vouched .verificationLink "a@b.c" [1]] := by decide +kernel
    obtain ⟨user, hrow, hpair⟩ := Option.map_eq_some_iff.1 haddress
    obtain ⟨hemail, hverified⟩ := Prod.mk.inj hpair
    refine ⟨user, Table.mem_of_find? hrow, Table.key_of_find? hrow, hverified, ?_⟩
    intro voucher userIds hm
    rw [hmarks, hemail] at hm
    simp at hm
  · decide +kernel

end Replaced

end FifiAlert
