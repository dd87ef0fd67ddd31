import FifiAlert.Admin.AutomaticUnban
import FifiAlert.User.Accounts

/-!
# Addresses and what vouches for them

The address of a user goes with a flag: is it verified? Both are written by the
links that better-auth mails, by the sign-in with a provider and by the update of
a user. Here is what each of them is known to do, which calls vouch for an address,
and what an update of a user does to the address of a verified one.
-/

namespace FifiAlert

open Concurrency Store Js

/-- The address of a user, and whether it is verified. -/
def World.address (w : World) (id : ℕ) : Option (String × Bool) :=
  (w.users.find? id).map fun user => (user.email, user.emailVerified)

/-- The users with the address. -/
def World.holders (w : World) (email : String) : List ℕ :=
  (w.users.findMany fun user => user.email = email).map User.id

theorem World.mem_holders {w : World} {id : ℕ} {email : String} {verified : Bool}
    (h : w.address id = some (email, verified)) : id ∈ w.holders email := by
  obtain ⟨user, hrow, hpair⟩ := Option.map_eq_some_iff.1 h
  have hemail : user.email = email := congrArg Prod.fst hpair
  have hmem : user ∈ w.users.findMany fun user => user.email = email :=
    Table.mem_findMany.2 ⟨Table.mem_of_find? hrow, by simpa using hemail⟩
  exact List.mem_map.2 ⟨user, hmem, Table.key_of_find? hrow⟩

section Flows

/-- The links that better-auth mails, by what opening them does: the first two go
to `email`, the last one to `updateTo`. -/
inductive EmailLink where
  | verifyEmail (email : String)
  | changeEmailConfirmation (email updateTo : String)
  | changeEmailVerification (email updateTo : String)

/-- What a provider says about the address of its user. -/
structure SocialProfile where
  email : String
  emailVerified : Bool

/-- What better-auth reads from a token: the link it was mailed with, until it
expires, and the profile behind the token of a provider. -/
structure TokenContents where
  link : String → Time → Option EmailLink
  profile : SocialLoginDto → Option SocialProfile

/-- A row when a link is opened, and after. -/
inductive EmailLink.Opens : EmailLink → Option (String × Bool) → Option (String × Bool) → Prop where
  | verifyEmail (email : String) (verified : Bool) :
      Opens (.verifyEmail email) (some (email, verified)) (some (email, true))
  | changeEmail (email updateTo : String) (verified : Bool) :
      Opens (.changeEmailVerification email updateTo) (some (email, verified))
        (some (updateTo, true))

/-- A row when its user signs in with a provider, and after: it is created, or the
provider knows that the address is theirs. -/
inductive SocialProfile.SignsIn (profile : SocialProfile) :
    Option (String × Bool) → Option (String × Bool) → Prop where
  | created : SignsIn profile none (some (profile.email, profile.emailVerified))
  | linked (verified : Bool) (h : profile.emailVerified = true) :
      SignsIn profile (some (profile.email, verified)) (some (profile.email, true))

/-- No address and no flag is written. -/
def SameAddresses (w w' : World) : Prop := ∀ id, w'.address id = w.address id

/-- How better-auth behaves, when it is configured as in `src/auth.ts`. -/
structure AsConfigured (A : AccountEnv) (T : TokenContents) : Prop where
  signUpEmail : ∀ body w id,
    (A.signUpEmail body w).2.address id = w.address id ∨
      (A.signUpEmail body w).2.address id = some (body.email, false)
  changeEmail : ∀ cookie newEmail w id,
    (A.changeEmail cookie newEmail w).2.address id = w.address id ∨
      updateEmailWithoutVerification = true ∧ ∃ email, w.address id = some (email, false) ∧
        (A.changeEmail cookie newEmail w).2.address id = some (newEmail, false)
  verifyEmail : ∀ token w id,
    (A.verifyEmail token w).2.address id = w.address id ∨
      ∃ link, T.link token w.now = some link ∧
        link.Opens (w.address id) ((A.verifyEmail token w).2.address id)
  signInSocial : ∀ dto w id,
    (A.betterAuth.signInSocial dto w).2.address id = w.address id ∨
      ∃ profile, T.profile dto = some profile ∧
        profile.SignsIn (w.address id) ((A.betterAuth.signInSocial dto w).2.address id)
  getSession : ∀ cookie w, SameAddresses w (A.betterAuth.getSession cookie w).2
  sendVerificationEmail : ∀ email w,
    SameAddresses w (A.betterAuth.sendVerificationEmail email w).2
  socialProviders : ∀ provider, A.isSocialProviderConfigured provider = true →
    provider ∈ trustedProviders

end Flows

/-- What is asked of the services. -/
inductive AccountRequest where
  | signup (signupDto : SignupDto)
  | create (createUserDto : CreateUserDto)
  | update (id : ℕ) (updateUserDto : List (String × Js.Json)) (session : CallerSession)
  | socialLogin (dto : SocialLoginDto) (ipAddress userAgent : Option String)
  | changeEmail (newEmail : String) (req : AuthHeaders)
  | verifyEmail (token : String)
  | ban (request : BanRequest)

/-- The process that serves a request. -/
def AccountRequest.process (A : AccountEnv) : AccountRequest → AccountProcess Unit
  | signup signupDto => (fun _ => ()) <$> AuthController.signup A signupDto
  | create createUserDto => (fun _ => ()) <$> UserService.store A createUserDto
  | update id updateUserDto session =>
      (fun _ => ()) <$> (UserController.update A.user A.nested id updateUserDto session).relabel
        fun l => .auth (.user l)
  | socialLogin dto ipAddress userAgent =>
      (fun _ => ()) <$>
        (AuthController.socialLogin A.toLoginEnv A.nested dto ipAddress userAgent).relabel .auth
  | changeEmail newEmail req => (fun _ => ()) <$> AuthController.changeEmail A newEmail req
  | verifyEmail token => BetterAuth.verifyEmail A token
  | ban request => (request.process A.toAdminEnv).relabel AccountCall.admin

/-- Is the request one of an administrator or a manager about a user? -/
def AccountRequest.manages : AccountRequest → Bool
  | create _ => true
  | update _ _ session => UserController.hasCrossUserUpdateRole session
  | _ => false

/-- What vouches for an address. -/
inductive Voucher where
  | verificationLink
  | changeEmail
  | socialProvider (provider : String)
  | manager
  deriving DecidableEq

/-- The notable calls of a run: an address is vouched for, for the users who have
it or are about to get it; the address of a verified user is replaced without. -/
inductive AddressMark where
  | vouched (voucher : Voucher) (email : String) (userIds : List ℕ)
  | replaced (userId : ℕ)
  deriving DecidableEq

abbrev AddressSnapshot := Snapshot World AddressMark

/-- The address was vouched for, for this user. -/
def AddressSnapshot.Vouched (w : AddressSnapshot) (id : ℕ) (email : String) : Prop :=
  ∃ voucher userIds, AddressMark.vouched voucher email userIds ∈ w.marks ∧ id ∈ userIds

namespace AddressMark

/-- The mark of a link that is opened. -/
def ofLink (w : World) : EmailLink → Option AddressMark
  | .verifyEmail email => some (vouched .verificationLink email (w.holders email))
  | .changeEmailConfirmation _ _ => none
  | .changeEmailVerification email updateTo =>
      some (vouched .changeEmail updateTo (w.holders email))

/-- The mark of a sign-in that leads to the state `w'`. -/
def ofProfile (provider : String) (w' : World) (profile : SocialProfile) : Option AddressMark :=
  if profile.emailVerified && trustedProviders.contains provider then
    some (vouched (.socialProvider provider) profile.email (w'.holders profile.email))
  else none

/-- Does an update name the address or the flag? -/
def writesAddress (data : List (String × Js.Json)) : Bool :=
  (data.lookup "email").isSome || (data.lookup "emailVerified").isSome

/-- The mark of an update by an administrator or a manager. -/
def ofManager (id : ℕ) (data : List (String × Js.Json)) (w' : World) : Option AddressMark :=
  match w'.address id with
  | some (email, true) => if writesAddress data then some (vouched .manager email [id]) else none
  | _ => none

/-- The mark of an update by anybody else. -/
def ofUser (id : ℕ) (w w' : World) : Option AddressMark :=
  match w.address id, w'.address id with
  | some (email, true), some (newEmail, true) =>
      if newEmail = email then none else some (replaced id)
  | _, _ => none

/-- The mark of a call, from the state in which it is made. -/
def of (A : AccountEnv) (T : TokenContents) (request : AccountRequest) :
    AccountCall → World → Option AddressMark
  | .verifyEmail token, w => (T.link token w.now).bind (ofLink w)
  | .auth (.signInSocial dto), w =>
      (T.profile dto).bind (ofProfile dto.provider (A.betterAuth.signInSocial dto w).2)
  | .auth (.user (.userUpdate id data)), w =>
      (userUpdate A.user A.nested id data w).toOption.bind fun w' =>
        if request.manages then ofManager id data w' else ofUser id w w'
  | _, _ => none

end AddressMark

/-- The data of an update name another address for a verified user, and the
database client accepts them. -/
def RenamesVerified (E : UserEnv) (w : World) (id : ℕ) (data : List (String × Js.Json)) : Prop :=
  ∃ email v newEmail u, w.address id = some (email, true) ∧ data.lookup "email" = some v ∧
    E.string v = some newEmail ∧ newEmail ≠ email ∧
    parseUserUpdate E data = some u ∧ emailTaken u id w = false

/-- When the condition on the updates holds: only administrators and managers give
another address to a verified user. -/
def AddressKept (E : UserEnv) (request : AccountRequest) : AccountCall → AddressSnapshot → Prop
  | .auth (.user (.userUpdate id data)), w =>
      request.manages = true ∨ ¬ RenamesVerified E w.state id data
  | _, _ => True

/-- The surroundings of the services: whatever else happens to users, their
addresses and the flags are left alone, or the users are deleted. -/
def accountSetting {ι : Type*} (A : AccountEnv) (T : TokenContents) (req : ι → AccountRequest)
    (fails : AccountCall → Prop) (admits : ι → AccountCall → AddressSnapshot → Prop) :
    Setting ι World AccountCall AddressMark where
  mark := fun i => AddressMark.of A T (req i)
  env := fun w w' => ∀ id, w'.address id = w.address id ∨ w'.address id = none
  mayFail := fails
  admits := admits

section Update

variable {E : UserEnv} {N : NestedWrites} {id : ℕ} {data : List (String × Js.Json)} {w w' : World}

/-- An update that goes through writes the address and the flag that it names, of its user only. -/
theorem userUpdate_address
    (hnested : ∀ id relations w w', N id relations w = .ok w' → SameAddresses w w')
    (h : userUpdate E N id data w = .ok w') :
    ∃ u, parseUserUpdate E data = some u ∧ emailTaken u id w = false ∧
      ∀ other, w'.address other = (w.address other).map fun a =>
        if other = id then (u.email.getD a.1, u.emailVerified.getD a.2) else a := by
  have hset : ∀ u other, (setColumns u id w).address other = (w.address other).map fun a =>
      if other = id then (u.email.getD a.1, u.emailVerified.getD a.2) else a := by
    intro u other
    unfold setColumns World.address
    rw [Table.find?_updateMany_ite]
    split
    next => cases w.users.find? other <;> rfl
    next => exact Option.map_id'.symm
  unfold userUpdate at h
  cases hparse : parseUserUpdate E data with
  | none =>
      rw [hparse] at h
      cases h
  | some u =>
      rw [hparse] at h
      dsimp only at h
      split at h
      · cases h
      next htaken =>
          refine ⟨u, rfl, by simpa using htaken, ?_⟩
          split at h
          · cases h
          split at h
          · obtain rfl := Except.ok.inj h
            exact hset u
          · intro other
            rw [hnested _ _ _ _ h other, hset]

/-- A verified user gets another address by an update exactly when the update names one. -/
theorem renamesVerified_iff {u : UserUpdateInput} (hparse : parseUserUpdate E data = some u)
    (htaken : emailTaken u id w = false) :
    RenamesVerified E w id data ↔
      ∃ email, w.address id = some (email, true) ∧ u.email.getD email ≠ email := by
  have hcolumn := parseUserUpdate_email hparse
  constructor
  · rintro ⟨email, v, newEmail, -, haddress, hlookup, hstring, hne, -⟩
    refine ⟨email, haddress, fun hsame => hne ?_⟩
    have hold := (column_getD_eq_iff hcolumn email).1 hsame v hlookup
    exact Option.some.inj (hstring.symm.trans hold)
  · rintro ⟨email, haddress, hne⟩
    rw [ne_eq, column_getD_eq_iff hcolumn, not_forall] at hne
    obtain ⟨v, hv⟩ := hne
    obtain ⟨hlookup, hstring⟩ := Classical.not_imp.1 hv
    unfold column at hcolumn
    rw [hlookup] at hcolumn
    obtain ⟨newEmail, hnew, -⟩ := Option.map_eq_some_iff.1 hcolumn
    refine ⟨email, v, newEmail, u, haddress, hlookup, hnew, fun hsame => hstring ?_, hparse, htaken⟩
    rw [hnew, hsame]

theorem AddressMark.ofUser_eq_some_iff {m : AddressMark} :
    AddressMark.ofUser id w w' = some m ↔ m = .replaced id ∧ ∃ email newEmail,
      w.address id = some (email, true) ∧ w'.address id = some (newEmail, true) ∧
        newEmail ≠ email := by
  unfold AddressMark.ofUser
  split
  next email newEmail hbefore hafter =>
      by_cases hsame : newEmail = email
      · simp [hbefore, hafter, hsame]
      · simp [hbefore, hafter, hsame, eq_comm]
  next hother =>
      constructor
      · intro h
        cases h
      · rintro ⟨-, email, newEmail, hbefore, hafter, -⟩
        exact (hother email newEmail hbefore hafter).elim

/-- An update that goes through and does not name the flag replaces the address of a verified
user, and leaves the flag, exactly when it names another address for one. -/
theorem userUpdate_replaces_iff
    (hnested : ∀ id relations w w', N id relations w = .ok w' → SameAddresses w w')
    (h : userUpdate E N id data w = .ok w') (hverified : data.lookup "emailVerified" = none) :
    AddressMark.ofUser id w w' = some (.replaced id) ↔ RenamesVerified E w id data := by
  obtain ⟨u, hparse, htaken, haddress⟩ := userUpdate_address hnested h
  have hflag : u.emailVerified = none :=
    column_eq_none (parseUserUpdate_eq_some hparse).1 hverified
  rw [AddressMark.ofUser_eq_some_iff, renamesVerified_iff hparse htaken, haddress id]
  constructor
  · rintro ⟨-, email, newEmail, hbefore, hafter, hne⟩
    rw [hbefore, Option.map_some, if_pos rfl, hflag] at hafter
    have hnew : u.email.getD email = newEmail := congrArg Prod.fst (Option.some.inj hafter)
    exact ⟨email, hbefore, hnew ▸ hne⟩
  · rintro ⟨email, hbefore, hne⟩
    refine ⟨rfl, email, u.email.getD email, hbefore, ?_, hne⟩
    rw [hbefore, Option.map_some, if_pos rfl, hflag]
    rfl

end Update

end FifiAlert
