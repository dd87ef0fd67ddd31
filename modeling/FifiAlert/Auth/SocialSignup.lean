import FifiAlert.User.Accounts

/-!
# The first social sign-in

`AuthController.socialLogin` with what it announces: who has no role when they are read is taken
for new, gets the default role, is announced as registered, and the welcome email is started.
Apart from that it is the sign-in of `LoginFlows` (`socialLogin_run`).
-/

namespace FifiAlert

open Concurrency Store AuthController

/-- What the social sign-in relies on: `answer` is the user in the answer of `signInSocial`, when
there is one. -/
structure SocialEnv extends AccountEnv where
  answer : SocialLoginDto → World → ℕ → SignedUpUser
  answer_id : ∀ dto w userId, (answer dto w userId).id = userId

/-- The calls of the social sign-in. The user is read twice, before and after the signup is
completed. -/
inductive SocialCall where
  | account (l : AccountCall)
  | userFindSignedIn (id : ℕ)
  | sendWelcomeEmail (userId : ℕ)

abbrev SocialProcess := Process World SocialCall AppError

namespace SocialSignup

def social {α : Type} (p : AuthProcess α) : SocialProcess α :=
  p.relabel fun l => .account (.auth l)

/-- `signInSocial`, with the user in its answer. -/
def signInSocial (A : SocialEnv) (dto : SocialLoginDto) : SocialProcess (Option SignedUpUser) :=
  Process.atomic (.account (.auth (.signInSocial dto))) (.prisma .other) fun w =>
    let answer := A.betterAuth.signInSocial dto w
    (answer.1.map fun userId => userId.map (A.answer dto w), answer.2)

/-- The event, and the email that nobody waits for. -/
def announce (dto : SocialLoginDto) (signedIn : SignedUpUser) (userId : ℕ) :
    SocialProcess Unit := do
  (emitUserRegistered signedIn none none .social dto.inviteToken).relabel .account
  (Process.modify (.sendWelcomeEmail userId) (.error "FAILED_TO_SEND_WELCOME_EMAIL") id
    fun _ => ()).tryCatch fun _ => return ()

/-- `socialLogin` for a new user, once the signup has been completed. -/
def issueNew (A : SocialEnv) (dto : SocialLoginDto) (signedIn : SignedUpUser)
    (ipAddress userAgent : Option String) : Option UserWithRoles → SocialProcess IRotatedTokens
  | none => .raise (.unauthorized "User not found")
  | some user => do
    announce dto signedIn user.user.id
    social (tokenService (TokenService.issueTokens A.token user ipAddress userAgent))

/-- `socialLogin` after the user has been read: without a role they are new. -/
def issueSocial (A : SocialEnv) (dto : SocialLoginDto) (signedIn : SignedUpUser)
    (ipAddress userAgent : Option String) : Option UserWithRoles → SocialProcess IRotatedTokens
  | none => .raise (.unauthorized "User not found")
  | some user =>
    if user.roles.isEmpty then do
      let completed ← social (completeSignup A.toAuthEnv A.nested signedIn.id)
      issueNew A dto signedIn ipAddress userAgent completed
    else social (tokenService (TokenService.issueTokens A.token user ipAddress userAgent))

/-- `socialLogin` after better-auth has verified the token. -/
def issueSignedIn (A : SocialEnv) (dto : SocialLoginDto) (ipAddress userAgent : Option String) :
    Option SignedUpUser → SocialProcess IRotatedTokens
  | none => .raise (.unauthorized "Social sign-in failed")
  | some signedIn => do
    let user ← Process.query (.userFindSignedIn signedIn.id) (.prisma .other) fun w =>
      w.findUserWithRoles signedIn.id
    issueSocial A dto signedIn ipAddress userAgent user

/-- `socialLogin`. -/
def socialLogin (A : SocialEnv) (dto : SocialLoginDto) (ipAddress userAgent : Option String) :
    SocialProcess IRotatedTokens :=
  if !A.isSocialProviderConfigured dto.provider then
    .raise (.serviceUnavailable (dto.provider ++ " sign-in is not configured"))
  else do
    let signedIn ← (signInSocial A dto).tryCatch fun error =>
      .raise (mapSocialSignInError A.toLoginEnv dto.provider error)
    issueSignedIn A dto ipAddress userAgent signedIn

section Run

variable (A : SocialEnv) (dto : SocialLoginDto) (ipAddress userAgent : Option String) (w : World)

theorem announce_run (signedIn : SignedUpUser) (userId : ℕ) :
    (announce dto signedIn userId).run w = (.ok (), w) := rfl

theorem issueNew_run (signedIn : SignedUpUser) (user : Option UserWithRoles) :
    (issueNew A dto signedIn ipAddress userAgent user).run w =
      (issueFound A.toAuthEnv ipAddress userAgent user).run w := by
  cases user with
  | none => rfl
  | some user =>
      unfold issueNew issueFound
      rw [Process.run_bind_ok (announce_run dto w signedIn user.user.id)]
      exact Process.run_relabel _ _ _

theorem issueSocial_run (signedIn : SignedUpUser) (user : Option UserWithRoles) :
    (issueSocial A dto signedIn ipAddress userAgent user).run w =
      (AuthController.issueSocial A.toAuthEnv A.nested signedIn.id ipAddress userAgent user).run
        w := by
  cases user with
  | none => rfl
  | some user =>
      unfold issueSocial AuthController.issueSocial
      dsimp only
      split
      · rw [Process.run_bind, Process.run_bind, social, Process.run_relabel]
        rcases (completeSignup A.toAuthEnv A.nested signedIn.id).run w with ⟨e | completed, w'⟩
        · rfl
        · exact issueNew_run A dto ipAddress userAgent w' signedIn completed
      · exact Process.run_relabel _ _ _

/-- The announcements aside, this is the sign-in of the authentication controller. -/
theorem socialLogin_run :
    (socialLogin A dto ipAddress userAgent).run w =
      (AuthController.socialLogin A.toLoginEnv A.nested dto ipAddress userAgent).run w := by
  unfold socialLogin AuthController.socialLogin
  split
  · rfl
  rw [Process.run_bind, Process.run_bind, Process.run_tryCatch, Process.run_tryCatch, signInSocial,
    betterAuth, Process.run_atomic, Process.run_atomic]
  rcases A.betterAuth.signInSocial dto w with ⟨e | userId, w'⟩
  · rfl
  cases userId with
  | none => rfl
  | some userId =>
      unfold issueSignedIn issueSocialSignedIn UserService.findWithRoles
      dsimp only [Except.map, Option.map]
      rw [Process.run_query_bind, Process.run_query_bind]
      have h := issueSocial_run A dto ipAddress userAgent w' (A.answer dto w userId)
        (w'.findUserWithRoles userId)
      rw [A.answer_id] at h ⊢
      exact h

end Run

end SocialSignup

end FifiAlert
