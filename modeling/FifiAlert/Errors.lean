import Mathlib.Data.Nat.Notation

/-!
# Exceptions

What a call of a service can throw: the HTTP exceptions of the framework with
their messages, the errors of the database client, and plain errors.
-/

namespace FifiAlert

/-- The codes of the database client that the program tells apart. -/
inductive PrismaError where
  | P2002
  | P2003
  | P2025
  | other
  deriving DecidableEq, Inhabited

inductive AppError where
  | badRequest (message : List String)
  | unauthorized (message : String)
  | refreshTokenReuse (userId : ℕ)
  | forbidden (message : String)
  | emailNotVerified (email : String)
  | notFound (message : String)
  | conflict (message : String)
  | unprocessableEntity (message : String)
  | tooManyRequests (message : String)
  | rateLimitExceeded (message : String) (retry_after_seconds : ℕ)
  | serviceUnavailable (message : String)
  | prisma (code : PrismaError)
  | internalServerError (message : String)
  | error (message : String)
  deriving DecidableEq, Inhabited

/-- Is this the exception for the reuse of a refresh token? -/
def AppError.isReuse : AppError → Bool
  | refreshTokenReuse _ => true
  | _ => false

/-- `error.message` of a plain error; the texts of the other exceptions go to the
client only. -/
def AppError.message : AppError → String
  | error message => message
  | _ => ""

@[simp] theorem isOk_ok {ε α : Type*} (a : α) : (Except.ok a : Except ε α).isOk = true := rfl

@[simp] theorem isOk_error {ε α : Type*} (e : ε) :
    (Except.error e : Except ε α).isOk = false := rfl

/-- A sequence that ends well went through its first part. -/
theorem except_bind_eq_ok {ε α β : Type*} {x : Except ε α} {k : α → Except ε β} {b : β} :
    x.bind k = .ok b ↔ ∃ a, x = .ok a ∧ k a = .ok b := by
  cases x with
  | error e => simp [Except.bind]
  | ok a => simp [Except.bind]

theorem except_map_eq_ok {ε α β : Type*} {x : Except ε α} {f : α → β} {b : β} :
    x.map f = .ok b ↔ ∃ a, x = .ok a ∧ f a = b := by
  cases x with
  | error e => simp [Except.map]
  | ok a => simp [Except.map]

theorem except_map_eq_error {ε α β : Type*} {x : Except ε α} {f : α → β} {e : ε} :
    x.map f = .error e ↔ x = .error e := by
  cases x with
  | error e => simp [Except.map]
  | ok a => simp [Except.map]

end FifiAlert
