import FifiAlert.Auth.ChallengeLedger
import FifiAlert.Store.Replay
import FifiAlert.Store.RowOrder
import FifiAlert.User.Deletions

/-!
# The passkeys of an account

Beside the ceremonies a user lists the passkeys of the account, renames them and removes them, and
an administrator deletes the account with all of them. The history says who registered, used,
renamed and removed which passkey, and what a request had found out before.
-/

namespace FifiAlert

open Concurrency Store

inductive CredentialCall where
  | ceremony (l : PasskeyCall)
  | passkeyFindOwn (userId : ℕ)
  | passkeyFindFirst (id : String) (userId : ℕ)
  | passkeyRename (id name : String)
  | passkeyDelete (id : String)
  | deletion (l : DeletionCall)

abbrev CredentialProcess := Process World CredentialCall AppError

def Passkey.named (name : String) (passkey : Passkey) : Passkey := { passkey with name }

/-- `passkey.findMany` of a user, the newest first. -/
def World.ownPasskeys (O : RowOrder) (userId : ℕ) (w : World) : List Passkey :=
  O.sort (fun p q => decide (q.createdAt ≤ p.createdAt)) (w.passkeys.findMany fun p =>
    p.userId = userId)

namespace CredentialCall

def effect (A : PasskeyEnv) : CredentialCall → World → World
  | ceremony l, w => l.effect A w
  | passkeyFindOwn _, w => w
  | passkeyFindFirst _ _, w => w
  | passkeyRename id name, w =>
    { w with passkeys := w.passkeys.updateMany (fun p => p.id = id) (Passkey.named name) }
  | passkeyDelete id, w => { w with passkeys := w.passkeys.deleteMany fun p => p.id = id }
  | deletion l, w => l.effect w

end CredentialCall

namespace PasskeyService

def notFound : String := "passkey not found"

def list (A : PasskeyEnv) (O : RowOrder) (userId : ℕ) : CredentialProcess (List PasskeyDto) := do
  let rows ← Process.query (.passkeyFindOwn userId) (.prisma .other) (World.ownPasskeys O userId)
  return rows.map (toPasskeyDto A)

def findOwned (userId : ℕ) (id : String) : CredentialProcess Passkey := do
  let row ← Process.query (.passkeyFindFirst id userId) (.prisma .other) fun w =>
    (w.passkeys.find? id).filter fun p => p.userId = userId
  match row with
  | none => .raise (.notFound notFound)
  | some row => return row

def rename (A : PasskeyEnv) (userId : ℕ) (id name : String) : CredentialProcess PasskeyDto :=
  let trimmed := Js.trim name.toList
  if trimmed = [] ∨ PASSKEY_NAME_MAX_LENGTH < Js.utf16Length trimmed then
    .raise (.badRequest
      ["name must be 1-" ++ toString PASSKEY_NAME_MAX_LENGTH ++ " characters"])
  else do
    let existing ← findOwned userId id
    let call := CredentialCall.passkeyRename existing.id (String.ofList trimmed)
    let row ← Process.atomic call (.prisma .other) fun w =>
      (((w.passkeys.find? existing.id).map (Passkey.named (String.ofList trimmed))).elim
        (.error (.prisma .P2025)) .ok, call.effect A w)
    return toPasskeyDto A row

def remove (A : PasskeyEnv) (userId : ℕ) (id : String) : CredentialProcess Unit := do
  let existing ← findOwned userId id
  let call := CredentialCall.passkeyDelete existing.id
  Process.atomic call (.prisma .other) fun w =>
    ((w.passkeys.find? existing.id).elim (.error (.prisma .P2025)) fun _ => .ok (), call.effect A w)

end PasskeyService

inductive CredentialRequest where
  | ceremony (request : PasskeyRequest)
  | list (userId : ℕ)
  | rename (userId : ℕ) (id name : String)
  | remove (userId : ℕ) (id : String)
  | deleteUser (userId : ℕ)

inductive CredentialAnswer where
  | ceremony (answer : PasskeyAnswer)
  | listed (passkeys : List PasskeyDto)
  | renamed (passkey : PasskeyDto)
  | done

def CredentialRequest.process (A : PasskeyEnv) (O : RowOrder) :
    CredentialRequest → CredentialProcess CredentialAnswer
  | ceremony request => .ceremony <$> (request.process A).relabel CredentialCall.ceremony
  | list userId => .listed <$> PasskeyService.list A O userId
  | rename userId id name => .renamed <$> PasskeyService.rename A userId id name
  | remove userId id => (fun _ => .done) <$> PasskeyService.remove A userId id
  | deleteUser userId =>
    (fun _ => .done) <$> (UserService.delete userId).relabel CredentialCall.deletion

/-- The notable calls: what a thread found out, and what it did to the passkeys. -/
inductive CredentialMark (ι : Type*) where
  | consumed (thread : ι) (challenge : StoredPasskeyChallenge)
  | read (thread : ι) (passkey : Passkey)
  | foundOwner (thread : ι) (owner : User)
  | listed (thread : ι) (passkeys : List Passkey)
  | registered (thread : ι) (passkey : Passkey)
  | used (thread : ι) (id : String) (info : VerifiedAuthenticationResponse) (now : Time)
  | renamed (thread : ι) (id name : String)
  | removed (thread : ι) (id : String)
  | userDeleted (thread : ι) (userId : ℕ)

abbrev CredentialSnapshot (ι : Type*) := Snapshot World (CredentialMark ι)

/-- What the call did to the passkeys. -/
def CredentialMark.event {ι : Type*} : CredentialMark ι → Option (RowEvent String Passkey)
  | registered _ passkey => some (.put passkey.id passkey)
  | used _ id info now => some (.change id (Passkey.used info now))
  | renamed _ id name => some (.change id (Passkey.named name))
  | removed _ id => some (.drop fun p => p.id = id)
  | userDeleted _ userId => some (.drop fun p => p.userId = userId)
  | _ => none

/-- The passkeys as the history says that they were written. -/
def writtenPasskeys {ι : Type*} (start : World) (marks : List (CredentialMark ι)) :
    String → Option Passkey :=
  replay start.passkeys.find? (marks.filterMap CredentialMark.event)

open CredentialCall in
def credentialMark {ι : Type*} (A : PasskeyEnv) (orders : ι → RowOrder) (i : ι)
    (l : CredentialCall) (w : World) : Option (CredentialMark ι) :=
  match l with
  | ceremony (.auth (.challengeConsume id)) => (w.challenge id).map (.consumed i)
  | ceremony (.auth (.passkeyFindUnique credentialId)) =>
    (w.passkeyOf credentialId).map (.read i)
  | ceremony (.auth (.user (.userFindUnique id))) => (w.users.find? id).map (.foundOwner i)
  | ceremony (.auth (.passkeyUpdate id newCounter backedUp)) =>
    (w.passkeys.find? id).map fun _ => .used i id ⟨true, newCounter, backedUp⟩ w.now
  | ceremony (.passkeyCreate data) => (w.createPasskey A data).1.toOption.map (.registered i)
  | passkeyFindOwn userId => some (.listed i (w.ownPasskeys (orders i) userId))
  | passkeyRename id name => (w.passkeys.find? id).map fun _ => .renamed i id name
  | passkeyDelete id => (w.passkeys.find? id).map fun _ => .removed i id
  | deletion (.userDelete id) => (w.users.find? id).map fun _ => .userDeleted i id
  | _ => none

/-- The call has nothing to do with the passkeys. -/
def CredentialCall.IsAside (A : PasskeyEnv) (l : CredentialCall) : Prop :=
  ∀ w, (l.effect A w).passkeys = w.passkeys ∧ (l.effect A w).nextPasskey = w.nextPasskey

end FifiAlert
