import FifiAlert.Schema.Alert
import FifiAlert.Schema.Audit
import FifiAlert.Schema.Invitation
import FifiAlert.Schema.Notification
import FifiAlert.Store.SortedSet

/-!
# The shared state

Everything the services share: the tables of the database, the queue, what was
handed to the email provider and to the event bus, the pushes that the push
providers accepted, whether they would accept one now and what answer would come
back, what was put off to a later turn, the keys of the cache server, the clock, and
the sources of fresh values.
A fresh value is drawn by taking a counter and advancing it.
-/

namespace FifiAlert

open Store

structure World where
  users : Users := .empty
  roles : Roles := .empty
  gates : Gates := .empty
  userRoles : UserRoles := .empty
  userGates : UserGates := .empty
  sessions : Sessions := .empty
  accounts : Accounts := .empty
  verifications : Verifications := .empty
  passkeys : Passkeys := .empty
  passkeyChallenges : PasskeyChallenges := .empty
  petTypes : List ℕ := []
  pets : Pets := .empty
  adoptionListings : AdoptionListings := .empty
  alerts : Alerts := .empty
  sightings : Sightings := .empty
  reunionSnapshots : ReunionSnapshots := .empty
  devices : Devices := .empty
  savedZones : SavedZones := .empty
  alertZones : AlertZones := .empty
  notifications : Notifications := .empty
  invitations : Invitations := .empty
  invitationSendLogs : InvitationSendLogs := .empty
  auditLogs : AuditLogs := .empty
  activeLanguages : List String := []
  jobs : List Job := []
  emails : List Email := []
  pushes : List Push := []
  pushTaken : Push → Bool := fun _ => true
  pushReply : Push → SendResult := fun _ => { success := true }
  statusEvents : List AlertStatusChangedEvent := []
  cdn : List String := []
  deliveries : List Delivery := []
  invitationMails : List InvitationMail := []
  redis : String → Expiring Time Time String := fun _ => {}
  now : Time := 0
  nextUUID : ℕ := 0
  nextIv : ℕ := 0
  nextChallenge : ℕ := 0
  nextPasskey : ℕ := 0
  nextTag : ℕ := 0
  nextPet : ℕ := 0
  nextAlert : ℕ := 0
  nextSighting : ℕ := 0
  nextDevice : ℕ := 0
  nextAlertZone : ℕ := 0
  nextUserRole : ℕ := 0
  nextInvitation : ℕ := 0
  nextSendLog : ℕ := 0
  nextInviteToken : ℕ := 0
  nextAuditLog : ℕ := 0

instance : Inhabited World := ⟨{}⟩

/-- The state at another time. -/
def World.atTime (w : World) (t : Time) : World := { w with now := t }

@[simp] theorem World.now_atTime (w : World) (t : Time) : (w.atTime t).now = t := rfl

@[simp] theorem World.sessions_atTime (w : World) (t : Time) :
    (w.atTime t).sessions = w.sessions := rfl

@[simp] theorem World.users_atTime (w : World) (t : Time) : (w.atTime t).users = w.users := rfl

/-- A user with the roles and gates assigned to them. -/
structure UserWithRoles where
  user : User
  roles : List Role
  gates : List Gate

/-- `user.findUnique` with `include: { roles: { include: { role } }, gates: … }`. -/
def World.findUserWithRoles (w : World) (id : ℕ) : Option UserWithRoles :=
  (w.users.find? id).map fun user =>
    { user
      roles := (w.userRoles.findMany fun r => r.user_id = id).filterMap fun r =>
        w.roles.find? r.role_id
      gates := (w.userGates.findMany fun r => r.user_id = id).filterMap fun r =>
        w.gates.find? r.gate_id }

end FifiAlert
