import FifiAlert.Notification.QueueWorker

/-!
# Receipts and openings

What becomes of a push after it was handed to the provider: the provider's receipt, and the
answer of the client when the user opens the notification. Both write to the row of the push
while the attempts of its job may still write to it.
-/

namespace FifiAlert

open Concurrency Store Js

/-- What the client measures when the notification is opened. -/
structure RelevanceFeedback where
  inRange : Bool
  distanceKm : Option ℚ := none

/-- The calls of the push jobs, and those of the receipts and the openings. -/
inductive ReceiptCall where
  | notification (l : NotificationCall)
  | notificationFindFirst (id userId : ℕ)
  | notificationDeliver (id : ℕ) (delivered_at : Time)
  | notificationOpen (id : ℕ) (opened_at : Time) («meta» : Json)

abbrev ReceiptProcess := Process World ReceiptCall AppError

def Notification.deliver (n : Notification) (delivered_at : Time) : Notification :=
  { n with status := .DELIVERED, delivered_at := some delivered_at }

def Notification.open (n : Notification) (opened_at : Time) («meta» : Json) : Notification :=
  { n with status := .OPENED, opened_at := some opened_at, «meta» := some «meta» }

/-- The notification, when its device belongs to the user. -/
def World.notificationOf (w : World) (id userId : ℕ) : Option Notification :=
  (w.notifications.find? id).filter fun n =>
    (w.devices.find? n.device_id).any fun device => device.user_id = userId

namespace ReceiptCall

/-- What a call does to the shared state. -/
def effect : ReceiptCall → World → World
  | notification l, w => l.effect w
  | notificationFindFirst _ _, w => w
  | notificationDeliver id delivered_at, w =>
    { w with
      notifications := w.notifications.updateMany (fun n => n.id = id) fun n =>
        n.deliver delivered_at }
  | notificationOpen id opened_at «meta», w =>
    { w with
      notifications := w.notifications.updateMany (fun n => n.id = id) fun n =>
        n.open opened_at «meta» }

/-- A write to a row, which fails when the row is missing. -/
def writeRow (l : ReceiptCall) (id : ℕ) : ReceiptProcess Unit :=
  Process.atomic l (.prisma .other) fun w =>
    (if (w.notifications.find? id).isSome then .ok () else .error (.prisma .P2025), l.effect w)

end ReceiptCall

/-- `{ ...fields, name: value }`. -/
def setField (name : String) (value : Json) : List (String × Json) → List (String × Json)
  | [] => [(name, value)]
  | f :: fields =>
    if f.1 = name then (name, value) :: fields else f :: setField name value fields

/-- What is spread of the `meta` of a row. -/
def existingMeta : Option Json → List (String × Json)
  | some (.obj fields) => fields
  | some (.arr elems) => elems.zipIdx.map fun e => (toString e.2, e.1)
  | _ => []

namespace NotificationService

def receiptNow : ReceiptProcess Time :=
  (LocationService.dateNow : NotificationProcess Time).relabel .notification

/-- `handleDeliveryReceipt`. -/
def handleDeliveryReceipt (notificationId : ℕ) : ReceiptProcess Unit := do
  let now ← receiptNow
  (ReceiptCall.notificationDeliver notificationId now).writeRow notificationId

/-- The `relevance` of a row. -/
def relevanceOf (feedback : RelevanceFeedback) (reportedAt : String) : Json :=
  .obj [("inRange", .bool feedback.inRange),
    ("distanceKm", (feedback.distanceKm.map Json.num).getD .null),
    ("reportedAt", .str reportedAt)]

/-- `recordRelevance` after the row has been read: the first time of opening is preserved. -/
def recordOpening (toISOString : Time → String) (notificationId : ℕ)
    (feedback : RelevanceFeedback) (notification : Notification) : ReceiptProcess Unit := do
  let opened_at ← (match notification.opened_at with
    | some opened_at => return opened_at
    | none => receiptNow)
  let reportedAt ← receiptNow
  let fields := setField "relevance" (relevanceOf feedback (toISOString reportedAt))
    (existingMeta notification.meta)
  (ReceiptCall.notificationOpen notificationId opened_at (.obj fields)).writeRow notificationId

/-- `recordRelevance`. -/
def recordRelevance (toISOString : Time → String) (notificationId userId : ℕ)
    (feedback : RelevanceFeedback) : ReceiptProcess Unit := do
  let notification ← Process.query (.notificationFindFirst notificationId userId) (.prisma .other)
    fun w => w.notificationOf notificationId userId
  match notification with
  | none => .raise (.notFound ("Notification " ++ toString notificationId ++ " not found"))
  | some notification => recordOpening toISOString notificationId feedback notification

end NotificationService

/-- What may happen to a notification: the attempts of its push job, a receipt, an opening. -/
inductive NotificationEvent where
  | push (id retries : ℕ)
  | receipt (id : ℕ)
  | opening (id userId : ℕ) (feedback : RelevanceFeedback)

open NotificationQueueProcessor NotificationService in
def NotificationEvent.process (P : PushEnv) (toISOString : Time → String) :
    NotificationEvent → ReceiptProcess Unit
  | push id retries => (withRetries retries (processPushNotification P id)).relabel .notification
  | receipt id => handleDeliveryReceipt id
  | opening id userId feedback => recordRelevance toISOString id userId feedback

end FifiAlert
