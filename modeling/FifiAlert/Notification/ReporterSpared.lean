import FifiAlert.Notification.PushFanOut

/-!
# The reporter of an alert

The matches of a wave leave out those under the id of the reporter as a string, so
no push goes to them. With integer columns handed over as numbers a saved zone or
a fresh fix of theirs gives a match under the id as a number, and the email pass
of the first wave takes it.
-/

namespace FifiAlert

open Concurrency Store Js LocationService NotificationQueueProcessor

/-- No push row, no push job and no email for the user was added. -/
structure Spared (w w' : World) (userId : ℕ) : Prop where
  rows : ∀ r ∈ (w'.addedSince w).rows, w.ownerOf r = some userId → r.isPush = false
  jobs : ∀ id, .sendPushNotification id ∈ (w'.addedSince w).jobs →
    ∀ r, w'.notifications.find? id = some r → w.ownerOf r ≠ some userId
  emails : ∀ email ∈ (w'.addedSince w).emails, ∀ user, w.users.find? userId = some user →
    email.recipient ≠ user.email

/-- `email @unique`. -/
def World.EmailsUnique (w : World) : Prop :=
  ∀ user ∈ w.users.rows, ∀ user' ∈ w.users.rows, user.email = user'.email → user.id = user'.id

section Emails

variable {alertId userId : ℕ} {w v : World} {wave : NotificationConfidence} {E : NotificationEnv}
  {ms : List DeviceMatch}

theorem send_mem_emailActs {entry : Ident × DeviceMatch} {email : Email} :
    Act.send email ∈ emailActs alertId v entry ↔ ∃ userId, entry.1.parseInt = some userId ∧
      beenNotified v alertId userId .EMAIL = false ∧ v.optedIn userId = true ∧
        ∃ address, v.verifiedEmail userId = some address ∧
          email = ⟨"newAlert", address, alertId⟩ := by
  have hrecord : ∀ sent, Act.send email ∉ recordActs alertId entry.2 sent v := by
    intro sent h
    obtain ⟨d, -, heq⟩ := List.mem_map.1 h
    cases heq
  unfold emailActs
  cases huser : entry.1.parseInt with
  | none => simp
  | some userId =>
      cases hbeen : beenNotified v alertId userId .EMAIL <;>
        cases hopted : v.optedIn userId <;>
          cases hemail : v.verifiedEmail userId <;> simp_all

/-- What an entry adds is there when its turn comes. -/
theorem mem_emailPassActs_of_split {a : Act} {pre post : List (Ident × DeviceMatch)}
    {entry : Ident × DeviceMatch}
    (h : a ∈ emailActs alertId (v.acts (emailPassActs alertId v pre)) entry) :
    a ∈ emailPassActs alertId v (pre ++ entry :: post) := by
  induction pre generalizing v with
  | nil => exact List.mem_append_left _ h
  | cons e pre ih =>
      rw [emailPassActs, World.acts_append] at h
      exact List.mem_append_right _ (ih h)

theorem not_countsFor_emailActs {entry : Ident × DeviceMatch} {a : Act} (hknows : w.Knows entry.2)
    (hkey : entry.2.userId = entry.1) (huser : entry.1.parseInt ≠ some userId)
    (ha : a ∈ emailActs alertId v entry) : a.countsFor w userId = false := by
  rcases mem_emailActs ha with ⟨deviceId, sent, rfl, hid⟩ | ⟨email, _, rfl, -⟩
  · obtain ⟨device, hdevice, hid', howner⟩ := hknows
    rw [hid', Option.some.injEq] at hid
    have hfind := Table.find?_of_mem hdevice
    rw [hid] at hfind
    rw [hkey] at howner
    have hother : device.user_id ≠ userId := by
      rintro rfl
      exact huser howner
    simp [Act.countsFor, emailData, hfind, hother]
  · rfl

/-- The emails to others do not count for a user. -/
theorem not_countsFor_emailPassActs {entries : List (Ident × DeviceMatch)} {a : Act}
    (hentries : ∀ e ∈ entries, w.Knows e.2 ∧ e.2.userId = e.1 ∧ e.1.parseInt ≠ some userId)
    (ha : a ∈ emailPassActs alertId v entries) : a.countsFor w userId = false := by
  obtain ⟨pre, entry, post, rfl, h⟩ := mem_emailPassActs ha
  obtain ⟨hknows, hkey, huser⟩ := hentries entry (by simp)
  exact not_countsFor_emailActs hknows hkey huser h

/-- Nor do the pushes, when the user is not matched under their id as a string. -/
theorem not_countsFor_pushPassActs {a : Act}
    (hms : ∀ m ∈ ms, m.userId ≠ .str (toString userId))
    (ha : a ∈ pushPassActs E alertId wave ms w) : a.countsFor w userId = false := by
  rcases mem_pushPassActs ha with ⟨targets, reason, h⟩ | ⟨e, he, device, hdevice, rfl, hkey, -⟩
  · exact countsFor_exclusionActs h
  · obtain ⟨hmem, huser⟩ := mem_userMatches he
    have hne : device.user_id ≠ userId := by
      rintro rfl
      exact hms e.2 hmem (huser.trans hkey)
    have hfind := Table.find?_of_mem hdevice
    simp [Act.countsFor, pushData, hfind, hne]

variable (alertId userId wave E) in
/-- Of a user not matched as a string and under one other id at most, the email pass
finds what was there before the job. -/
theorem beenNotified_at_turn {pre post : List (Ident × DeviceMatch)}
    {entry : Ident × DeviceMatch} (hknows : ∀ m ∈ ms, w.Knows m)
    (hsplit : (userMatches ms).rows = pre ++ entry :: post)
    (hms : ∀ m ∈ ms, m.userId ≠ .str (toString userId))
    (hone : ∀ m ∈ ms, m.userId.parseInt = some userId → m.userId = entry.1) :
    beenNotified ((w.acts (pushPassActs E alertId wave ms w)).acts (emailPassActs alertId
        (w.acts (pushPassActs E alertId wave ms w)) pre)) alertId userId .EMAIL =
      beenNotified w alertId userId .EMAIL := by
  rw [← World.acts_append]
  apply beenNotified_acts
  intro a ha
  have hnodup := (userMatches ms).nodup
  rw [hsplit, List.map_append, List.map_cons, List.nodup_append] at hnodup
  rcases List.mem_append.1 ha with ha | ha
  · exact not_countsFor_pushPassActs hms ha
  · apply not_countsFor_emailPassActs _ ha
    intro e he
    have hrow : e ∈ (userMatches ms).rows := by
      rw [hsplit]
      exact List.mem_append_left _ he
    obtain ⟨hmem, hkey⟩ := mem_userMatches hrow
    refine ⟨hknows e.2 hmem, hkey, fun hparse => ?_⟩
    have hsame := hone e.2 hmem (by rw [hkey, hparse])
    rw [hkey] at hsame
    exact hnodup.2.2 e.1 (List.mem_map_of_mem he) entry.1 List.mem_cons_self hsame

end Emails

/-- The reporter gets an email: in the first wave, a saved zone or a fresh fix of
theirs is in reach, they were not emailed for the alert before, and they take alert
emails at a verified address. -/
structure ReporterEmailed (L : LocationEnv) (w : World) (alertId : ℕ) (alert : Alert)
    (wave : NotificationConfidence) : Prop where
  wave : wave = .HIGH
  coordinates : hasCoordinates alert = true
  reached : ∃ s : LocationStrategy, (s = .savedZone ∨ s = .freshGps) ∧ ∃ device ∈ w.devices.rows,
    device.user_id = alert.creator_id ∧ s.reaches L alert w device = true
  first : beenNotified w alertId alert.creator_id .EMAIL = false
  optedIn : w.optedIn alert.creator_id = true
  verified : (w.verifiedEmail alert.creator_id).isSome = true

section Reporter

variable {E : NotificationEnv} {alertId userId : ℕ} {alert : Alert} {w : World}
  {wave : NotificationConfidence} {ms : List DeviceMatch}

theorem verifiedEmail_eq_some {email : String} (h : w.verifiedEmail userId = some email) :
    ∃ user, w.users.find? userId = some user ∧ user.email = email := by
  obtain ⟨user, huser, rfl⟩ := Option.map_eq_some_iff.1 h
  exact ⟨user, (Option.filter_eq_some_iff.1 huser).1, rfl⟩

/-- A match of the wave for the reporter is one under their id as a number, of a
strategy other than the alert zones. -/
theorem reporter_match {L : LocationEnv} (hL : L.integers = .number)
    (h : Recipients L alert w ms) {m : DeviceMatch}
    (hm : m ∈ deviceMatches wave alert.creator_id ms)
    (hparse : m.userId.parseInt = some alert.creator_id) :
    m.userId = .num alert.creator_id ∧ ∃ s : LocationStrategy, s ≠ .alertZone ∧
      s.confidence = wave ∧ ∃ device ∈ w.devices.rows, device.user_id = alert.creator_id ∧
        s.reaches L alert w device = true := by
  obtain ⟨hmem, hwave, hother⟩ := mem_deviceMatches.1 hm
  obtain ⟨s, device, hdevice, hreach, hmatch⟩ := h.sound m hmem
  rw [hmatch.userId, parseInt_ident, Option.some.injEq] at hparse
  have hs : s ≠ .alertZone := by
    rintro rfl
    rw [hmatch.userId, hparse] at hother
    exact hother rfl
  refine ⟨?_, s, hs, hmatch.confidence.symm.trans hwave, device, hdevice, hparse, hreach⟩
  rw [hmatch.userId, ident_of_ne_alertZone hL hs, hparse]

/-- A saved zone or a fresh fix of the reporter gives the first wave a match of theirs. -/
theorem exists_reporter_match {L : LocationEnv} (hL : L.integers = .number)
    (h : Recipients L alert w ms) {s : LocationStrategy} (hs : s = .savedZone ∨ s = .freshGps)
    {device : Device} (hdevice : device ∈ w.devices.rows)
    (howner : device.user_id = alert.creator_id) (hreach : s.reaches L alert w device = true) :
    ∃ m ∈ deviceMatches .HIGH alert.creator_id ms, m.userId = .num alert.creator_id := by
  have hzone : s ≠ .alertZone := by
    rcases hs with rfl | rfl <;> exact LocationStrategy.noConfusion
  obtain ⟨m, hm, huser, t, device', hdevice', -, hmatch, hle⟩ := h.best s device hdevice hreach
  rw [ident_of_ne_alertZone hL hzone, howner] at huser
  have hhigh : m.confidence = .HIGH := by
    rw [hmatch.confidence]
    rcases hs with rfl | rfl <;> cases t <;> simp_all [LocationStrategy.priority,
      LocationStrategy.confidence]
  refine ⟨m, mem_deviceMatches.2 ⟨hm, hhigh, ?_⟩, huser⟩
  rw [huser]
  exact Ident.noConfusion

/-- No push goes to the reporter. -/
theorem spared_pushes (hms : ∀ m ∈ ms, m.userId ≠ .str (toString userId)) {data : NotificationData}
    (h : Act.push data ∈ waveActs E alertId wave ms w) :
    (w.devices.find? data.device_id).map Device.user_id ≠ some userId := by
  obtain ⟨e, he, device, hdevice, rfl, hkey, -⟩ := push_mem_waveActs h
  obtain ⟨hmem, huser⟩ := mem_userMatches he
  have hfind := Table.find?_of_mem hdevice
  have hid : (pushData alertId e.2 device.id).device_id = device.id := rfl
  rw [hid, hfind, Option.map_some, ne_eq, Option.some.injEq]
  rintro rfl
  exact hms e.2 hmem (huser.trans hkey)

/-- A user whom no push and no email of a wave goes to is spared. -/
theorem spared_of_acts (hms : ∀ m ∈ ms, m.userId ≠ .str (toString userId))
    (hemails : ∀ email, Act.send email ∈ waveActs E alertId wave ms w → ∀ user,
      w.users.find? userId = some user → email.recipient ≠ user.email) :
    Spared w (w.acts (waveActs E alertId wave ms w)) userId := by
  constructor
  · intro r hr howner
    rw [addedSince_acts] at hr
    obtain ⟨-, data, heq, hact⟩ := mem_rowsOf hr
    rcases hact with hact | hact
    · rw [heq]
      exact waveActs_forAlert _ hact
    · rw [heq] at howner
      exact absurd howner (spared_pushes hms hact)
  · intro id hjob r hfind howner
    rw [addedSince_acts] at hjob
    obtain ⟨id', data, -, hid, hact, hrow⟩ := mem_jobsOf w.now hjob
    cases hid
    have hmem : data.toRow w.now id ∈
        (w.acts (waveActs E alertId wave ms w)).notifications.rows := by
      rw [notifications_acts]
      exact List.mem_append_right _ hrow
    have hkey : (data.toRow w.now id).id = id := rfl
    have hfind' := Table.find?_of_mem hmem
    rw [hkey, hfind, Option.some.injEq] at hfind'
    rw [hfind'] at howner
    exact spared_pushes hms hact howner
  · intro email hemail user huser
    rw [addedSince_acts] at hemail
    exact hemails email (mem_emailsOf.1 hemail) user huser

theorem send_mem_waveActs {email : Email} (h : Act.send email ∈ waveActs E alertId wave ms w) :
    wave = .HIGH ∧ ∃ pre entry post, (userMatches ms).rows = pre ++ entry :: post ∧
      Act.send email ∈ emailActs alertId ((w.acts (pushPassActs E alertId wave ms w)).acts
        (emailPassActs alertId (w.acts (pushPassActs E alertId wave ms w)) pre)) entry := by
  rcases List.mem_append.1 h with h | h
  · rcases mem_pushPassActs h with ⟨targets, reason, hexcluded⟩ | ⟨e, -, device, -, heq, -⟩
    · obtain ⟨d, -, heq⟩ := List.mem_map.1 hexcluded
      cases heq
    · cases heq
  · split at h
    · rename_i hwave
      exact ⟨hwave, mem_emailPassActs h⟩
    · cases h

/-- An email to the reporter is sent only when they are to be emailed. -/
theorem reporterEmailed_of_send {L : LocationEnv} (hL : L.integers = .number)
    (hrecipients : Recipients L alert w ms) (hcoord : hasCoordinates alert = true)
    {email : Email} {user : User} (huniq : w.EmailsUnique)
    (hsend : Act.send email ∈ waveActs E alertId wave (deviceMatches wave alert.creator_id ms) w)
    (huser : w.users.find? alert.creator_id = some user) (hto : email.recipient = user.email) :
    ReporterEmailed L w alertId alert wave := by
  obtain ⟨rfl, pre, entry, post, hsplit, hact⟩ := send_mem_waveActs hsend
  obtain ⟨userId, hparse, hbeen, hopted, address, hverified, rfl⟩ := send_mem_emailActs.1 hact
  rw [← World.acts_append, World.verifiedEmail_acts] at hverified
  rw [← World.acts_append, World.optedIn_acts] at hopted
  obtain ⟨user', huser', rfl⟩ := verifiedEmail_eq_some hverified
  have hsame : user'.id = user.id :=
    huniq user' (Table.mem_of_find? huser') user (Table.mem_of_find? huser) hto
  have hid : userId = alert.creator_id := by
    rw [← Table.key_of_find? huser', ← Table.key_of_find? huser, hsame]
  subst hid
  have hentry : entry ∈ (userMatches (deviceMatches .HIGH alert.creator_id ms)).rows := by
    rw [hsplit]
    simp
  obtain ⟨hmem, hkey⟩ := mem_userMatches hentry
  obtain ⟨hnum, s, hs, hconf, device, hdevice, howner, hreach⟩ :=
    reporter_match hL hrecipients hmem (by rw [hkey, hparse])
  have hstrategy : s = .savedZone ∨ s = .freshGps := by
    cases s <;> simp_all [LocationStrategy.confidence]
  have hturn := beenNotified_at_turn alertId alert.creator_id .HIGH E hrecipients.knows hsplit
    (fun m hm => (mem_deviceMatches.1 hm).2.2)
    fun m hm hp => by rw [(reporter_match hL hrecipients hm hp).1, ← hkey, hnum]
  rw [hturn] at hbeen
  exact ⟨rfl, hcoord, ⟨s, hstrategy, device, hdevice, howner, hreach⟩, hbeen, hopted,
    by rw [hverified, Option.isSome_some]⟩

/-- When the reporter is to be emailed, the first wave sends them an email. -/
theorem send_of_reporterEmailed {L : LocationEnv} (hL : L.integers = .number)
    (hrecipients : Recipients L alert w ms) (h : ReporterEmailed L w alertId alert wave) :
    ∃ user, w.users.find? alert.creator_id = some user ∧
      Act.send ⟨"newAlert", user.email, alertId⟩ ∈
        waveActs E alertId wave (deviceMatches wave alert.creator_id ms) w := by
  obtain rfl := h.wave
  obtain ⟨s, hs, device, hdevice, howner, hreach⟩ := h.reached
  obtain ⟨m, hm, hnum⟩ := exists_reporter_match hL hrecipients hs hdevice howner hreach
  obtain ⟨m', hentry⟩ := exists_entry hm
  rw [hnum] at hentry
  obtain ⟨address, hverified⟩ := Option.isSome_iff_exists.1 h.verified
  obtain ⟨user, huser, rfl⟩ := verifiedEmail_eq_some hverified
  obtain ⟨pre, post, hsplit⟩ := List.append_of_mem hentry
  have hturn := beenNotified_at_turn alertId alert.creator_id .HIGH E hrecipients.knows hsplit
    (fun m hm => (mem_deviceMatches.1 hm).2.2)
    fun m hm hp => (reporter_match hL hrecipients hm hp).1
  refine ⟨user, huser, List.mem_append_right _ ?_⟩
  rw [if_pos rfl, hsplit]
  apply mem_emailPassActs_of_split
  exact send_mem_emailActs.2 ⟨alert.creator_id,
    IntegerColumns.parseInt_read .number alert.creator_id, hturn.trans h.first,
    by rw [← World.acts_append, World.optedIn_acts, h.optedIn], user.email,
    by rw [← World.acts_append, World.verifiedEmail_acts, hverified], rfl⟩

end Reporter

/-- A wave spares the reporter exactly when they are not to be emailed. -/
theorem reporter_spared_iff (E : NotificationEnv) (hE : E.location.integers = .number) (w : World)
    (huniq : w.EmailsUnique) (alertId : ℕ) (alert : Alert)
    (hrow : w.alerts.find? alertId = some alert) (hactive : alert.status = .ACTIVE)
    (wave? : Option NotificationConfidence) :
    (∃ w', (processAlertNotifications E alertId wave?).run w = (.ok (), w') ∧
      Spared w w' alert.creator_id) ↔
        ¬ ReporterEmailed E.location w alertId alert (wave?.getD .HIGH) := by
  obtain ⟨ms, hfind⟩ := findDevicesForAlert_returns E.location hrow hactive
  have hrun := processAlertNotifications_run wave? hrow hactive hfind
  generalize wave?.getD .HIGH = wave at *
  constructor
  · rintro ⟨w', hrun', hspared⟩ hemailed
    rw [hrun] at hrun'
    cases hrun'
    have hrecipients := recipients_of_run hrow hactive hfind hemailed.coordinates
    obtain ⟨user, huser, hsend⟩ := send_of_reporterEmailed (E := E) hE hrecipients hemailed
    have hmem := mem_emailsOf.2 hsend
    have hemails := hspared.emails ⟨"newAlert", user.email, alertId⟩
    rw [addedSince_acts] at hemails
    exact hemails hmem user huser rfl
  · intro hnot
    refine ⟨_, hrun, spared_of_acts (fun m hm => (mem_deviceMatches.1 hm).2.2) ?_⟩
    intro email hsend user huser hto
    obtain ⟨-, pre, entry, post, hsplit, -⟩ := send_mem_waveActs hsend
    have hentry : entry ∈ (userMatches (deviceMatches wave alert.creator_id ms)).rows := by
      rw [hsplit]
      simp
    obtain ⟨hcoord, hrecipients⟩ := recipients_of_mem hrow hactive hfind
      (mem_deviceMatches.1 (mem_userMatches hentry).1).1
    exact hnot (reporterEmailed_of_send hE hrecipients hcoord huniq hsend huser hto)

/-- The second wave spares the reporter of a lost pet. -/
theorem reporter_spared_iff_later :
    ∃ w', (processAlertNotifications flatEnv 7 (some .MEDIUM)).run gpsWorld = (.ok (), w') ∧
      Spared gpsWorld w' 1 :=
  (reporter_spared_iff flatEnv rfl gpsWorld (by unfold World.EmailsUnique; decide +kernel) 7 lostPet
    (by rfl) rfl (some .MEDIUM)).2 fun h => NotificationConfidence.noConfusion h.wave

/-- The reporter's own phone is at the place. -/
def reporterWorld : World :=
  { gpsWorld with devices := Table.empty.insertNew { gpsDevice with user_id := 1 } }

/-- The reporter is emailed about their own pet. -/
theorem reporter_emailed :
    reporterWorld.alerts.find? 7 = some lostPet ∧ lostPet.status = .ACTIVE ∧
      lostPet.creator_id = 1 ∧ ((processAlertNotifications flatEnv 7 none).run
        reporterWorld).2.emails = [⟨"newAlert", "a@b.c", 7⟩] ∧
      ¬ ∃ w', (processAlertNotifications flatEnv 7 none).run reporterWorld = (.ok (), w') ∧
        Spared reporterWorld w' 1 := by
  have hemails : ((processAlertNotifications flatEnv 7 none).run reporterWorld).2.emails =
      [⟨"newAlert", "a@b.c", 7⟩] := by decide +kernel
  refine ⟨by rfl, rfl, rfl, hemails, ?_⟩
  rintro ⟨w', hrun, hspared⟩
  rw [hrun] at hemails
  have hadded : (w'.addedSince reporterWorld).emails = [⟨"newAlert", "a@b.c", 7⟩] := hemails
  have huser : reporterWorld.users.find? 1 =
      some { id := 1, email := "a@b.c", emailVerified := true } := by rfl
  exact hspared.emails _ (by rw [hadded]; exact List.mem_cons_self) _ huser rfl

end FifiAlert
