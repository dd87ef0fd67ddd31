import FifiAlert.Auth.RevokeAll
import FifiAlert.Auth.RotationOutcome
import FifiAlert.Auth.SessionCalls

/-!
# The token cleanup and the life of a rotated token

The daily job drops the stored pair of a row an hour after its revocation, and
the row itself when it has expired or was revoked thirty days ago. Both periods
are fixed, while the lifetime of a token and the grace window are configuration:
a rotated token can outlive the row that its reuse is detected by
(`reuse_detected_iff`), and the grace window can outlive the stored pair
(`cleanup_invisible_iff`).
-/

namespace FifiAlert

open Concurrency Store TokenService TokenCleanupService

section Cleanup

variable (signedOut : SignOut)

/-- Does a cleanup at this time leave the row in the table? -/
def Session.kept (now : Time) (s : Session) : Bool :=
  !s.expired now && !s.longRevoked (now - THIRTY_DAYS_MS)

/-- What a cleanup at this time makes of a row that it leaves in the table. -/
def Session.cleaned (now : Time) (s : Session) : Session :=
  if s.staleReplacement (now - HOUR_MS) then s.dropReplacement else s

/-- The state after a cleanup at this time. -/
def World.cleanup (now : Time) (w : World) : World :=
  ((TokenCleanupService.cleanupExpiredTokens signedOut).run (w.atTime now)).2

/-- The state after a cleanup at each of the times. -/
def World.cleanups (schedule : List Time) (w : World) : World :=
  schedule.foldl (fun w now => w.cleanup signedOut now) w

variable {signedOut} {now : Time} {s : Session}

theorem Session.expired_cleaned (now' : Time) :
    (s.cleaned now').expired now = s.expired now := by
  unfold Session.cleaned
  split <;> rfl

theorem Session.longRevoked_cleaned (now' : Time) :
    (s.cleaned now').longRevoked now = s.longRevoked now := by
  unfold Session.cleaned
  split <;> rfl

theorem Session.kept_cleaned (now' : Time) : (s.cleaned now').kept now = s.kept now := by
  rw [Session.kept, Session.kept, Session.expired_cleaned, Session.longRevoked_cleaned]

/-- A row survives while it has not expired and was not revoked thirty days before. -/
theorem Session.kept_iff {revokedAt : Time} (hrev : s.revoked = true)
    (hat : s.revokedAt = some revokedAt) :
    s.kept now = true ↔ now ≤ s.expiresAt ∧ now ≤ revokedAt + THIRTY_DAYS_MS := by
  simp only [Session.kept, Session.expired, Session.longRevoked, hrev, hat, Option.any_some,
    Bool.true_and, Bool.and_eq_true, Bool.not_eq_true', decide_eq_false_iff_not, not_lt]
  rw [Int.sub_right_le_iff_le_add]

theorem Session.kept_of_live (hlive : s.revoked = false) :
    s.kept now = true ↔ now ≤ s.expiresAt := by
  simp [Session.kept, Session.expired, Session.longRevoked, hlive]

theorem find?_cleanup (w : World) (k : String) :
    (w.cleanup signedOut now).sessions.find? k =
      ((w.sessions.find? k).filter (Session.kept now)).map (Session.cleaned now) := by
  have hsessions : (w.cleanup signedOut now).sessions =
      ((w.sessions.updateMany (Session.staleReplacement (now - HOUR_MS)) Session.dropReplacement
        Session.dropReplacement_token).deleteMany (Session.expired now)).deleteMany
          (Session.longRevoked (now - THIRTY_DAYS_MS)) := rfl
  rw [hsessions, Table.find?_deleteMany, Table.find?_deleteMany, Table.find?_updateMany]
  cases w.sessions.find? k with
  | none => rfl
  | some s =>
      have hcleaned : (if s.staleReplacement (now - HOUR_MS) then s.dropReplacement else s) =
          s.cleaned now := rfl
      rw [Option.map_some, hcleaned, Option.filter_some, Option.filter_some,
        Session.expired_cleaned, Session.kept]
      by_cases hexpired : s.expired now = true
      · simp [hexpired]
      · by_cases hlong : s.longRevoked (now - THIRTY_DAYS_MS) = true
        · simp [hexpired, Option.filter_some, Session.longRevoked_cleaned, hlong]
        · simp [hexpired, Option.filter_some, Session.longRevoked_cleaned, hlong]

theorem foldl_cleaned (schedule : List Time) (s : Session) :
    schedule.foldl (fun s t => s.cleaned t) s =
      if schedule.any fun t => s.staleReplacement (t - HOUR_MS) then s.dropReplacement else s := by
  have hdropped : ∀ (schedule : List Time) (s : Session),
      schedule.foldl (fun s t => s.cleaned t) s.dropReplacement = s.dropReplacement := by
    intro schedule s
    induction schedule with
    | nil => rfl
    | cons t schedule ih => exact ih
  induction schedule with
  | nil => rfl
  | cons t schedule ih =>
      rw [List.foldl_cons, List.any_cons]
      by_cases hstale : s.staleReplacement (t - HOUR_MS) = true
      · have hcleaned : s.cleaned t = s.dropReplacement := if_pos hstale
        rw [hcleaned, hdropped, hstale]
        rfl
      · have hcleaned : s.cleaned t = s := if_neg hstale
        rw [hcleaned, ih]
        simp [hstale]

variable (signedOut) in
/-- The row after the cleanups: gone when one of them deletes it, without its pair when one of
them finds the pair stale. -/
theorem find?_cleanups (schedule : List Time) (w : World) (k : String) :
    (w.cleanups signedOut schedule).sessions.find? k =
      ((w.sessions.find? k).filter fun s => schedule.all fun t => s.kept t).map fun s =>
        if schedule.any fun t => s.staleReplacement (t - HOUR_MS) then s.dropReplacement
        else s := by
  simp only [← foldl_cleaned]
  induction schedule generalizing w with
  | nil => cases h : w.sessions.find? k <;> simp [World.cleanups, h, Option.filter_some]
  | cons t schedule ih =>
      have hstep : w.cleanups signedOut (t :: schedule) =
          (w.cleanup signedOut t).cleanups signedOut schedule := rfl
      rw [hstep, ih, find?_cleanup]
      cases w.sessions.find? k with
      | none => rfl
      | some s =>
          by_cases hkept : s.kept t = true
          · simp [Option.filter_some, hkept, Session.kept_cleaned, apply_ite]
          · simp [Option.filter_some, hkept]

end Cleanup

section Rotated

def dayMs : Time := 24 * 60 * 60 * 1000

/-- Refresh tokens live for 60 days, the grace window is two hours, and every blob holds the
pair that the first rotation mints. -/
def longEnv : TokenEnv where
  hashToken := id
  sign := fun p _ _ => tally p.jti
  verify := fun _ now =>
    if now < 60 * dayMs then
      some { sub := 1, email := "", roles := [], gates := [], type := .refresh, jti := 0 }
    else none
  gcmSeal := fun _ _ => "sealed"
  gcmOpen := fun _ => some (.obj
    [("userId", .num 1), ("accessToken", .str ""), ("accessExpiresAt", .str ""),
      ("refreshToken", .str "1"), ("refreshExpiresAt", .str "")])
  toISOString := fun _ => ""
  newDate := fun _ => 0
  JWT_REFRESH_EXPIRATION := some "60d"
  REFRESH_TOKEN_REUSE_GRACE_SECONDS := some "7200"

/-- One user with one live refresh token for 60 days. -/
def longWorld : World where
  users := Table.empty.insertNew { id := 1, email := "" }
  sessions := Table.empty.insertNew
    { token := "R", tokenType := .refresh, userId := 1, expiresAt := 60 * dayMs }

/-- The token has been rotated at time 0. -/
def rotatedWorld : World :=
  ((rotateRefreshToken longEnv "R" none none).run longWorld).2

def rotatedRow : Session :=
  { token := "R", tokenType := .refresh, userId := 1, expiresAt := 60 * dayMs, revoked := true,
    revokedAt := some 0, replacementCiphertext := some "sealed" }

def keepCookies : SignOut := fun _ _ => false

theorem find?_rotatedWorld : rotatedWorld.sessions.find? "R" = some rotatedRow := by
  decide +kernel

end Rotated

section Reuse

/-- Presenting the token ends all sessions of its user. -/
def ReuseDetected (E : TokenEnv) (w : World) (raw : String) (userId : ℕ)
    (ipAddress userAgent : Option String) : Prop :=
  ∃ w', (rotateRefreshToken E raw ipAddress userAgent).run w =
    (.error (.refreshTokenReuse userId), w') ∧ NoLiveRow userId none w'.sessions

variable {E : TokenEnv} {w : World} {raw : String} {session : Session} {revokedAt t : Time}

/-- A rotated token that is presented again after the grace window, and still verifies, is
detected exactly when no cleanup in between ran after the row had expired or thirty days after
its rotation. -/
theorem reuse_detected_iff (signedOut : SignOut) (schedule : List Time)
    (ipAddress userAgent : Option String)
    (hrow : w.sessions.find? (E.hashToken raw) = some session)
    (htype : session.tokenType = .refresh)
    (hrev : session.revoked = true) (hat : session.revokedAt = some revokedAt)
    (hverify : (E.verify raw t).any (fun payload => payload.type = .refresh) = true)
    (hlate : session.inGrace E t = false) :
    ReuseDetected E ((w.cleanups signedOut schedule).atTime t) raw session.userId
        ipAddress userAgent ↔
      ∀ τ ∈ schedule, τ ≤ session.expiresAt ∧ τ ≤ revokedAt + THIRTY_DAYS_MS := by
  have hkept : (∀ τ ∈ schedule, τ ≤ session.expiresAt ∧ τ ≤ revokedAt + THIRTY_DAYS_MS) ↔
      (schedule.all fun τ => session.kept τ) = true := by
    simp only [List.all_eq_true, Session.kept_iff hrev hat]
  have hfind := find?_cleanups signedOut schedule w (E.hashToken raw)
  rw [hrow, Option.filter_some] at hfind
  rw [hkept]
  constructor
  · rintro ⟨w', hrun, -⟩
    by_contra hgone
    rw [if_neg hgone] at hfind
    have hnone : ((w.cleanups signedOut schedule).atTime t).refreshRow E raw = none :=
      World.refreshRow_eq_none hfind
    obtain ⟨message, herror⟩ := rotateRefreshToken_run_none E _ ipAddress userAgent hnone
    exact absurd (hrun.symm.trans herror) (by simp)
  · intro hall
    obtain ⟨s, hs, huser, hstype, hsrev, hslate⟩ : ∃ s,
        ((w.cleanups signedOut schedule).atTime t).sessions.find? (E.hashToken raw) = some s ∧
          s.userId = session.userId ∧ s.tokenType = .refresh ∧ s.revoked = true ∧
          s.inGrace E t = false := by
      refine ⟨_, hfind.trans (by rw [if_pos hall, Option.map_some]), ?_⟩
      split <;> exact ⟨rfl, htype, hrev, hlate⟩
    have hsome : ((w.cleanups signedOut schedule).atTime t).refreshRow E raw = some s :=
      World.refreshRow_eq_some_iff.2 ⟨hverify, hs, hstype⟩
    refine ⟨_, ?_, noLiveRow_revokeAll ((w.cleanups signedOut schedule).atTime t) _ none⟩
    rw [rotateRefreshToken_run_some E _ ipAddress userAgent hsome, if_pos hsrev,
      replayOrDetectReuse_run E hs, if_neg (by simp [hslate]), huser]

/-- A cleanup after a day, the token again the day after. -/
theorem reuse_detected_iff_daily :
    rotatedRow.inGrace longEnv (2 * dayMs) = false ∧
      ReuseDetected longEnv ((rotatedWorld.cleanups keepCookies [dayMs]).atTime (2 * dayMs)) "R" 1
        none none := by
  have hlate : rotatedRow.inGrace longEnv (2 * dayMs) = false := by decide +kernel
  have hverify : ((longEnv.verify "R" (2 * dayMs)).any fun payload => payload.type = .refresh) =
      true := by decide +kernel
  have hearly : ∀ τ ∈ [dayMs], τ ≤ rotatedRow.expiresAt ∧ τ ≤ 0 + THIRTY_DAYS_MS := by
    decide +kernel
  exact ⟨hlate, (reuse_detected_iff keepCookies [dayMs] none none find?_rotatedWorld rfl rfl rfl
    hverify hlate).2 hearly⟩

/-- The cleanup of day 31 deletes the row of a token that lives for 60 days; presented on day
32 it is refused, and the session that came out of it goes on. -/
theorem reuse_forgotten :
    rotatedWorld.sessions.find? "R" = some rotatedRow ∧
      rotatedRow.inGrace longEnv (32 * dayMs) = false ∧
      (longEnv.verify "R" (32 * dayMs)).isSome = true ∧
      ¬ ReuseDetected longEnv ((rotatedWorld.cleanups keepCookies [31 * dayMs]).atTime (32 * dayMs))
        "R" 1 none none ∧
      ¬ NoLiveRow 1 none (((rotateRefreshToken longEnv "R" none none).run
        ((rotatedWorld.cleanups keepCookies [31 * dayMs]).atTime (32 * dayMs))).2.sessions) := by
  have hrun : ((rotateRefreshToken longEnv "R" none none).run
      ((rotatedWorld.cleanups keepCookies [31 * dayMs]).atTime (32 * dayMs))).1 =
        .error (.unauthorized "Invalid or expired refresh token") := by decide +kernel
  refine ⟨by decide +kernel, by decide +kernel, by decide +kernel, ?_, ?_⟩
  · rintro ⟨w', h, -⟩
    rw [h] at hrun
    simp at hrun
  · intro h
    have hrow := h { token := "1", tokenType := .refresh, userId := 1, expiresAt := 60 * dayMs }
      (by decide +kernel) rfl rfl
    cases hrow

/-- Within the grace window a rotated token gives the stored pair. -/
theorem rotateRefreshToken_run_replay {pair : IRotatedTokens} (ipAddress userAgent : Option String)
    (hsession : w.refreshRow E raw = some session) (hrev : session.revoked = true)
    (hgrace : session.inGrace E w.now = true) (hreplay : w.replay E session = some pair) :
    (rotateRefreshToken E raw ipAddress userAgent).run w = (.ok pair, w) := by
  obtain ⟨-, hrow, -⟩ := World.refreshRow_eq_some_iff.1 hsession
  rw [rotateRefreshToken_run_some E w ipAddress userAgent hsession, if_pos hrev,
    replayOrDetectReuse_run E hrow, if_pos hgrace, hreplay]

/-- Without a stored pair it is refused. -/
theorem rotateRefreshToken_run_refused (ipAddress userAgent : Option String)
    (hsession : w.refreshRow E raw = some session) (hrev : session.revoked = true)
    (hgrace : session.inGrace E w.now = true) (hreplay : w.replay E session = none) :
    (rotateRefreshToken E raw ipAddress userAgent).run w =
      (.error (.unauthorized "Refresh token already used"), w) := by
  obtain ⟨-, hrow, -⟩ := World.refreshRow_eq_some_iff.1 hsession
  rw [rotateRefreshToken_run_some E w ipAddress userAgent hsession, if_pos hrev,
    replayOrDetectReuse_run E hrow, if_pos hgrace, hreplay]

/-- A live refresh token outlives the cleanups before its expiry. -/
theorem pairLive_cleanups (signedOut : SignOut) {schedule : List Time} {userId : ℕ}
    {pair : IRotatedTokens} (hbefore : ∀ τ ∈ schedule, τ ≤ t)
    (h : (w.atTime t).pairLive E userId pair = true) :
    ((w.cleanups signedOut schedule).atTime t).pairLive E userId pair = true := by
  simp only [World.pairLive, Bool.and_eq_true, World.sessions_atTime, World.now_atTime] at h ⊢
  obtain ⟨huser, hchild⟩ := h
  obtain ⟨child, hfind, hlive⟩ := (Option.any_eq_true _ _).1 hchild
  simp only [Bool.and_eq_true, Bool.not_eq_true', decide_eq_true_eq] at hlive
  obtain ⟨⟨hrefresh, hunrevoked⟩, hexpires⟩ := hlive
  have hkept : (schedule.all fun τ => child.kept τ) = true := by
    rw [List.all_eq_true]
    intro τ hτ
    have hlt : t < child.expiresAt := of_decide_eq_true hexpires
    exact (Session.kept_of_live hunrevoked).2 ((hbefore τ hτ).trans hlt.le)
  refine ⟨huser, ?_⟩
  rw [find?_cleanups signedOut, hfind, Option.filter_some, if_pos hkept, Option.map_some,
    Option.any_some]
  split <;> simp [Session.dropReplacement, hrefresh, hunrevoked, of_decide_eq_true hexpires]

/-- Cleanups before the presentation do not change its outcome exactly when the token does not
verify, or each of them ran before the row expired and within an hour of the rotation. -/
theorem cleanup_invisible_iff (signedOut : SignOut) (schedule : List Time)
    (ipAddress userAgent : Option String) {pair : IRotatedTokens}
    (hrow : w.sessions.find? (E.hashToken raw) = some session)
    (htype : session.tokenType = .refresh)
    (hrev : session.revoked = true) (hat : session.revokedAt = some revokedAt)
    (hgrace : session.inGrace E t = true) (hreplay : (w.atTime t).replay E session = some pair)
    (hbefore : ∀ τ ∈ schedule, τ ≤ t) :
    ((rotateRefreshToken E raw ipAddress userAgent).run
        ((w.cleanups signedOut schedule).atTime t)).1 =
      ((rotateRefreshToken E raw ipAddress userAgent).run (w.atTime t)).1 ↔
      ((E.verify raw t).any (fun payload => payload.type = .refresh) = true →
        ∀ τ ∈ schedule, τ ≤ session.expiresAt ∧ τ ≤ revokedAt + HOUR_MS) := by
  cases hverify : (E.verify raw t).any fun payload => payload.type = .refresh with
  | false =>
      rw [rotateRefreshToken_run_unverified E ((w.cleanups signedOut schedule).atTime t) _ _
        hverify,
        rotateRefreshToken_run_unverified E (w.atTime t) _ _ hverify]
      exact iff_of_true rfl fun h => by cases h
  | true =>
      have hsession : (w.atTime t).refreshRow E raw = some session :=
        World.refreshRow_eq_some_iff.2 ⟨hverify, hrow, htype⟩
      obtain ⟨blob, hblob, hpair⟩ := Option.bind_eq_some_iff.1 hreplay
      have hstored : session.replacementCiphertext.isSome = true := by
        rw [(Js.truthy_eq_some_iff.1 hblob).1, Option.isSome_some]
      have hstale : ∀ τ, session.staleReplacement (τ - HOUR_MS) = false ↔
          τ ≤ revokedAt + HOUR_MS := by
        intro τ
        simp only [Session.staleReplacement, hstored, hat, Option.any_some, Bool.true_and,
          decide_eq_false_iff_not, not_lt]
        rw [Int.sub_right_le_iff_le_add]
      have hfind := find?_cleanups signedOut schedule w (E.hashToken raw)
      rw [hrow, Option.filter_some] at hfind
      rw [rotateRefreshToken_run_replay ipAddress userAgent hsession hrev hgrace hreplay]
      constructor
      · intro hsame _ τ hτ
        by_cases hkept : (schedule.all fun τ => session.kept τ) = true
        · rw [if_pos hkept, Option.map_some] at hfind
          refine ⟨((Session.kept_iff hrev hat).1 (List.all_eq_true.1 hkept τ hτ)).1, ?_⟩
          by_contra hlate
          have hany : (schedule.any fun τ => session.staleReplacement (τ - HOUR_MS)) = true := by
            rw [List.any_eq_true]
            exact ⟨τ, hτ, by simpa using mt (hstale τ).1 hlate⟩
          rw [if_pos hany] at hfind
          have hdropped : ((w.cleanups signedOut schedule).atTime t).refreshRow E raw =
              some session.dropReplacement :=
            World.refreshRow_eq_some_iff.2 ⟨hverify, hfind, htype⟩
          rw [rotateRefreshToken_run_refused ipAddress userAgent hdropped hrev hgrace rfl] at hsame
          cases hsame
        · rw [if_neg hkept, Option.map_none] at hfind
          obtain ⟨message, herror⟩ := rotateRefreshToken_run_none E
            ((w.cleanups signedOut schedule).atTime t) ipAddress userAgent
            (World.refreshRow_eq_none hfind)
          rw [herror] at hsame
          cases hsame
      · intro hkeeps
        have hkept : (schedule.all fun τ => session.kept τ) = true := by
          rw [List.all_eq_true]
          intro τ hτ
          obtain ⟨hexp, hhour⟩ := hkeeps rfl τ hτ
          have hmonth : revokedAt + HOUR_MS ≤ revokedAt + THIRTY_DAYS_MS :=
            Int.add_le_add_left (by decide) revokedAt
          exact (Session.kept_iff hrev hat).2 ⟨hexp, hhour.trans hmonth⟩
        have hfresh : ¬ (schedule.any fun τ => session.staleReplacement (τ - HOUR_MS)) = true := by
          rw [List.any_eq_true]
          rintro ⟨τ, hτ, hs⟩
          rw [(hstale τ).2 (hkeeps rfl τ hτ).2] at hs
          cases hs
        rw [if_pos hkept, Option.map_some, if_neg hfresh] at hfind
        have hsession' : ((w.cleanups signedOut schedule).atTime t).refreshRow E raw =
            some session :=
          World.refreshRow_eq_some_iff.2 ⟨hverify, hfind, htype⟩
        obtain ⟨hdecrypt, hlive⟩ := Option.filter_eq_some_iff.1 hpair
        have hreplay' : ((w.cleanups signedOut schedule).atTime t).replay E session = some pair :=
          Option.bind_eq_some_iff.2 ⟨blob, hblob, Option.filter_eq_some_iff.2
            ⟨hdecrypt, pairLive_cleanups signedOut hbefore hlive⟩⟩
        rw [rotateRefreshToken_run_replay ipAddress userAgent hsession' hrev hgrace hreplay']

/-- A cleanup half an hour after the rotation, the token again an hour after it. -/
theorem cleanup_invisible_iff_halfHour :
    rotatedRow.inGrace longEnv HOUR_MS = true ∧
      ((rotateRefreshToken longEnv "R" none none).run
          ((rotatedWorld.cleanups keepCookies [1800000]).atTime HOUR_MS)).1 =
        ((rotateRefreshToken longEnv "R" none none).run (rotatedWorld.atTime HOUR_MS)).1 := by
  refine ⟨by decide +kernel, ?_⟩
  have hreplay : (rotatedWorld.atTime HOUR_MS).replay longEnv rotatedRow =
      some { userId := 1, accessToken := "", accessExpiresAt := 0, refreshToken := "1",
             refreshExpiresAt := 0 } := by decide +kernel
  exact (cleanup_invisible_iff keepCookies [1800000] none none find?_rotatedWorld rfl rfl rfl
    (by decide +kernel) hreplay (by decide +kernel)).2 fun _ => by decide +kernel

/-- The grace window is two hours; a cleanup 90 minutes after the rotation drops the pair. -/
theorem cleanup_drops_replay :
    rotatedRow.inGrace longEnv (2 * HOUR_MS) = true ∧
      ((rotatedWorld.atTime (2 * HOUR_MS)).replay longEnv rotatedRow).isSome = true ∧
      ((rotateRefreshToken longEnv "R" none none).run (rotatedWorld.atTime (2 * HOUR_MS))).1 =
        .ok { userId := 1, accessToken := "", accessExpiresAt := 0, refreshToken := "1",
              refreshExpiresAt := 0 } ∧
      ((rotateRefreshToken longEnv "R" none none).run
        ((rotatedWorld.cleanups keepCookies [5400000]).atTime (2 * HOUR_MS))).1 =
          .error (.unauthorized "Refresh token already used") := by
  decide +kernel

end Reuse

end FifiAlert
