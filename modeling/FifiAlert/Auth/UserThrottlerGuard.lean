import FifiAlert.Js.Text

/-!
# The bucket of a request

`UserThrottlerGuard.getTracker` names the bucket that a request counts against: the user, else
the client key it presents, with the first forwarded address when the key is valid, else the
address it comes from. A key is hashed whether it is valid or not, so without a user the bucket
goes by the key presented and never by the forwarded addresses.
-/

namespace FifiAlert

open Js

/-- The value of a header that was sent once or several times. -/
inductive HeaderValue where
  | one (value : String)
  | many (values : List String)

/-- What the guards read of a request. -/
structure TrackedRequest where
  userId : Option ℕ := none
  headers : String → Option HeaderValue := fun _ => none
  ips : Option (List String) := none
  ip : Option String := none

/-- The configured keys, and the digest of `crypto` in hexadecimal. -/
structure ThrottlerEnv where
  CLIENT_API_KEYS : Option String := none
  sha256 : String → String

def CLIENT_KEY_HEADER : String := "x-client-key"

/-- Header a trusted client app (BFF) uses to pass the end user's IP through. -/
def FORWARDED_FOR_HEADER : String := "x-forwarded-for"

namespace ClientKeyGuard

def getConfiguredClientKeys (E : ThrottlerEnv) : List String :=
  (((splitOn [','] (E.CLIENT_API_KEYS.getD "").toList).map fun s => String.ofList (trim s))).filter
    fun s => s ≠ ""

def safeEquals (expected actual : String) : Bool :=
  let a := expected.toUTF8.toList
  let b := actual.toUTF8.toList
  if a.length ≠ b.length then false else a = b

def isValidClientKey (E : ThrottlerEnv) (presented : String) : Bool :=
  (getConfiguredClientKeys E).any fun key => safeEquals key presented

end ClientKeyGuard

namespace UserThrottlerGuard

open ClientKeyGuard

def firstHeader (value : Option HeaderValue) : Option String :=
  let raw := match value with
    | some (.many values) => values.head?
    | some (.one s) => some s
    | none => none
  raw.filter fun s => s ≠ ""

/-- First address in an `X-Forwarded-For` list, trimmed. -/
def firstForwardedIp (value : Option HeaderValue) : Option String :=
  match firstHeader value with
  | none => none
  | some raw =>
    let first := (splitOn [','] raw.toList).head?.map trim
    (first.filter fun cs => cs ≠ [] && utf16Length cs ≤ 64).map String.ofList

/-- The key that a request presents. -/
def clientKey (req : TrackedRequest) : Option String :=
  firstHeader (req.headers CLIENT_KEY_HEADER)

/-- Hashed, so the raw key never lands in the throttler store or logs. -/
def clientBucket (E : ThrottlerEnv) (key : String) : String :=
  "client:" ++ String.ofList (utf16Take 16 (E.sha256 key).toList)

/-- The address that a request comes from. -/
def address (req : TrackedRequest) : String :=
  match req.ips with
  | some (ip :: _) => ip
  | _ => req.ip.getD ""

def getTracker (E : ThrottlerEnv) (req : TrackedRequest) : String :=
  match req.userId.filter fun id => id ≠ 0 with
  | some id => "user:" ++ toString id
  | none =>
    match clientKey req with
    | some key =>
      let forwarded :=
        if isValidClientKey E key then firstForwardedIp (req.headers FORWARDED_FOR_HEADER)
        else none
      match forwarded with
      | some ip => clientBucket E key ++ ":ip:" ++ ip
      | none => clientBucket E key
    | none => address req

/-- No authenticated user, and no valid key. -/
structure IsUntrusted (E : ThrottlerEnv) (req : TrackedRequest) : Prop where
  user : (req.userId.filter fun id => id ≠ 0) = none
  key : ∀ key, clientKey req = some key → isValidClientKey E key = false

variable {E : ThrottlerEnv} {req req₁ req₂ : TrackedRequest}

theorem IsUntrusted.getTracker (h : IsUntrusted E req) :
    getTracker E req = ((clientKey req).map (clientBucket E)).getD (address req) := by
  unfold UserThrottlerGuard.getTracker
  rw [h.user]
  cases hkey : clientKey req with
  | none => rfl
  | some key => simp [h.key key hkey]

/-- Two untrusted requests from one address that present the same key, or none, share a bucket,
whatever forwarded addresses they carry. -/
theorem getTracker_of_sameKey (E : ThrottlerEnv) (req₁ req₂ : TrackedRequest)
    (h₁ : IsUntrusted E req₁) (h₂ : IsUntrusted E req₂)
    (hips : req₁.ips = req₂.ips) (hip : req₁.ip = req₂.ip)
    (hkey : clientKey req₁ = clientKey req₂) : getTracker E req₁ = getTracker E req₂ := by
  have haddress : address req₁ = address req₂ := by
    unfold address
    rw [hips, hip]
  rw [h₁.getTracker, h₂.getTracker, hkey, haddress]

/-- One configured key, and the digests of the keys presented below. -/
def webThrottler : ThrottlerEnv where
  CLIENT_API_KEYS := some "web-key"
  sha256 := fun key =>
    if key = "key-one" then "9b346041bc9a49574eb2665b2ad2a0a3f9f9cce4e42f5d1f26deb8a256b5966a"
    else if key = "key-two" then
      "c8df51469c308a59bfbd48a3e0bdd228ca922d6032035f5ef6e4ad45f473a9f3"
    else "ca3704aa0b06f5954c79ee837faa152d84d6b2d42838f0637a15eda8337dbdce"

def presenting (key : String) (forwarded : Option String) : TrackedRequest where
  headers := fun name =>
    if name = CLIENT_KEY_HEADER then some (.one key)
    else if name = FORWARDED_FOR_HEADER then forwarded.map .one else none
  ip := some "10.0.0.1"

theorem presenting_isUntrusted {key : String} {forwarded : Option String} (hne : key ≠ "")
    (hkey : isValidClientKey webThrottler key = false) :
    IsUntrusted webThrottler (presenting key forwarded) where
  user := rfl
  key := by
    intro key' h
    have hpresented : clientKey (presenting key forwarded) = some key := by
      simp [clientKey, presenting, firstHeader, hne]
    rw [hpresented] at h
    cases h
    exact hkey

/-- A wrong key with two forwarded addresses. -/
theorem getTracker_of_sameKey_forwarded :
    getTracker webThrottler (presenting "nope" (some "1.2.3.4")) =
      getTracker webThrottler (presenting "nope" (some "5.6.7.8")) :=
  getTracker_of_sameKey webThrottler _ _
    (presenting_isUntrusted (by decide) (by decide +kernel))
    (presenting_isUntrusted (by decide) (by decide +kernel)) rfl rfl rfl

/-- Two wrong keys from one address count against two buckets. -/
theorem getTracker_by_wrongKey :
    IsUntrusted webThrottler (presenting "key-one" none) ∧
      IsUntrusted webThrottler (presenting "key-two" none) ∧
      (presenting "key-one" none).ip = (presenting "key-two" none).ip ∧
      (presenting "key-one" none).ips = (presenting "key-two" none).ips ∧
      getTracker webThrottler (presenting "key-one" none) ≠
        getTracker webThrottler (presenting "key-two" none) :=
  ⟨presenting_isUntrusted (by decide) (by decide +kernel),
    presenting_isUntrusted (by decide) (by decide +kernel), rfl, rfl, by decide +kernel⟩

end UserThrottlerGuard

end FifiAlert
