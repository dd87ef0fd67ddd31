import FifiAlert.Auth.TokenProtocol
import FifiAlert.Js.Buffer
import FifiAlert.Js.IsoDate
import FifiAlert.Js.JsonText
import FifiAlert.Js.Splitting

/-!
# The stored replacement of a refresh token

A rotated pair is kept on the consumed row as a text of three parts: an initialization vector, an
authentication tag and a ciphertext, each in Base64, with dots in between. The plaintext is the pair
as JSON, with its dates as texts. `decryptReplacement` takes the layers off again and answers with
nothing whenever one of them fails.

The cipher, the reading of Base64, of UTF-8 and of JSON and the parsing of dates are parameters, and
`ReplacementEnv.Lawful` is what is relied on: each reading inverts its writing, and the cipher opens
nothing but what was sealed under the key.
-/

namespace FifiAlert

/-- What `randomBytes(12)` returns. -/
abbrev Iv := {bytes : List UInt8 // bytes.length = 12}

/-- A rotated pair, with dates that may be invalid. -/
structure ReplacementPair where
  userId : ℚ
  accessToken : String
  accessExpiresAt : Js.DateTime
  refreshToken : String
  refreshExpiresAt : Js.DateTime
  deriving DecidableEq

/-- An integer for the user, and dates that are valid. -/
structure ReplacementPair.WellFormed (pair : ReplacementPair) : Prop where
  userId : ∃ n : ℤ, Js.IsNumber n ∧ pair.userId = n
  accessExpiresAt : pair.accessExpiresAt.isSome = true
  refreshExpiresAt : pair.refreshExpiresAt.isSome = true

/-- The cipher with its key, and the readings of texts and bytes. `encipher` gives the tag and the
ciphertext of a plaintext, from the key and the initialization vector. -/
structure ReplacementEnv where
  JWT_SECRET : Option String := none
  sha256 : String → List UInt8
  encipher : (key iv plaintext : List UInt8) → List UInt8 × List UInt8
  decipher : (key iv tag ciphertext : List UInt8) → Except AppError (List UInt8)
  fromBase64 : List Char → List UInt8
  utf8Text : List UInt8 → String
  stringify : Js.Json → String
  parse : String → Except AppError Js.Json
  newDate : String → Js.DateTime

/-- `date.toISOString()`. -/
def toISOString : Js.DateTime → Except AppError String
  | none => .error (.error "Invalid time value")
  | some time => .ok (Js.toISOString time)

namespace ReplacementEnv

variable (E : ReplacementEnv)

def replacementKey : List UInt8 :=
  E.sha256 (Js.orDefault E.JWT_SECRET "your-secret-key-change-in-production")

/-- The tag and the ciphertext of a value. -/
def sealed (iv : Iv) (v : Js.Json) : List UInt8 × List UInt8 :=
  E.encipher E.replacementKey iv (Js.utf8Bytes (E.stringify v))

/-- The blob of a value. -/
def sealJson (iv : Iv) (v : Js.Json) : String :=
  String.ofList <| Js.joinWith ['.'] <|
    [iv.1, (E.sealed iv v).1, (E.sealed iv v).2].map Js.toBase64

def encryptReplacement (iv : Iv) (pair : ReplacementPair) : Except AppError String := do
  let accessExpiresAt ← toISOString pair.accessExpiresAt
  let refreshExpiresAt ← toISOString pair.refreshExpiresAt
  return E.sealJson iv <|
    pairJson pair.userId pair.accessToken accessExpiresAt pair.refreshToken refreshExpiresAt

/-- The value of a blob; `none` is for a blob of fewer than three parts, or with an empty one. -/
def openJson (blob : String) : Except AppError (Option Js.Json) :=
  match Js.splitOn ['.'] blob.toList with
  | ivB64 :: tagB64 :: ctB64 :: _ =>
      if ivB64 = [] ∨ tagB64 = [] ∨ ctB64 = [] then .ok none
      else do
        let plaintext ← E.decipher E.replacementKey (E.fromBase64 ivB64) (E.fromBase64 tagB64)
          (E.fromBase64 ctB64)
        let parsed ← E.parse (E.utf8Text plaintext)
        return some parsed
  | _ => .ok none

/-- The checks of the five fields. Only `null` has no properties to be read. -/
def readPair : Js.Json → Except AppError (Option ReplacementPair)
  | .null => .error (.error "Cannot read properties of null (reading 'userId')")
  | parsed =>
      match parsed.get? "userId", parsed.get? "accessToken", parsed.get? "refreshToken",
          parsed.get? "accessExpiresAt", parsed.get? "refreshExpiresAt" with
      | some (.num userId), some (.str accessToken), some (.str refreshToken),
          some (.str accessExpiresAt), some (.str refreshExpiresAt) =>
          .ok <| some
            { userId, accessToken, refreshToken
              accessExpiresAt := E.newDate accessExpiresAt
              refreshExpiresAt := E.newDate refreshExpiresAt }
      | _, _, _, _, _ => .ok none

/-- The body of the `try` block. -/
def openReplacement (blob : String) : Except AppError (Option ReplacementPair) := do
  match ← E.openJson blob with
  | none => return none
  | some parsed => E.readPair parsed

def decryptReplacement (blob : String) : Except AppError (Option ReplacementPair) :=
  (E.openReplacement blob).tryCatch fun _ => .ok none

/-- What the cipher and the readings are relied on for. A tag that starts the full one, four bytes
of it at least, is accepted as well. -/
structure Lawful : Prop where
  length_tag : ∀ iv plaintext, (E.encipher E.replacementKey iv plaintext).1.length = 16
  length_ciphertext : ∀ iv plaintext,
    (E.encipher E.replacementKey iv plaintext).2.length = plaintext.length
  decipher_encipher : ∀ (iv : Iv) plaintext,
    E.decipher E.replacementKey iv (E.encipher E.replacementKey iv plaintext).1
      (E.encipher E.replacementKey iv plaintext).2 = .ok plaintext
  encipher_of_decipher : ∀ {iv tag ciphertext plaintext},
    E.decipher E.replacementKey iv tag ciphertext = .ok plaintext →
      4 ≤ tag.length ∧ tag <+: (E.encipher E.replacementKey iv plaintext).1 ∧
        (E.encipher E.replacementKey iv plaintext).2 = ciphertext
  fromBase64_toBase64 : ∀ bytes, E.fromBase64 (Js.toBase64 bytes) = bytes
  utf8Text_utf8Bytes : ∀ text, E.utf8Text (Js.utf8Bytes text) = text
  parse_empty : ∃ error, E.parse "" = .error error
  parse_stringify : ∀ (n : ℤ), Js.IsNumber n → ∀ a ax r rx,
    E.parse (E.stringify (pairJson n a ax r rx)) = .ok (pairJson n a ax r rx)
  newDate_toISOString : ∀ time : {time : ℤ // Js.IsTime time},
    E.newDate (Js.toISOString time) = some time

/-- The bytes are a tag and a ciphertext of the plaintext, under the key. -/
structure Authenticates (iv tag ciphertext plaintext : List UInt8) : Prop where
  deciphered : E.decipher E.replacementKey iv tag ciphertext = .ok plaintext
  length_tag : 4 ≤ tag.length
  tag_start : tag <+: (E.encipher E.replacementKey iv plaintext).1
  ciphertext_eq : (E.encipher E.replacementKey iv plaintext).2 = ciphertext

/-- The value has the five fields of the pair. -/
structure Reads (parsed : Js.Json) (pair : ReplacementPair) : Prop where
  userId : parsed.get? "userId" = some (.num pair.userId)
  accessToken : parsed.get? "accessToken" = some (.str pair.accessToken)
  refreshToken : parsed.get? "refreshToken" = some (.str pair.refreshToken)
  accessExpiresAt : ∃ text, parsed.get? "accessExpiresAt" = some (.str text) ∧
    E.newDate text = pair.accessExpiresAt
  refreshExpiresAt : ∃ text, parsed.get? "refreshExpiresAt" = some (.str text) ∧
    E.newDate text = pair.refreshExpiresAt

/-- The first three parts of the blob authenticate, and the plaintext is the pair as JSON. -/
def Holds (blob : String) (pair : ReplacementPair) : Prop :=
  ∃ ivB64 tagB64 ctB64 rest plaintext parsed,
    Js.splitOn ['.'] blob.toList = ivB64 :: tagB64 :: ctB64 :: rest ∧
      E.Authenticates (E.fromBase64 ivB64) (E.fromBase64 tagB64) (E.fromBase64 ctB64) plaintext ∧
        E.parse (E.utf8Text plaintext) = .ok parsed ∧ E.Reads parsed pair

variable {E} {blob : String} {pair : ReplacementPair}

/-- The checks let a value through if and only if it has the five fields. -/
theorem readPair_eq_some_iff {parsed : Js.Json} :
    E.readPair parsed = .ok (some pair) ↔ E.Reads parsed pair := by
  constructor
  · intro h
    unfold readPair at h
    split at h
    · cases h
    · split at h
      next huser haccess hrefresh hax hrx =>
          obtain rfl := Option.some.inj (Except.ok.inj h)
          exact ⟨huser, haccess, hrefresh, ⟨_, hax, rfl⟩, ⟨_, hrx, rfl⟩⟩
      next => cases h
  · rintro ⟨huser, haccess, hrefresh, ⟨ax, hax, hdate⟩, rx, hrx, hdate'⟩
    unfold readPair
    split
    · cases huser
    · simp only [huser, haccess, hrefresh, hax, hrx, hdate, hdate']

theorem decryptReplacement_eq_some_iff :
    E.decryptReplacement blob = .ok (some pair) ↔
      ∃ parsed, E.openJson blob = .ok (some parsed) ∧ E.readPair parsed = .ok (some pair) := by
  constructor
  · intro h
    unfold decryptReplacement at h
    cases hopen : E.openReplacement blob with
    | error e =>
        rw [hopen] at h
        cases h
    | ok r =>
        rw [hopen] at h
        obtain rfl : r = some pair := Except.ok.inj h
        obtain ⟨found, hjson, hread⟩ := except_bind_eq_ok.1 hopen
        cases found with
        | none => cases hread
        | some parsed => exact ⟨parsed, hjson, hread⟩
  · rintro ⟨parsed, hjson, hread⟩
    have hopen : E.openReplacement blob = .ok (some pair) :=
      except_bind_eq_ok.2 ⟨some parsed, hjson, hread⟩
    rw [decryptReplacement, hopen]
    rfl

/-- A blob is opened if and only if its first three parts are there, are deciphered, and the
plaintext is JSON. -/
theorem openJson_eq_some_iff {parsed : Js.Json} :
    E.openJson blob = .ok (some parsed) ↔
      ∃ ivB64 tagB64 ctB64 rest plaintext,
        Js.splitOn ['.'] blob.toList = ivB64 :: tagB64 :: ctB64 :: rest ∧
          ¬ (ivB64 = [] ∨ tagB64 = [] ∨ ctB64 = []) ∧
            E.decipher E.replacementKey (E.fromBase64 ivB64) (E.fromBase64 tagB64)
              (E.fromBase64 ctB64) = .ok plaintext ∧
              E.parse (E.utf8Text plaintext) = .ok parsed := by
  constructor
  · intro h
    unfold openJson at h
    split at h
    next ivB64 tagB64 ctB64 rest hsplit =>
        split_ifs at h with hempty
        · cases h
        · obtain ⟨plaintext, hplain, hrest⟩ := except_bind_eq_ok.1 h
          obtain ⟨found, hparse, hfound⟩ := except_bind_eq_ok.1 hrest
          obtain rfl : found = parsed := Option.some.inj (Except.ok.inj hfound)
          exact ⟨ivB64, tagB64, ctB64, rest, plaintext, hsplit, hempty, hplain, hparse⟩
    next => cases h
  · rintro ⟨ivB64, tagB64, ctB64, rest, plaintext, hsplit, hempty, hplain, hparse⟩
    rw [openJson, hsplit]
    dsimp only
    rw [if_neg hempty]
    exact except_bind_eq_ok.2 ⟨plaintext, hplain, except_bind_eq_ok.2 ⟨parsed, hparse, rfl⟩⟩

/-- The three parts of a blob are told apart by the dots. -/
theorem splitOn_sealJson (iv : Iv) (v : Js.Json) : Js.splitOn ['.'] (E.sealJson iv v).toList =
    [iv.1, (E.sealed iv v).1, (E.sealed iv v).2].map Js.toBase64 := by
  rw [sealJson, String.toList_ofList]
  refine Js.splitOn_joinWith (by simp) fun piece hpiece => ?_
  obtain ⟨bytes, -, rfl⟩ := List.mem_map.1 hpiece
  exact Js.dot_not_mem_toBase64 bytes

/-- Whatever the blob is, nothing is thrown. -/
theorem exists_decryptReplacement_eq_ok (blob : String) :
    ∃ r, E.decryptReplacement blob = .ok r := by
  unfold decryptReplacement
  cases E.openReplacement blob with
  | error e => exact ⟨none, rfl⟩
  | ok r => exact ⟨r, rfl⟩

namespace Lawful

/-- What is answered authenticates and has its five fields. -/
theorem holds (hE : E.Lawful) (h : E.decryptReplacement blob = .ok (some pair)) :
    E.Holds blob pair := by
  obtain ⟨parsed, hjson, hread⟩ := decryptReplacement_eq_some_iff.1 h
  obtain ⟨ivB64, tagB64, ctB64, rest, plaintext, hsplit, -, hplain, hparse⟩ :=
    openJson_eq_some_iff.1 hjson
  obtain ⟨hlength, htag, hciphertext⟩ := hE.encipher_of_decipher hplain
  exact ⟨ivB64, tagB64, ctB64, rest, plaintext, parsed, hsplit,
    ⟨hplain, hlength, htag, hciphertext⟩, hparse, readPair_eq_some_iff.1 hread⟩

/-- No part of a blob is empty. -/
theorem sealed_ne_nil (hE : E.Lawful) (iv : Iv) {v : Js.Json} (hv : E.stringify v ≠ "") :
    iv.1 ≠ [] ∧ (E.sealed iv v).1 ≠ [] ∧ (E.sealed iv v).2 ≠ [] := by
  refine ⟨?_, ?_, ?_⟩
  · rw [← List.length_pos_iff, iv.2]
    decide
  · rw [← List.length_pos_iff, sealed, hE.length_tag]
    decide
  · rw [← List.length_pos_iff, sealed, hE.length_ciphertext, List.length_pos_iff]
    exact Js.utf8Bytes_ne_nil hv

/-- A value that is read back from its text is opened again. -/
theorem openJson_sealJson (hE : E.Lawful) (iv : Iv) {v : Js.Json}
    (hv : E.parse (E.stringify v) = .ok v) : E.openJson (E.sealJson iv v) = .ok (some v) := by
  have htext : E.stringify v ≠ "" := by
    intro hempty
    obtain ⟨error, herror⟩ := hE.parse_empty
    rw [hempty, herror] at hv
    cases hv
  obtain ⟨hiv, htag, hciphertext⟩ := hE.sealed_ne_nil iv htext
  refine openJson_eq_some_iff.2
    ⟨_, _, _, [], Js.utf8Bytes (E.stringify v), splitOn_sealJson iv v, ?_, ?_, ?_⟩
  · simp [Js.toBase64_ne_nil hiv, Js.toBase64_ne_nil htag, Js.toBase64_ne_nil hciphertext]
  · simp only [hE.fromBase64_toBase64]
    exact hE.decipher_encipher iv _
  · rw [hE.utf8Text_utf8Bytes, hv]

/-- The fields of a pair with valid dates are read from its JSON. -/
theorem reads_pairJson (hE : E.Lawful) (u : ℚ) (a r : String)
    (ax rx : {time : ℤ // Js.IsTime time}) :
    E.Reads (pairJson u a (Js.toISOString ax) r (Js.toISOString rx))
      ⟨u, a, some ax, r, some rx⟩ where
  userId := rfl
  accessToken := rfl
  refreshToken := rfl
  accessExpiresAt := ⟨_, rfl, hE.newDate_toISOString ax⟩
  refreshExpiresAt := ⟨_, rfl, hE.newDate_toISOString rx⟩

/-- A pair comes back from its blob. -/
theorem decryptReplacement_encryptReplacement (hE : E.Lawful) (iv : Iv) (h : pair.WellFormed) :
    ∃ blob, E.encryptReplacement iv pair = .ok blob ∧
      E.decryptReplacement blob = .ok (some pair) := by
  obtain ⟨u, a, ax, r, rx⟩ := pair
  obtain ⟨⟨n, hn, rfl⟩, hax, hrx⟩ := h
  obtain ⟨ax, rfl⟩ := Option.isSome_iff_exists.1 hax
  obtain ⟨rx, rfl⟩ := Option.isSome_iff_exists.1 hrx
  have hopen := hE.openJson_sealJson iv
    (hE.parse_stringify n hn a (Js.toISOString ax) r (Js.toISOString rx))
  have hread := readPair_eq_some_iff.2 (hE.reads_pairJson n a r ax rx)
  exact ⟨_, rfl, decryptReplacement_eq_some_iff.2 ⟨_, hopen, hread⟩⟩

end Lawful

section Sessions

variable (E) (randomBytes : ℕ → Iv) (T : TokenEnv)

/-- The environment of the sessions, with blobs made of bytes. The time of an invalid date is left
at zero. -/
def tokenEnv : TokenEnv :=
  { T with
    gcmSeal := fun n v => E.sealJson (randomBytes n) v
    gcmOpen := fun blob => (E.openJson blob).toOption.join
    toISOString := Js.toISOString
    newDate := fun text => (E.newDate text).elim 0 Subtype.val }

/-- The pair as the sessions have it. -/
def tokens (pair : ReplacementPair) : IRotatedTokens where
  userId := pair.userId
  accessToken := pair.accessToken
  accessExpiresAt := pair.accessExpiresAt.elim 0 Subtype.val
  refreshToken := pair.refreshToken
  refreshExpiresAt := pair.refreshExpiresAt.elim 0 Subtype.val

variable {E randomBytes T}

/-- The sessions open a blob as it is opened here. -/
theorem decryptReplacement_tokenEnv (blob : String) :
    TokenService.decryptReplacement (E.tokenEnv randomBytes T) blob =
      (E.decryptReplacement blob).toOption.join.map tokens := by
  have hfound : (E.tokenEnv randomBytes T).gcmOpen blob = (E.openJson blob).toOption.join := rfl
  unfold TokenService.decryptReplacement decryptReplacement openReplacement
  rw [hfound]
  cases E.openJson blob with
  | error e => rfl
  | ok found =>
      cases found with
      | none => rfl
      | some parsed =>
          change (some parsed).bind _ =
            ((E.readPair parsed).tryCatch fun _ => .ok none).toOption.join.map tokens
          rw [Option.bind_some]
          split
          next huser haccess hrefresh hax hrx =>
              have hread : E.readPair parsed =
                  .ok (some ⟨_, _, E.newDate _, _, E.newDate _⟩) :=
                readPair_eq_some_iff.2 ⟨huser, haccess, hrefresh, ⟨_, hax, rfl⟩, _, hrx, rfl⟩
              rw [hread]
              rfl
          next hmiss =>
              cases hread : E.readPair parsed with
              | error e => rfl
              | ok r =>
                  cases r with
                  | none => rfl
                  | some pair =>
                      obtain ⟨huser, haccess, hrefresh, ⟨ax, hax, -⟩, rx, hrx, -⟩ :=
                        readPair_eq_some_iff.1 hread
                      exact (hmiss _ _ _ _ _ huser haccess hrefresh hax hrx).elim

/-- The sessions seal a pair with valid dates as it is sealed here. -/
theorem encryptReplacement_tokenEnv (n : ℕ) (h : pair.WellFormed) :
    E.encryptReplacement (randomBytes n) pair =
      .ok (TokenService.encryptReplacement (E.tokenEnv randomBytes T) n (tokens pair)) := by
  obtain ⟨u, a, ax, r, rx⟩ := pair
  obtain ⟨ax, rfl⟩ := Option.isSome_iff_exists.1 h.accessExpiresAt
  obtain ⟨rx, rfl⟩ := Option.isSome_iff_exists.1 h.refreshExpiresAt
  rfl

/-- What the sessions rely on, for the pairs with valid dates. -/
theorem Lawful.decrypt_encrypt_tokenEnv (hE : E.Lawful) (n : ℕ) (h : pair.WellFormed) :
    TokenService.decryptReplacement (E.tokenEnv randomBytes T)
      (TokenService.encryptReplacement (E.tokenEnv randomBytes T) n (tokens pair)) =
        some (tokens pair) := by
  obtain ⟨blob, hblob, hback⟩ := hE.decryptReplacement_encryptReplacement (randomBytes n) h
  rw [encryptReplacement_tokenEnv (T := T) n h] at hblob
  rw [Except.ok.inj hblob, decryptReplacement_tokenEnv, hback]
  rfl

end Sessions

/-- A pair comes back from its blob, nothing is ever thrown, and what is answered authenticates
under the key and has its five fields. -/
theorem replacement_roundTrips {E : ReplacementEnv} (hE : E.Lawful) :
    (∀ (iv : Iv) (pair : ReplacementPair), pair.WellFormed →
      ∃ blob, E.encryptReplacement iv pair = .ok blob ∧
        E.decryptReplacement blob = .ok (some pair)) ∧
      (∀ blob, ∃ r, E.decryptReplacement blob = .ok r) ∧
        ∀ blob pair, E.decryptReplacement blob = .ok (some pair) → E.Holds blob pair :=
  ⟨fun iv _ h => hE.decryptReplacement_encryptReplacement iv h, exists_decryptReplacement_eq_ok,
    fun _ _ h => hE.holds h⟩

section Sample

/-- The pair of a user, with a quotation mark in a token. -/
def samplePair : ReplacementPair where
  userId := 7
  accessToken := "a.b"
  accessExpiresAt := some ⟨1767225600000, by decide⟩
  refreshToken := "r\x221"
  refreshExpiresAt := some ⟨1769817600000, by decide⟩

def sampleIv : Iv := ⟨[0, 1, 2, 3, 4, 5, 6, 7, 8, 9, 10, 11], rfl⟩

/-- The bytes of the sample pair. -/
def samplePlaintext : List UInt8 :=
  Js.utf8Bytes <| String.ofList <| Js.writeJson <|
    pairJson 7 "a.b" "2026-01-01T00:00:00.000Z" "r\x221" "2026-01-31T00:00:00.000Z"

example : samplePlaintext = Js.utf8Bytes
    ("\x7b\x22userId\x22:7,\x22accessToken\x22:\x22a.b\x22," ++
      "\x22accessExpiresAt\x22:\x222026-01-01T00:00:00.000Z\x22," ++
      "\x22refreshToken\x22:\x22r\\\x221\x22," ++
      "\x22refreshExpiresAt\x22:\x222026-01-31T00:00:00.000Z\x22\x7d") := by
  decide +kernel

/-- The tag and the ciphertext of the sample pair under the key of the default secret. -/
def sampleSealed : List UInt8 × List UInt8 :=
  (Js.fromBase64 "/UkYNAeOU8KSAlp5vDUSXg==".toList,
    Js.fromBase64 <| "tEhdJYKFs4UGkBtye/pMXh+w+h/gkFSnhBJh9C7uSby3oaCet5eddBgoHAyCRyse".toList ++
      "eyp1XEJ5Prbq9zYhyEkopE3YSoSXrJv5DcXda7AsMChuu5XiWR/I7Yvc8vTLQ6Cv".toList ++
      "9pbFRLe1KtPw15WLvES1Z8/wRUeGN7aD4GFy+GYxjrDf5Ay+zfwhEYosz09bTgFLmw==".toList)

def zeroTag : List UInt8 := List.replicate 16 0

section Cipher

variable (iv₀ plaintext₀ : List UInt8) (sealed₀ : List UInt8 × List UInt8)

/-- One plaintext is sealed as it is known to be, every other one is left in clear. -/
def encipherOne (iv plaintext : List UInt8) : List UInt8 × List UInt8 :=
  if iv = iv₀ ∧ plaintext = plaintext₀ then sealed₀ else (zeroTag, plaintext)

def decipherOne (iv tag ciphertext : List UInt8) : Except AppError (List UInt8) :=
  if iv = iv₀ ∧ (tag, ciphertext) = sealed₀ then .ok plaintext₀
  else if tag = zeroTag ∧ ¬ (iv = iv₀ ∧ ciphertext = plaintext₀) then .ok ciphertext
  else .error (.error "Unsupported state or unable to authenticate data")

variable {iv₀ plaintext₀ sealed₀} {iv plaintext tag ciphertext : List UInt8}

theorem length_encipherOne (htag : sealed₀.1.length = 16)
    (hciphertext : sealed₀.2.length = plaintext₀.length) :
    (encipherOne iv₀ plaintext₀ sealed₀ iv plaintext).1.length = 16 ∧
      (encipherOne iv₀ plaintext₀ sealed₀ iv plaintext).2.length = plaintext.length := by
  unfold encipherOne
  split_ifs with h
  · exact ⟨htag, by rw [hciphertext, h.2]⟩
  · exact ⟨rfl, rfl⟩

theorem decipherOne_encipherOne (hne : sealed₀.1 ≠ zeroTag) :
    decipherOne iv₀ plaintext₀ sealed₀ iv (encipherOne iv₀ plaintext₀ sealed₀ iv plaintext).1
      (encipherOne iv₀ plaintext₀ sealed₀ iv plaintext).2 = .ok plaintext := by
  unfold encipherOne
  split_ifs with h
  · rw [decipherOne, if_pos ⟨h.1, rfl⟩, h.2]
  · have hclear : ¬ (iv = iv₀ ∧ (zeroTag, plaintext) = sealed₀) := fun hseal =>
      hne (congrArg Prod.fst hseal.2).symm
    rw [decipherOne, if_neg hclear, if_pos ⟨rfl, h⟩]

theorem encipherOne_of_decipherOne
    (h : decipherOne iv₀ plaintext₀ sealed₀ iv tag ciphertext = .ok plaintext) :
    encipherOne iv₀ plaintext₀ sealed₀ iv plaintext = (tag, ciphertext) := by
  unfold decipherOne at h
  split_ifs at h with hseal hclear
  · obtain rfl := Except.ok.inj h
    rw [encipherOne, if_pos ⟨hseal.1, rfl⟩, hseal.2]
  · obtain rfl := Except.ok.inj h
    rw [encipherOne, if_neg hclear.2, hclear.1]

end Cipher

/-- The default secret, and a cipher that seals the sample pair as AES does. -/
def sampleEnv : ReplacementEnv where
  sha256 := fun _ => Js.fromBase64 "DTVu3gukmYGRLjV9K170qHCnIf0YalsIgedCXwi2jhM=".toList
  encipher := fun _ => encipherOne sampleIv.1 samplePlaintext sampleSealed
  decipher := fun _ => decipherOne sampleIv.1 samplePlaintext sampleSealed
  fromBase64 := Js.fromBase64
  utf8Text := fun bytes => (Js.utf8Text bytes).getD ""
  stringify := fun v => String.ofList (Js.writeJson v)
  parse := fun text => (Js.parseJson text).elim (.error (.error "Unexpected token")) .ok
  newDate := Js.parseISOString

theorem length_sampleSealed : sampleSealed.1.length = 16 ∧
    sampleSealed.2.length = samplePlaintext.length := by
  decide +kernel

theorem sampleSealed_ne : sampleSealed.1 ≠ zeroTag := by
  decide +kernel

theorem sampleEnv_encipher (key iv plaintext : List UInt8) :
    sampleEnv.encipher key iv plaintext =
      encipherOne sampleIv.1 samplePlaintext sampleSealed iv plaintext := rfl

theorem sampleEnv_decipher (key iv tag ciphertext : List UInt8) :
    sampleEnv.decipher key iv tag ciphertext =
      decipherOne sampleIv.1 samplePlaintext sampleSealed iv tag ciphertext := rfl

theorem length_sampleEnv (key iv plaintext : List UInt8) :
    (sampleEnv.encipher key iv plaintext).1.length = 16 ∧
      (sampleEnv.encipher key iv plaintext).2.length = plaintext.length := by
  rw [sampleEnv_encipher]
  exact length_encipherOne length_sampleSealed.1 length_sampleSealed.2

theorem sampleEnv_parse (text : String) : sampleEnv.parse text =
    (Js.parseJson text).elim (.error (.error "Unexpected token")) .ok := rfl

theorem sampleEnv_newDate : sampleEnv.newDate = Js.parseISOString := rfl

theorem isIntegral_pairJson (n : ℤ) (a ax r rx : String) :
    (pairJson n a ax r rx).isIntegral = true := by
  simp [pairJson, Js.Json.isIntegral, Js.fieldsIntegral]

theorem sampleEnv_lawful : sampleEnv.Lawful where
  length_tag := fun iv plaintext => (length_sampleEnv _ iv plaintext).1
  length_ciphertext := fun iv plaintext => (length_sampleEnv _ iv plaintext).2
  decipher_encipher := by
    intro iv plaintext
    rw [sampleEnv_encipher, sampleEnv_decipher]
    exact decipherOne_encipherOne sampleSealed_ne
  encipher_of_decipher := by
    intro iv tag ciphertext plaintext h
    have htag := (length_sampleEnv sampleEnv.replacementKey iv plaintext).1
    rw [sampleEnv_decipher] at h
    rw [sampleEnv_encipher, encipherOne_of_decipherOne h] at htag ⊢
    exact ⟨htag ▸ by decide, List.prefix_rfl, rfl⟩
  fromBase64_toBase64 := Js.fromBase64_toBase64
  utf8Text_utf8Bytes := by
    intro text
    change (Js.utf8Text (Js.utf8Bytes text)).getD "" = text
    rw [Js.utf8Text_utf8Bytes, Option.getD_some]
  parse_empty := by
    rw [sampleEnv_parse, Js.parseJson_empty]
    exact ⟨_, rfl⟩
  parse_stringify := by
    intro n _ a ax r rx
    have hback := Js.parseJson_writeJson (isIntegral_pairJson n a ax r rx)
    change sampleEnv.parse (String.ofList (Js.writeJson (pairJson n a ax r rx))) = _
    rw [sampleEnv_parse, hback]
    rfl
  newDate_toISOString := by
    intro time
    rw [sampleEnv_newDate, Js.parseISOString_toISOString]

/-- The sample pair, sealed as it is in fact. -/
theorem replacement_roundTrips_sample :
    ∃ blob, sampleEnv.encryptReplacement sampleIv samplePair = .ok blob ∧
      sampleEnv.decryptReplacement blob = .ok (some samplePair) :=
  (replacement_roundTrips sampleEnv_lawful).1 sampleIv samplePair
    ⟨⟨7, ⟨7, 0, by decide, by decide, rfl⟩, rfl⟩, rfl, rfl⟩

end Sample

end ReplacementEnv

end FifiAlert
