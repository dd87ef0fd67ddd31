import FifiAlert.Js.Text

/-!
# The text of invitation emails

The subject and the body arrive as plain text with one placeholder for the link.
They are checked, escaped and only then put into the HTML of the message.
-/

namespace FifiAlert

open Js

namespace InvitationText

def INVITE_LINK_PLACEHOLDER : String := "\x7binviteLink\x7d"

def escapeHtml (value : List Char) : List Char :=
  replaceChar '\'' "&#39;" (replaceChar '"' "&quot;" (replaceChar '>' "&gt;"
    (replaceChar '<' "&lt;" (replaceChar '&' "&amp;" value))))

/-- `value.replace(/\r\n?/g, '\n')`. -/
def normalizeNewlines : List Char → List Char
  | '\r' :: '\n' :: cs => '\n' :: normalizeNewlines cs
  | '\r' :: cs => '\n' :: normalizeNewlines cs
  | c :: cs => c :: normalizeNewlines cs
  | [] => []

def normalizeText (value : List Char) : List Char :=
  trim (normalizeNewlines value)

/-- What follows the angle bracket of a tag: a letter, `!`, `/` or `?`. -/
def opensTag : List Char → Bool
  | c :: _ => c.isAlpha || c = '!' || c = '/' || c = '?'
  | [] => false

def containsTag : List Char → Bool
  | '<' :: cs => opensTag cs || containsTag cs
  | _ :: cs => containsTag cs
  | [] => false

def containsControlChars (value : List Char) : Bool :=
  value.any fun c =>
    let n := c.toNat
    n ≤ 9 || (11 ≤ n && n ≤ 31) || (127 ≤ n && n ≤ 159)

def countPlaceholders (value : List Char) : ℕ :=
  (splitOn INVITE_LINK_PLACEHOLDER.toList value).length - 1

def plainTextErrors (field : String) (value : List Char) (min max : ℕ) : List String :=
  (if utf16Length value < min ∨ max < utf16Length value then
    [field ++ " must be " ++ toString min ++ "-" ++ toString max ++ " characters"] else []) ++
  (if containsTag value then [field ++ " must be plain text (no HTML tags)"] else []) ++
  (if containsControlChars value then [field ++ " must not contain control characters"]
    else []) ++
  (if field = "subject" ∧ value.contains '\n' then ["subject must be a single line"] else [])

/-- `value.split(/\n{2,}/)`, with the block read so far, last character first, and
the number of newlines after it. -/
def splitBlocks : List Char → ℕ → List Char → List (List Char)
  | block, newlines, '\n' :: cs => splitBlocks block (newlines + 1) cs
  | block, 0, c :: cs => splitBlocks (c :: block) 0 cs
  | block, 1, c :: cs => splitBlocks (c :: '\n' :: block) 0 cs
  | block, _, c :: cs => block.reverse :: splitBlocks [c] 0 cs
  | block, 0, [] => [block.reverse]
  | block, 1, [] => [('\n' :: block).reverse]
  | block, _, [] => [block.reverse, []]

def renderInvitationHtmlBody (body link : List Char) : List Char :=
  let escapedLink := escapeHtml link
  let anchor := "<a href=\"".toList ++ escapedLink ++
    "\" style=\"color:#007bff;word-break:break-all;\">".toList ++ escapedLink ++ "</a>".toList
  joinWith ['\n'] ((splitBlocks [] 0 (normalizeText body)).map fun block =>
    let html := joinWith anchor (splitOn (escapeHtml INVITE_LINK_PLACEHOLDER.toList)
      (joinWith "<br/>".toList (splitOn ['\n'] (escapeHtml block))))
    "<p style=\"margin:0 0 16px 0;\">".toList ++ html ++ "</p>".toList)

def renderInvitationTextBody (body link : List Char) : List Char :=
  joinWith link (splitOn INVITE_LINK_PLACEHOLDER.toList (normalizeText body))

example : renderInvitationHtmlBody "Hi <you>\n\n\x7binviteLink\x7d".toList "u?a&b".toList =
    ("<p style=\"margin:0 0 16px 0;\">Hi &lt;you&gt;</p>\n" ++
      "<p style=\"margin:0 0 16px 0;\"><a href=\"u?a&amp;b\" " ++
      "style=\"color:#007bff;word-break:break-all;\">u?a&amp;b</a></p>").toList := by
  decide +kernel

/-- The names of a sender that `senderDisplayName` reads. -/
structure SenderNameSource where
  firstName : Option String := none
  lastName : Option String := none
  name : Option String := none

def trimmed (s : Option String) : String :=
  String.ofList (trim (s.getD "").toList)

def senderDisplayName (sender : SenderNameSource) : String :=
  let full := " ".intercalate
    (([sender.firstName, sender.lastName].map trimmed).filter (· ≠ ""))
  if full ≠ "" then full
  else if trimmed sender.name ≠ "" then trimmed sender.name
  else "A FiFi Alert user"

/-- The strings of the layout, in one language. -/
structure InvitationChrome where
  header : String
  receivedBecause : String
  tagline : String
  rights : String
  privacy : String
  support : String
  deriving DecidableEq, Inhabited

def CHROME_en : InvitationChrome where
  header := "🐾 FiFi Alert"
  receivedBecause := "You received this email because \x7bsenderName\x7d invited you to FiFi Alert. No account was created for you and you will not be emailed again unless they resend the invitation."
  tagline := "Helping reunite lost pets with their families."
  rights := "All rights reserved."
  privacy := "Privacy Policy"
  support := "Support"

def CHROME_el : InvitationChrome where
  header := "🐾 FiFi Alert"
  receivedBecause := "Λάβατε αυτό το email επειδή ο/η \x7bsenderName\x7d σας προσκάλεσε στο FiFi Alert. Δεν δημιουργήθηκε λογαριασμός για εσάς και δεν θα λάβετε άλλο email εκτός αν σταλεί ξανά η πρόσκληση."
  tagline := "Βοηθάμε τα χαμένα κατοικίδια να βρουν τον δρόμο για το σπίτι."
  rights := "Με επιφύλαξη παντός δικαιώματος."
  privacy := "Πολιτική Απορρήτου"
  support := "Υποστήριξη"

def getInvitationChrome (locale : String) : InvitationChrome :=
  if locale = "el" then CHROME_el else CHROME_en

end InvitationText

end FifiAlert
