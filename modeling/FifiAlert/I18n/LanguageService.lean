import FifiAlert.Concurrency.Process
import FifiAlert.Errors
import FifiAlert.Js.Text
import FifiAlert.Js.Value
import FifiAlert.Schema.Auth
import FifiAlert.Store.FirstKeys
import Mathlib.Data.List.Sort

/-!
# The language service

Which language a request is answered in: the one its `lang` parameter names, else the one its
`Accept-Language` header prefers, else the default. The list of active languages is cached, and a
cache that fails is passed over.
-/

namespace FifiAlert

open Concurrency Store

structure Language where
  code : String
  name : String := ""
  nativeName : String := ""
  isDefault : Bool := false
  isActive : Bool := true
  sortOrder : ℤ := 0
  created_at : Time := 0
  updated_at : Time := 0
  deriving DecidableEq, Inhabited

/-- The table of languages, and what the cache holds under `LANGUAGES_ACTIVE`. -/
structure LanguageState where
  languages : List Language := []
  cached : Option (List Language) := none

inductive LanguageCall where
  | cacheGet
  | languageFindMany
  | cacheSet (languages : List Language)
  | loggerWarn
  deriving DecidableEq

abbrev LanguageProcess := Process LanguageState LanguageCall AppError

/-- An entry of an `Accept-Language` header. -/
structure HeaderEntry where
  code : Option String
  q : ℚ
  index : ℕ
  deriving DecidableEq

namespace LanguageService

def FALLBACK_LANGUAGE_CODE : String := "el"

def loggerWarn : LanguageProcess Unit :=
  Process.modify .loggerWarn (.error "logger") id fun _ => ()

/-- The cached list, or what the database lists, which is then cached. -/
def getActive : LanguageProcess (List Language) := do
  let cached ←
    (Process.query .cacheGet (.error "cache") LanguageState.cached : LanguageProcess _).tryCatch
      fun _ => do loggerWarn; return none
  match cached with
  | some languages => return languages
  | none =>
    let languages ← Process.query .languageFindMany (.prisma .other) fun s =>
      (s.languages.filter Language.isActive).insertionSort fun l l' => l.sortOrder ≤ l'.sortOrder
    (Process.modify (.cacheSet languages) (.error "cache")
      (fun s => { s with cached := some languages }) fun _ => () : LanguageProcess Unit).tryCatch
        fun _ => loggerWarn
    return languages

/-- `/^[a-z]{2,8}$/.test(primary)`. -/
def isPrimarySubtag (primary : List Char) : Bool :=
  2 ≤ primary.length && primary.length ≤ 8 && primary.all fun c => 'a' ≤ c && c ≤ 'z'

/-- The piece before the first hyphen or underscore. -/
def beforeSeparator (cs : List Char) : List Char :=
  cs.takeWhile fun c => c ≠ '-' && c ≠ '_'

def normalizeTag (tag : List Char) : Option String :=
  let primary := beforeSeparator (Js.toLowerCase (Js.trim tag))
  if isPrimarySubtag primary then some (String.ofList primary) else none

def normalizeCode : Js.Value → Option String
  | .str s => normalizeTag s.toList
  | _ => none

/-- `q`, from the parameters of an entry. -/
def qualityOf (params : List (List Char)) : ℚ :=
  match (params.map Js.trim).find? fun p => "q=".toList.isPrefixOf p with
  | none => 1
  | some qParam => (Js.parseFloat (String.ofList (qParam.drop 2))).getD 0

def headerEntry (part : List Char) (index : ℕ) : HeaderEntry :=
  let pieces := Js.splitOn [';'] (Js.trim part)
  let tag := pieces.headD []
  { code := if tag = ['*'] then none else normalizeTag tag
    q := qualityOf pieces.tail
    index }

/-- `header.split(',').map(…)`. -/
def headerEntries (header : String) : List HeaderEntry :=
  (Js.splitOn [','] header.toList).zipIdx.map fun part => headerEntry part.1 part.2

end LanguageService

namespace HeaderEntry

/-- `!!e.code && e.q > 0`, where a code is never empty. -/
def usable (e : HeaderEntry) : Bool :=
  e.code.any (fun code => code ≠ "") && decide (0 < e.q)

/-- `(a, b) => b.q - a.q || a.index - b.index`, when it is not positive. -/
def before (a b : HeaderEntry) : Bool :=
  b.q < a.q || (a.q = b.q && a.index ≤ b.index)

end HeaderEntry

namespace LanguageService

def sortedEntries (header : String) : List HeaderEntry :=
  ((headerEntries header).filter HeaderEntry.usable).insertionSort fun a b => a.before b = true

def parseAcceptLanguage (header : Option String) : List String :=
  match Js.truthy header with
  | none => []
  | some header => newKeys (fun e => e.code.getD "") [] (sortedEntries header)

/-- `languages.find((l) => l.isDefault)?.code ?? languages[0]?.code ?? FALLBACK_LANGUAGE_CODE`. -/
def defaultCode (languages : List Language) : String :=
  (((languages.find? Language.isDefault).map Language.code) <|>
    languages.head?.map Language.code).getD FALLBACK_LANGUAGE_CODE

/-- `Array.isArray(langParam) ? langParam[0] : langParam`. -/
def firstParam : Js.Value → Js.Value
  | .arr elems => elems.headD .undefined
  | langParam => langParam

/-- The resolution from the list of active languages. -/
def resolveAmong (languages : List Language) (langParam : Js.Value)
    (acceptLanguage : Option String) : String :=
  let active (code : String) : Bool := languages.any fun l => l.code = code
  match (normalizeCode (firstParam langParam)).filter active with
  | some fromParam => fromParam
  | none =>
    match (parseAcceptLanguage acceptLanguage).find? active with
    | some candidate => candidate
    | none => defaultCode languages

def resolve (langParam : Js.Value) (acceptLanguage : Option String) : LanguageProcess String := do
  let languages ← getActive
  return resolveAmong languages langParam acceptLanguage

end LanguageService

end FifiAlert
