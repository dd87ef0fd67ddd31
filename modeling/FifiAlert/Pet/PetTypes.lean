import FifiAlert.I18n.LanguageService
import FifiAlert.Js.ColumnInput
import FifiAlert.Store.RowOrder

/-!
# Pet types

`PetTypesService` keeps the types of pets. A type is known by its slug, and its name stands in a
table of its own, once for each language that it was translated to. An answer shows the name in the
language of the request, else in the default language, else in any. The body of a request is any
JSON object, since nothing validates it.
-/

namespace FifiAlert

open Concurrency Store Js

structure PetType where
  id : ℕ
  slug : String
  order : ℤ := 0
  created_at : Time := 0
  updated_at : Time := 0
  deriving DecidableEq

structure PetTypeTranslation where
  petTypeId : ℕ
  langCode : String
  name : String
  deriving DecidableEq

/-- `@@unique([petTypeId, langCode])`. -/
def PetTypeTranslation.key (t : PetTypeTranslation) : ℕ × String := (t.petTypeId, t.langCode)

def PetTypeTranslation.rename (name : String) (t : PetTypeTranslation) : PetTypeTranslation :=
  { t with name }

theorem PetTypeTranslation.key_rename (name : String) (t : PetTypeTranslation) :
    (t.rename name).key = t.key := rfl

abbrev CreatePetTypeDto := List (String × Json)

abbrev UpdatePetTypeDto := List (String × Json)

/-- The columns that types can be ordered by. -/
inductive PetTypeOrderBy where
  | ID
  | SLUG
  | ORDER
  | CREATED_AT
  | UPDATED_AT
  deriving DecidableEq

def PetTypeOrderBy.ofLabel : String → Option PetTypeOrderBy
  | "id" => some .ID
  | "slug" => some .SLUG
  | "order" => some .ORDER
  | "created_at" => some .CREATED_AT
  | "updated_at" => some .UPDATED_AT
  | _ => none

inductive SortDirection where
  | ASC
  | DESC
  deriving DecidableEq

def SortDirection.ofLabel : String → Option SortDirection
  | "asc" => some .ASC
  | "desc" => some .DESC
  | _ => none

structure PetTypeReadOptions where
  lang : String
  includeTranslations : Bool := false

structure PetTypeResponseDto where
  id : ℕ
  name : String
  lang : String
  slug : String
  order : ℤ
  translations : Option (List (String × String)) := none
  created_at : Time
  updated_at : Time
  deriving DecidableEq

structure PetTypeWithTranslations extends PetType where
  translations : List PetTypeTranslation
  deriving DecidableEq

/-- How names are compared in a language, and how the database compares slugs; and how it orders the
types by something else, if it does. -/
structure PetTypeEnv where
  localeCompare : String → String → String → ℤ
  slugLe : String → String → Bool
  otherOrder : String → Json → Option (PetType → PetType → Bool)

structure PetTypeState where
  language : LanguageState := {}
  petTypes : Serial PetType PetType.id := .empty
  translations : Table PetTypeTranslation PetTypeTranslation.key := .empty
  /-- The types of the pets. -/
  petTypeIds : List ℕ := []
  now : Time := 0

/-- What the database client takes a value for a date to mean, and which values of `meta` and
`settings` it takes; and what it does for a body that names the id of the type or its pets. -/
structure PetTypeClient where
  dateTime : Json → Option Time
  accepts : String → Json → Bool
  nested : Option ℕ → List (String × Json) → List (String × Json) → PetTypeState →
    Except AppError (ℕ × PetTypeState)

/-- The row and the translations that a creation writes. -/
structure PetTypeCreateInput where
  slug : String
  order : ℤ
  created_at : Option Time
  updated_at : Option Time
  translations : List (String × String)
  tooLong : Bool
  other : Option (PetTypeState → Except AppError (ℕ × PetTypeState))

/-- The columns that an update names, with what becomes of them, and the translations. -/
structure PetTypeUpdateInput where
  slug : Option String
  order : Option IntChange
  created_at : Option Time
  updated_at : Option Time
  translations : List (String × String)
  tooLong : Bool
  other : Option (PetTypeState → Except AppError (ℕ × PetTypeState))

/-- The columns of the row that an update writes. -/
def PetTypeUpdateInput.apply (data : PetTypeUpdateInput) (now : Time) (t : PetType) :
    Option PetType := do
  let order ← changed data.order t.order
  return { t with
    slug := data.slug.getD t.slug
    order
    created_at := data.created_at.getD t.created_at
    updated_at := data.updated_at.getD now }

theorem PetTypeUpdateInput.apply_eq_some {data : PetTypeUpdateInput} {now : Time} {t t' : PetType}
    (h : data.apply now t = some t') : t'.id = t.id ∧ t'.slug = data.slug.getD t.slug := by
  simp only [apply, bind, Option.bind_eq_some_iff] at h
  obtain ⟨order, -, ht⟩ := h
  obtain rfl := Option.some.inj ht
  exact ⟨rfl, rfl⟩

/-- The row after the statement, which the database may have refused. -/
def PetTypeUpdateInput.rewrite (data : PetTypeUpdateInput) (now : Time) (t : PetType) : PetType :=
  (data.apply now t).getD t

theorem PetTypeUpdateInput.id_rewrite (data : PetTypeUpdateInput) (now : Time) (t : PetType) :
    (data.rewrite now t).id = t.id := by
  unfold rewrite
  cases h : data.apply now t with
  | none => rfl
  | some t' => exact (apply_eq_some h).1

/-- The fields of a type besides its translations. -/
def petTypeColumns : List String :=
  ["slug", "order", "meta", "settings", "created_at", "updated_at"]

def isOtherField (field : String × Json) : Bool :=
  ["id", "pets"].contains field.1

/-- The client knows the field, and takes it if it is one of those that are stored as they are. -/
def PetTypeClient.takes (C : PetTypeClient) (field : String × Json) : Bool :=
  isOtherField field || (petTypeColumns.contains field.1 &&
    (!(["meta", "settings"].contains field.1) || C.accepts field.1 field.2))

/-- The names of the translations, which have to be texts. -/
def translationNames (entries : List (String × Json)) : Option (List (String × String)) :=
  entries.mapM fun entry => entry.2.string?.map fun name => (entry.1, name)

/-- A name as it is stored. -/
def storedName (entry : String × String) : String × String :=
  (entry.1, (varchar 100 entry.2).getD entry.2)

def isTooLong (entry : String × String) : Bool :=
  (varchar 100 entry.2).isNone

/-- The body of a creation as the client takes it, without the translations, and with them. -/
def parsePetTypeCreate (C : PetTypeClient) (rest entries : List (String × Json)) :
    Option PetTypeCreateInput :=
  if !rest.all C.takes then none
  else do
    let names ← translationNames entries
    let slug ← ((rest.lookup "slug").bind Json.string?).bind (varchar 100)
    let order ← column Json.int32? rest "order"
    let created_at ← column C.dateTime rest "created_at"
    let updated_at ← column C.dateTime rest "updated_at"
    return {
      slug, order := order.getD 0, created_at, updated_at
      translations := names.map storedName
      tooLong := names.any isTooLong
      other := if rest.any isOtherField then some (C.nested none rest entries) else none }

def parsePetTypeUpdate (C : PetTypeClient) (id : ℕ) (rest entries : List (String × Json)) :
    Option PetTypeUpdateInput :=
  if !rest.all C.takes then none
  else do
    let names ← translationNames entries
    let slug ← column (fun v => (newValue Json.string? v).bind (varchar 100)) rest "slug"
    let order ← column (intChange Json.int32?) rest "order"
    let created_at ← column (newValue C.dateTime) rest "created_at"
    let updated_at ← column (newValue C.dateTime) rest "updated_at"
    return {
      slug, order, created_at, updated_at
      translations := names.map storedName
      tooLong := names.any isTooLong
      other := if rest.any isOtherField then some (C.nested (some id) rest entries) else none }

inductive PetTypeCall where
  | language (l : LanguageCall)
  | petTypeCreate (data : PetTypeCreateInput)
  | petTypeFindMany
  | petTypeFindUnique (id : ℕ)
  | petTypeFindSlug (slug : String)
  | petTypeUpdate (id : ℕ) (data : PetTypeUpdateInput)
  | petTypeDelete (id : ℕ)

namespace PetTypeState

/-- The type with the slug. -/
def findSlug (s : PetTypeState) (slug : String) : Option PetType :=
  s.petTypes.rows.find? fun t => t.slug = slug

/-- The table of languages has a row for each of the codes. -/
def hasLanguages (s : PetTypeState) (entries : List (String × String)) : Bool :=
  entries.all fun entry => s.language.languages.any fun l => l.code = entry.1

def nameIn (s : PetTypeState) (id : ℕ) (langCode : String) : Option String :=
  (s.translations.find? (id, langCode)).map PetTypeTranslation.name

def translationsOf (s : PetTypeState) (id : ℕ) : List PetTypeTranslation :=
  s.translations.findMany fun t => t.petTypeId = id

/-- `include: petTypeInclude`. -/
def withTranslations (O : RowOrder) (s : PetTypeState) (t : PetType) : PetTypeWithTranslations :=
  { t with translations := O.unordered (s.translationsOf t.id) }

end PetTypeState

namespace PetTypeCall

/-- What the insertion answers, with the id of the new row. -/
def createOutcome (data : PetTypeCreateInput) (s : PetTypeState) : Except AppError ℕ :=
  if (s.findSlug data.slug).isSome then .error (.prisma .P2002)
  else if data.tooLong || !s.hasLanguages data.translations then .error (.prisma .other)
  else .ok s.petTypes.next

/-- Another type has the slug that the update writes. -/
def slugIsTaken (id : ℕ) (data : PetTypeUpdateInput) (s : PetTypeState) : Bool :=
  data.slug.any fun slug => s.petTypes.rows.any fun t => t.slug = slug && t.id ≠ id

def updateOutcome (id : ℕ) (data : PetTypeUpdateInput) (s : PetTypeState) : Except AppError ℕ :=
  match s.petTypes.find? id with
  | none => .error (.prisma .P2025)
  | some t =>
    if (data.apply s.now t).isNone then .error (.prisma .other)
    else if slugIsTaken id data s then .error (.prisma .P2002)
    else if data.tooLong || !s.hasLanguages data.translations then .error (.prisma .other)
    else .ok id

def deleteOutcome (id : ℕ) (s : PetTypeState) : Except AppError Unit :=
  if (s.petTypes.find? id).isNone then .error (.prisma .P2025)
  else if s.petTypeIds.contains id then .error (.prisma .other)
  else .ok ()

def insertType (data : PetTypeCreateInput) (s : PetTypeState) : PetTypeState :=
  { s with
    petTypes := s.petTypes.create fun id =>
      { id, slug := data.slug, order := data.order, created_at := data.created_at.getD s.now,
        updated_at := data.updated_at.getD s.now }
    translations := data.translations.foldl (fun t entry =>
      t.insertNew ⟨s.petTypes.next, entry.1, entry.2⟩) s.translations }

def updateType (id : ℕ) (data : PetTypeUpdateInput) (s : PetTypeState) : PetTypeState :=
  { s with
    petTypes := s.petTypes.updateMany (fun t => t.id = id) (data.rewrite s.now)
      (data.id_rewrite s.now)
    translations := data.translations.foldl (fun t entry =>
      t.upsert ⟨id, entry.1, entry.2⟩ (PetTypeTranslation.rename entry.2)
        (PetTypeTranslation.key_rename entry.2)) s.translations }

/-- `onDelete: Cascade`. -/
def deleteType (id : ℕ) (s : PetTypeState) : PetTypeState :=
  { s with
    petTypes := s.petTypes.deleteMany fun t => t.id = id
    translations := s.translations.deleteMany fun t => t.petTypeId = id }

/-- The id of the new row, and the state after the statement. -/
def createResult (data : PetTypeCreateInput) (s : PetTypeState) :
    Except AppError (ℕ × PetTypeState) :=
  match data.other with
  | some run => run s
  | none => (createOutcome data s).map fun id => (id, insertType data s)

def updateResult (id : ℕ) (data : PetTypeUpdateInput) (s : PetTypeState) :
    Except AppError (ℕ × PetTypeState) :=
  match data.other with
  | some run => run s
  | none => (updateOutcome id data s).map fun id => (id, updateType id data s)

/-- A statement that fails leaves the state. -/
def stateAfter (result : Except AppError (ℕ × PetTypeState)) (s : PetTypeState) : PetTypeState :=
  (result.toOption.map Prod.snd).getD s

def effect : PetTypeCall → PetTypeState → PetTypeState
  | language (.cacheSet languages), s =>
      { s with language := { s.language with cached := some languages } }
  | petTypeCreate data, s => stateAfter (createResult data s) s
  | petTypeUpdate id data, s => stateAfter (updateResult id data s) s
  | petTypeDelete id, s => if (deleteOutcome id s).isOk then deleteType id s else s
  | _, s => s

end PetTypeCall

abbrev PetTypeProcess := Process PetTypeState PetTypeCall AppError

/-- A call of the language service. -/
def LanguageCall.lift (_ : LanguageCall) (next : LanguageState → LanguageState)
    (s : PetTypeState) : PetTypeState :=
  { s with language := next s.language }

/-- A process of the language service, on the state with the types. -/
def PetTypeProcess.ofLanguage {α : Type} (p : LanguageProcess α) : PetTypeProcess α :=
  (p.extend PetTypeState.language LanguageCall.lift).relabel .language

def LanguageService.getDefaultCode : LanguageProcess String := do
  let languages ← LanguageService.getActive
  return LanguageService.defaultCode languages

/-- The translation that is shown, if there is one. -/
def pickTranslation (pt : PetTypeWithTranslations) (lang defaultLang : String) :
    Option PetTypeTranslation :=
  (pt.translations.find? fun x => x.langCode = lang) <|>
    (pt.translations.find? fun x => x.langCode = defaultLang) <|> pt.translations.head?

def toPetTypeResponse (pt : PetTypeWithTranslations) (lang defaultLang : String)
    (includeAll : Bool := false) : PetTypeResponseDto where
  id := pt.id
  slug := pt.slug
  order := pt.order
  name := ((pickTranslation pt lang defaultLang).map PetTypeTranslation.name).getD pt.slug
  lang := ((pickTranslation pt lang defaultLang).map PetTypeTranslation.langCode).getD lang
  created_at := pt.created_at
  updated_at := pt.updated_at
  translations :=
    if includeAll then some (pt.translations.map fun t => (t.langCode, t.name)) else none

namespace PetTypesService

open PetTypeProcess

def unknownCodes (codes : List String) : AppError :=
  .badRequest ["Unknown or inactive language code(s): " ++ ", ".intercalate codes ++
    ". See GET /languages."]

def defaultMissing (defaultCode : String) : AppError :=
  .badRequest ["A translation for the default language \"" ++ defaultCode ++ "\" is required"]

def notConvertible : AppError := .error "Cannot convert undefined or null to object"

def notSearchable (defaultCode : String) (translations : Option Json) : AppError :=
  .error ("Cannot use 'in' operator to search for '" ++ defaultCode ++ "' in " ++
    translations.elim "undefined" Json.asText)

def assertTranslations (translations : Option Json) (requireDefault : Bool) :
    PetTypeProcess Unit := do
  let active ← ofLanguage LanguageService.getActive
  let defaultCode ← ofLanguage LanguageService.getDefaultCode
  match Json.entries? translations with
  | none => .raise notConvertible
  | some entries =>
    let unknown := (entries.map Prod.fst).filter fun c => !active.any fun l => l.code = c
    if !unknown.isEmpty then .raise (unknownCodes unknown)
    else if !requireDefault then return ()
    else
      match Json.has? translations defaultCode with
      | none => .raise (notSearchable defaultCode translations)
      | some false => .raise (defaultMissing defaultCode)
      | some true => return ()

/-- `Object.entries(translations)`. -/
def translationEntries (translations : Option Json) : PetTypeProcess (List (String × Json)) :=
  match Json.entries? translations with
  | none => .raise notConvertible
  | some entries => return entries

def toResponse (petType : PetTypeWithTranslations) (opts : PetTypeReadOptions) :
    PetTypeProcess PetTypeResponseDto := do
  let defaultLang ← ofLanguage LanguageService.getDefaultCode
  return toPetTypeResponse petType opts.lang defaultLang opts.includeTranslations

def slugConflict : AppError := .conflict "Pet type slug already exists"

def idNotFound (id : ℕ) : AppError := .notFound ("Pet type " ++ toString id ++ " not found")

/-- The row with the id after a statement, as the statement answers it. -/
def answerRow (O : RowOrder) (id : ℕ) (s : PetTypeState) :
    Except AppError PetTypeWithTranslations :=
  (s.petTypes.find? id).elim (.error (.prisma .P2025)) fun row => .ok (s.withTranslations O row)

/-- The statement of a creation, which answers with the new row. -/
def insertPetType (C : PetTypeClient) (O : RowOrder) (rest entries : List (String × Json)) :
    PetTypeProcess PetTypeWithTranslations :=
  match parsePetTypeCreate C rest entries with
  | none => .raise (.prisma .other)
  | some data =>
    Process.atomic (.petTypeCreate data) (.prisma .other) fun s =>
      ((PetTypeCall.createResult data s).bind fun created => answerRow O created.1 created.2,
        (PetTypeCall.petTypeCreate data).effect s)

/-- The fields of a body besides `translations`. -/
def restOf (data : List (String × Json)) : List (String × Json) :=
  data.filter fun field => field.1 ≠ "translations"

def create (C : PetTypeClient) (O : RowOrder) (data : CreatePetTypeDto)
    (opts : PetTypeReadOptions) : PetTypeProcess PetTypeResponseDto := do
  let translations := data.lookup "translations"
  assertTranslations translations true
  let entries ← translationEntries translations
  let petType ← (insertPetType C O (restOf data) entries).tryCatch fun e =>
    match e with
    | .prisma .P2002 => .raise slugConflict
    | e => .raise e
  toResponse petType { opts with includeTranslations := true }

/-- `orderBy` of the query. -/
def petTypeLe (E : PetTypeEnv) (orderBy : PetTypeOrderBy) (a b : PetType) : Bool :=
  match orderBy with
  | .ID => a.id ≤ b.id
  | .SLUG => E.slugLe a.slug b.slug
  | .CREATED_AT => a.created_at ≤ b.created_at
  | .UPDATED_AT => a.updated_at ≤ b.updated_at
  | .ORDER => a.order ≤ b.order

/-- The order of the query, in its direction. -/
def directed (orderDir : SortDirection) (le : PetType → PetType → Bool) (a b : PetType) : Bool :=
  match orderDir with
  | .ASC => le a b
  | .DESC => le b a

/-- How the query orders the types, if the client takes what the request asks for. -/
def typesOrder (E : PetTypeEnv) (orderBy orderDir : Json) :
    Option (PetType → PetType → Bool) :=
  match PetTypeOrderBy.ofLabel orderBy.asText, orderDir.string?.bind SortDirection.ofLabel with
  | some column, some dir => some (directed dir (petTypeLe E column))
  | _, _ => E.otherOrder orderBy.asText orderDir

/-- `mapped.sort`, by name. -/
def sortByName (E : PetTypeEnv) (orderDir : Json) (lang : String)
    (mapped : List PetTypeResponseDto) : List PetTypeResponseDto :=
  let dir : ℤ := if orderDir.isSame (.str "desc") then -1 else 1
  mapped.insertionSort fun a b => dir * E.localeCompare a.name b.name lang ≤ 0

/-- The query of all types. -/
def findMany (O : RowOrder) (le : PetType → PetType → Bool) :
    PetTypeProcess (List PetTypeWithTranslations) :=
  Process.query .petTypeFindMany (.prisma .other) fun s =>
    (O.sort le s.petTypes.rows).map (s.withTranslations O)

/-- The parameters of the request are taken as they are; those that are missing have defaults. -/
def findAll (E : PetTypeEnv) (O : RowOrder) (orderBy orderDir : Option Json)
    (opts : PetTypeReadOptions) : PetTypeProcess (List PetTypeResponseDto) := do
  let orderBy := orderBy.getD (.str "order")
  let orderDir := orderDir.getD (.str "asc")
  let byName := orderBy.isSame (.str "name")
  match if byName then some (petTypeLe E .ORDER) else typesOrder E orderBy orderDir with
  | none => .raise (.prisma .other)
  | some le => do
    let petTypes ← findMany O le
    let defaultLang ← ofLanguage LanguageService.getDefaultCode
    let mapped := petTypes.map fun pt =>
      toPetTypeResponse pt opts.lang defaultLang opts.includeTranslations
    return if byName then sortByName E orderDir opts.lang mapped else mapped

def findOne (O : RowOrder) (id : ℕ) (opts : PetTypeReadOptions) :
    PetTypeProcess PetTypeResponseDto := do
  let petType ← Process.query (.petTypeFindUnique id) (.prisma .other) fun s =>
    (s.petTypes.find? id).map (s.withTranslations O)
  match petType with
  | none => .raise (idNotFound id)
  | some petType => toResponse petType opts

def findBySlug (O : RowOrder) (slug : String) (opts : PetTypeReadOptions) :
    PetTypeProcess PetTypeResponseDto := do
  let petType ← Process.query (.petTypeFindSlug slug) (.prisma .other) fun s =>
    (s.findSlug slug).map (s.withTranslations O)
  match petType with
  | none => .raise (.notFound ("Pet type " ++ slug ++ " not found"))
  | some petType => toResponse petType opts

/-- The statement of an update, which answers with the row. -/
def updatePetType (C : PetTypeClient) (O : RowOrder) (id : ℕ)
    (rest entries : List (String × Json)) : PetTypeProcess PetTypeWithTranslations :=
  match parsePetTypeUpdate C id rest entries with
  | none => .raise (.prisma .other)
  | some data =>
    Process.atomic (.petTypeUpdate id data) (.prisma .other) fun s =>
      ((PetTypeCall.updateResult id data s).bind fun updated => answerRow O updated.1 updated.2,
        (PetTypeCall.petTypeUpdate id data).effect s)

/-- The translations of an update that gives some, after their check. -/
def checkedEntries (translations : Option Json) : PetTypeProcess (List (String × Json)) :=
  match translations.filter Json.isTruthy with
  | none => return []
  | some translations => do
    assertTranslations (some translations) false
    translationEntries (some translations)

def update (C : PetTypeClient) (O : RowOrder) (id : ℕ) (data : UpdatePetTypeDto)
    (opts : PetTypeReadOptions) : PetTypeProcess PetTypeResponseDto := do
  let entries ← checkedEntries (data.lookup "translations")
  let petType ← (updatePetType C O id (restOf data) entries).tryCatch fun e =>
    match e with
    | .prisma .P2025 => .raise (idNotFound id)
    | .prisma .P2002 => .raise slugConflict
    | e => .raise e
  toResponse petType { opts with includeTranslations := true }

def remove (id : ℕ) : PetTypeProcess Unit :=
  (Process.atomic (.petTypeDelete id) (.prisma .other) fun s =>
      (PetTypeCall.deleteOutcome id s, (PetTypeCall.petTypeDelete id).effect s) :
    PetTypeProcess Unit).tryCatch fun e =>
      match e with
      | .prisma .P2025 => .raise (idNotFound id)
      | e => .raise e

end PetTypesService

end FifiAlert
