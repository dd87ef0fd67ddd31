import FifiAlert.Pet.PetTypeNames

/-!
# Pet types by their names

The history of the types: who listed the languages, who wrote which names, and who read which types.
In every interleaving a name is the one that was written last for its type in its language, and what
is written was checked against a list of languages that its request has read.
-/

namespace FifiAlert

open Concurrency Store PetTypeProcess LanguageService

/-- The notable calls: a thread got a list of active languages, it created, updated or removed a
type, or it read some types or all of them. -/
inductive PetTypeMark (ι : Type*) where
  | listed (thread : ι) (languages : List Language)
  | created (thread : ι) (id : ℕ) (entries : List (String × String))
      (shown : List PetTypeWithTranslations)
  | updated (thread : ι) (id : ℕ) (entries : List (String × String))
      (shown : List PetTypeWithTranslations)
  | removed (thread : ι) (id : ℕ)
  | read (thread : ι) (shown : List PetTypeWithTranslations)
  | readAll (thread : ι) (shown : List PetTypeWithTranslations)

abbrev PetTypeSnapshot (ι : Type*) := Snapshot PetTypeState (PetTypeMark ι)

namespace PetTypeMark

variable {ι : Type*}

def thread : PetTypeMark ι → ι
  | listed i _ | created i _ _ _ | updated i _ _ _ | removed i _ | read i _ | readAll i _ => i

/-- The types that the call answered. -/
def shown : PetTypeMark ι → List PetTypeWithTranslations
  | created _ _ _ shown | updated _ _ _ shown | read _ shown | readAll _ shown => shown
  | _ => []

/-- What the call said of the name of a type in a language: that it is this one, or that there is
none. -/
def said (id : ℕ) (code : String) : PetTypeMark ι → Option (Option String)
  | created _ id' entries _ | updated _ id' entries _ =>
      if id = id' then (entries.lookup code).map some else none
  | removed _ id' => if id = id' then some none else none
  | _ => none

/-- What the call said of a type: that it is there from then on, or that it is not. -/
def tells (id : ℕ) : PetTypeMark ι → Option Bool
  | created _ id' _ _ => if id = id' then some true else none
  | removed _ id' => if id = id' then some false else none
  | _ => none

end PetTypeMark

/-- The list of languages that `getActive` asks the database for. -/
def LanguageState.active (s : LanguageState) : List Language :=
  (s.languages.filter Language.isActive).insertionSort fun l l' => l.sortOrder ≤ l'.sortOrder

/-- The rows as a query answers them. -/
def PetTypeState.shown (O : RowOrder) (s : PetTypeState) (rows : List PetType) :
    List PetTypeWithTranslations :=
  rows.map (s.withTranslations O)

/-- The row with the id, as a query answers it. -/
def PetTypeState.shownId (O : RowOrder) (s : PetTypeState) (id : ℕ) :
    List PetTypeWithTranslations :=
  s.shown O (s.petTypes.find? id).toList

open PetTypeCall in
def petTypeMark {ι : Type*} (orders : ι → RowOrder) (i : ι) (l : PetTypeCall) (s : PetTypeState) :
    Option (PetTypeMark ι) :=
  match l with
  | .language .cacheGet => s.language.cached.map (.listed i)
  | .language .languageFindMany => some (.listed i s.language.active)
  | .language _ => none
  | .petTypeCreate data => (createOutcome data s).toOption.map fun id =>
      .created i id data.translations ((insertType data s).shownId (orders i) id)
  | .petTypeUpdate id data => (updateOutcome id data s).toOption.map fun id =>
      .updated i id data.translations ((updateType id data s).shownId (orders i) id)
  | .petTypeDelete id => (deleteOutcome id s).toOption.map fun _ => .removed i id
  | .petTypeFindMany => some (.readAll i (s.shown (orders i) s.petTypes.rows))
  | .petTypeFindUnique id => some (.read i (s.shownId (orders i) id))
  | .petTypeFindSlug slug => some (.read i (s.shown (orders i) (s.findSlug slug).toList))

/-- Others may change the languages, except for the codes of translations, and the pets, and the
cache may hold any list. -/
structure LeavesTypes (s s' : PetTypeState) : Prop where
  petTypes : s'.petTypes = s.petTypes
  translations : s'.translations = s.translations
  languages : ∀ id code, s.nameIn id code ≠ none → s.HasLanguage code → s'.HasLanguage code
  used : ∀ id ∈ s'.petTypeIds, (s'.petTypes.find? id).isSome = true

def petTypeSetting {ι : Type*} (orders : ι → RowOrder) (fails : PetTypeCall → Prop) :
    Setting ι PetTypeState PetTypeCall (PetTypeMark ι) where
  mark := petTypeMark orders
  env := LeavesTypes
  mayFail := fails
  admits := fun _ _ _ => True

section History

variable {ι : Type*}

/-- The name that was written last. -/
def lastName (start : PetTypeState) (marks : List (PetTypeMark ι)) (id : ℕ) (code : String) :
    Option String :=
  (marks.findSome? (PetTypeMark.said id code)).getD (start.nameIn id code)

/-- The type was created last, or was there at the start, and was not removed since. -/
def isThere (start : PetTypeState) (marks : List (PetTypeMark ι)) (id : ℕ) : Bool :=
  (marks.findSome? (PetTypeMark.tells id)).getD (start.petTypes.find? id).isSome

/-- The type is shown with all of its names. -/
def ShownAsWritten (start : PetTypeState) (marks : List (PetTypeMark ι))
    (pt : PetTypeWithTranslations) : Prop :=
  ∀ code name, (∃ t ∈ pt.translations, t.langCode = code ∧ t.name = name) ↔
    lastName start marks pt.id code = some name

/-- The types that are there are shown, each once. -/
structure ShowsAll (start : PetTypeState) (marks : List (PetTypeMark ι))
    (shown : List PetTypeWithTranslations) : Prop where
  nodup : (shown.map fun pt => pt.id).Nodup
  mem_iff : ∀ id, id ∈ shown.map (fun pt => pt.id) ↔ isThere start marks id = true

/-- The call showed what it showed as it was written. -/
def PetTypeMark.Faithful (start : PetTypeState) (older : List (PetTypeMark ι))
    (m : PetTypeMark ι) : Prop :=
  (∀ pt ∈ m.shown, ShownAsWritten start (m :: older) pt) ∧
    ∀ i shown, m = .readAll i shown → ShowsAll start (m :: older) shown

def AllFaithful (start : PetTypeState) : List (PetTypeMark ι) → Prop
  | [] => True
  | m :: older => m.Faithful start older ∧ AllFaithful start older

/-- The thread has got a list of languages of which this holds. -/
def HasReadLanguages (i : ι) (Q : List Language → Prop) (marks : List (PetTypeMark ι)) : Prop :=
  ∃ languages, .listed i languages ∈ marks ∧ Q languages

/-- The thread has found the languages of the translations active. -/
def FoundActive (i : ι) (entries : List (String × String)) (marks : List (PetTypeMark ι)) : Prop :=
  ∀ entry ∈ entries, HasReadLanguages i (fun languages => IsActiveCode languages entry.1) marks

/-- The thread has found a translation in the default language; or the code of the language is the
name of a property that objects or arrays have. -/
def FoundDefault (i : ι) (entries : List (String × String)) (marks : List (PetTypeMark ι)) : Prop :=
  HasReadLanguages i (fun languages => defaultCode languages ∈ entries.map Prod.fst ∨
    defaultCode languages ∈ Js.objectPrototype ++ Js.Json.arrayPrototype) marks

/-- The translations were checked before they were written. -/
def PetTypeMark.Checked (marks : List (PetTypeMark ι)) : PetTypeMark ι → Prop
  | created i _ entries _ => FoundActive i entries marks ∧ FoundDefault i entries marks
  | updated i _ entries _ => FoundActive i entries marks
  | _ => True

variable {start : PetTypeState} {marks : List (PetTypeMark ι)} {id : ℕ} {code : String}

theorem lastName_append (m : Option (PetTypeMark ι)) : lastName start (m.toList ++ marks) id code =
    (m.bind fun m => m.said id code).getD (lastName start marks id code) := by
  cases m with
  | none => rfl
  | some m =>
      unfold lastName
      rw [Option.toList_some, List.singleton_append, List.findSome?_cons, Option.bind_some]
      cases m.said id code <;> rfl

theorem isThere_append (m : Option (PetTypeMark ι)) : isThere start (m.toList ++ marks) id =
    (m.bind fun m => m.tells id).getD (isThere start marks id) := by
  cases m with
  | none => rfl
  | some m =>
      unfold isThere
      rw [Option.toList_some, List.singleton_append, List.findSome?_cons, Option.bind_some]
      cases m.tells id <;> rfl

theorem AllFaithful.mem {m : PetTypeMark ι} (h : AllFaithful start marks) (hm : m ∈ marks) :
    ∃ newer older, marks = newer ++ m :: older ∧ m.Faithful start older := by
  induction marks with
  | nil => cases hm
  | cons m' marks ih =>
      rcases List.mem_cons.1 hm with rfl | hm
      · exact ⟨[], marks, rfl, h.1⟩
      · obtain ⟨newer, older, rfl, hfaithful⟩ := ih h.2 hm
        exact ⟨m' :: newer, older, rfl, hfaithful⟩

theorem HasReadLanguages.mono {i : ι} {Q : List Language → Prop} {marks' : List (PetTypeMark ι)}
    (h : HasReadLanguages i Q marks) (hsub : ∀ m ∈ marks, m ∈ marks') :
    HasReadLanguages i Q marks' := by
  obtain ⟨languages, hmem, hQ⟩ := h
  exact ⟨languages, hsub _ hmem, hQ⟩

theorem PetTypeMark.Checked.mono {m : PetTypeMark ι} {marks' : List (PetTypeMark ι)}
    (h : m.Checked marks) (hsub : ∀ m ∈ marks, m ∈ marks') : m.Checked marks' := by
  cases m with
  | created i id entries shown =>
      exact ⟨fun entry hentry => (h.1 entry hentry).mono hsub, h.2.mono hsub⟩
  | updated i id entries shown => exact fun entry hentry => (h entry hentry).mono hsub
  | _ => trivial

end History

section Protocol

variable {ι : Type*} {orders : ι → RowOrder} {i : ι} {l : PetTypeCall} {s s' : PetTypeState}
  {m : PetTypeMark ι} {start : PetTypeState} {marks : List (PetTypeMark ι)}

open PetTypeCall

theorem effect_create_ok {data : PetTypeCreateInput} {id : ℕ} (hplain : data.other = none)
    (h : createOutcome data s = .ok id) : (petTypeCreate data).effect s = insertType data s := by
  rw [effect, createResult, hplain]
  dsimp only
  rw [h]
  rfl

theorem effect_create_error {data : PetTypeCreateInput} {e : AppError} (hplain : data.other = none)
    (h : createOutcome data s = .error e) : (petTypeCreate data).effect s = s := by
  rw [effect, createResult, hplain]
  dsimp only
  rw [h]
  rfl

theorem effect_update_ok {data : PetTypeUpdateInput} {id id' : ℕ} (hplain : data.other = none)
    (h : updateOutcome id data s = .ok id') :
    (petTypeUpdate id data).effect s = updateType id' data s := by
  rw [effect, updateResult, hplain]
  dsimp only
  rw [h]
  rfl

theorem effect_update_error {data : PetTypeUpdateInput} {id : ℕ} {e : AppError}
    (hplain : data.other = none) (h : updateOutcome id data s = .error e) :
    (petTypeUpdate id data).effect s = s := by
  rw [effect, updateResult, hplain]
  dsimp only
  rw [h]
  rfl

theorem effect_delete_ok {id : ℕ} (h : deleteOutcome id s = .ok ()) :
    (petTypeDelete id).effect s = deleteType id s := by
  rw [effect, h, isOk_ok, if_pos rfl]

theorem effect_delete_error {id : ℕ} {e : AppError} (h : deleteOutcome id s = .error e) :
    (petTypeDelete id).effect s = s := by
  rw [effect, h, isOk_error, if_neg Bool.false_ne_true]

/-- A call names only columns of a type, and each language once. -/
def IsPlain : PetTypeCall → Prop
  | .petTypeCreate data => data.other = none
  | .petTypeUpdate _ data => data.other = none ∧ (data.translations.map Prod.fst).Nodup
  | _ => True

/-- A call says what it does to the names. -/
theorem nameIn_effect (h : s.WellFormed) (hplain : IsPlain l) (id : ℕ) (code : String) :
    (l.effect s).nameIn id code =
      ((petTypeMark orders i l s).bind fun m => m.said id code).getD (s.nameIn id code) := by
  cases l with
  | language l =>
      cases l with
      | cacheGet =>
          change s.nameIn id code = _
          unfold petTypeMark
          cases s.language.cached <;> rfl
      | _ => rfl
  | petTypeCreate data =>
      cases hout : createOutcome data s with
      | error e =>
          rw [effect_create_error hplain hout, petTypeMark, hout]
          rfl
      | ok id' =>
          obtain ⟨-, -, -, rfl⟩ := createOutcome_eq_ok.1 hout
          rw [effect_create_ok hplain hout, nameIn_insertType h.fresh, petTypeMark, hout]
          change _ = Option.getD (if id = s.petTypes.next then _ else none) _
          split
          next hid =>
            subst hid
            cases data.translations.lookup code with
            | none => exact (h.fresh code).symm
            | some name => rfl
          next => rfl
  | petTypeUpdate id' data =>
      cases hout : updateOutcome id' data s with
      | error e =>
          rw [effect_update_error hplain.1 hout, petTypeMark, hout]
          rfl
      | ok id'' =>
          rw [effect_update_ok hplain.1 hout, nameIn_updateType hplain.2, petTypeMark, hout]
          change _ = Option.getD (if id = id'' then _ else none) _
          split
          next hid => cases data.translations.lookup code <;> rfl
          next => rfl
  | petTypeDelete id' =>
      cases hout : deleteOutcome id' s with
      | error e =>
          rw [effect_delete_error hout, petTypeMark, hout]
          rfl
      | ok u =>
          rw [effect_delete_ok hout, nameIn_deleteType, petTypeMark, hout]
          change _ = Option.getD (if id = id' then _ else none) _
          split <;> rfl
  | _ => rfl

/-- A call says which types it adds and takes away. -/
theorem isSome_effect (hplain : IsPlain l) (id : ℕ) :
    ((l.effect s).petTypes.find? id).isSome =
      ((petTypeMark orders i l s).bind fun m => m.tells id).getD
        (s.petTypes.find? id).isSome := by
  cases l with
  | language l =>
      cases l with
      | cacheGet =>
          change (s.petTypes.find? id).isSome = _
          unfold petTypeMark
          cases s.language.cached <;> rfl
      | _ => rfl
  | petTypeCreate data =>
      cases hout : createOutcome data s with
      | error e =>
          rw [effect_create_error hplain hout, petTypeMark, hout]
          rfl
      | ok id' =>
          obtain ⟨-, -, -, rfl⟩ := createOutcome_eq_ok.1 hout
          rw [effect_create_ok hplain hout, petTypeMark, hout]
          change _ = Option.getD (if id = s.petTypes.next then some true else none) _
          rw [Bool.eq_iff_iff, isSome_insertType]
          split
          next hid => simp [hid]
          next hid => simp [hid]
  | petTypeUpdate id' data =>
      cases hout : updateOutcome id' data s with
      | error e =>
          rw [effect_update_error hplain.1 hout, petTypeMark, hout]
          rfl
      | ok id'' =>
          rw [effect_update_ok hplain.1 hout, petTypeMark, hout]
          exact Bool.eq_iff_iff.2 isSome_updateType
  | petTypeDelete id' =>
      cases hout : deleteOutcome id' s with
      | error e =>
          rw [effect_delete_error hout, petTypeMark, hout]
          rfl
      | ok u =>
          rw [effect_delete_ok hout, petTypeMark, hout]
          change _ = Option.getD (if id = id' then some false else none) _
          rw [Bool.eq_iff_iff, isSome_deleteType]
          split
          next hid => simp [hid]
          next hid => simp [hid]
  | _ => rfl

theorem wellFormed_effect (h : s.WellFormed) (hplain : IsPlain l) : (l.effect s).WellFormed := by
  cases l with
  | language l => cases l <;> exact ⟨h.slugs, h.cited, h.used⟩
  | petTypeCreate data =>
      cases hout : createOutcome data s with
      | error e => rwa [effect_create_error hplain hout]
      | ok id =>
          rw [effect_create_ok hplain hout]
          exact wellFormed_insertType h hout
  | petTypeUpdate id data =>
      cases hout : updateOutcome id data s with
      | error e => rwa [effect_update_error hplain.1 hout]
      | ok id' =>
          obtain ⟨-, -, -, -, rfl⟩ := updateOutcome_eq_ok.1 hout
          rw [effect_update_ok hplain.1 hout]
          exact wellFormed_updateType h hplain.2 hout
  | petTypeDelete id =>
      cases hout : deleteOutcome id s with
      | error e => rwa [effect_delete_error hout]
      | ok u =>
          rw [effect_delete_ok hout]
          exact wellFormed_deleteType h (deleteOutcome_eq_ok.1 hout).2
  | _ => exact h

theorem wellFormed_env (h : s.WellFormed) (henv : LeavesTypes s s') : s'.WellFormed := by
  have hname : ∀ id code, s'.nameIn id code = s.nameIn id code := fun id code => by
    rw [PetTypeState.nameIn, henv.translations]
    rfl
  refine ⟨?_, fun id code hid => ?_, henv.used⟩
  · rw [henv.petTypes]
    exact h.slugs
  · rw [hname] at hid
    obtain ⟨hsome, hlanguage⟩ := h.cited _ _ hid
    rw [henv.petTypes]
    exact ⟨hsome, henv.languages id code hid hlanguage⟩

theorem mem_withTranslations {O : RowOrder} {t : PetType} {r : PetTypeTranslation} :
    r ∈ (s.withTranslations O t).translations ↔
      r ∈ s.translations.rows ∧ r.petTypeId = t.id := by
  simp [PetTypeState.withTranslations, PetTypeState.translationsOf, Table.mem_findMany]

/-- The translations of a type are its names. -/
theorem exists_translation_iff {O : RowOrder} {t : PetType} {code name : String} :
    (∃ r ∈ (s.withTranslations O t).translations, r.langCode = code ∧ r.name = name) ↔
      s.nameIn t.id code = some name := by
  unfold PetTypeState.nameIn
  rw [Option.map_eq_some_iff]
  constructor
  · rintro ⟨r, hr, rfl, rfl⟩
    obtain ⟨hmem, hid⟩ := mem_withTranslations.1 hr
    exact ⟨r, hid ▸ Table.find?_of_mem hmem, rfl⟩
  · rintro ⟨r, hr, rfl⟩
    have hkey := Table.key_of_find? hr
    exact ⟨r, mem_withTranslations.2 ⟨Table.mem_of_find? hr, congrArg Prod.fst hkey⟩,
      congrArg Prod.snd hkey, rfl⟩

/-- A row of the state is shown as it was written. -/
theorem shownAsWritten {O : RowOrder} {t : PetType}
    (hnames : ∀ id code, s.nameIn id code = lastName start marks id code) :
    ShownAsWritten start marks (s.withTranslations O t) :=
  fun code _ => hnames t.id code ▸ exists_translation_iff

theorem ids_shown {O : RowOrder} {rows : List PetType} :
    (s.shown O rows).map (fun pt => pt.id) = rows.map PetType.id := by
  rw [PetTypeState.shown, List.map_map]
  rfl

/-- The rows of the state are the types that are there. -/
theorem showsAll {O : RowOrder}
    (hthere : ∀ id, (s.petTypes.find? id).isSome = isThere start marks id) :
    ShowsAll start marks (s.shown O s.petTypes.rows) := by
  refine ⟨ids_shown ▸ s.petTypes.nodup, fun id => ?_⟩
  rw [ids_shown, ← hthere, Option.isSome_iff_exists]
  constructor
  · intro hid
    obtain ⟨t, ht, rfl⟩ := List.mem_map.1 hid
    exact ⟨t, Table.find?_of_mem ht⟩
  · rintro ⟨t, ht⟩
    exact List.mem_map.2 ⟨t, Table.mem_of_find? ht, Table.key_of_find? ht⟩

theorem rows_of_shownId {O : RowOrder} {id : ℕ} {pt : PetTypeWithTranslations}
    (h : pt ∈ s.shownId O id) : ∃ t ∈ s.petTypes.rows, pt = s.withTranslations O t := by
  obtain ⟨t, ht, rfl⟩ := List.mem_map.1 h
  exact ⟨t, Table.mem_of_find? (Option.mem_toList.1 ht), rfl⟩

/-- What a call shows are rows of the state that it leaves. -/
theorem rows_of_mark (hplain : IsPlain l) (hm : petTypeMark orders i l s = some m)
    {pt : PetTypeWithTranslations}
    (hpt : pt ∈ m.shown) : ∃ t ∈ (l.effect s).petTypes.rows,
      pt = (l.effect s).withTranslations (orders i) t := by
  cases l with
  | language l =>
      cases l with
      | cacheGet =>
          obtain ⟨languages, -, rfl⟩ := Option.map_eq_some_iff.1 hm
          cases hpt
      | languageFindMany =>
          obtain rfl := Option.some.inj hm
          cases hpt
      | _ => cases hm
  | petTypeCreate dto =>
      rw [petTypeMark] at hm
      cases hout : createOutcome dto s with
      | error e =>
          rw [hout] at hm
          cases hm
      | ok id =>
          rw [hout] at hm
          obtain rfl := Option.some.inj hm
          rw [effect_create_ok hplain hout]
          exact rows_of_shownId hpt
  | petTypeUpdate id dto =>
      rw [petTypeMark] at hm
      cases hout : updateOutcome id dto s with
      | error e =>
          rw [hout] at hm
          cases hm
      | ok id' =>
          rw [hout] at hm
          obtain rfl := Option.some.inj hm
          obtain ⟨-, -, -, -, rfl⟩ := updateOutcome_eq_ok.1 hout
          rw [effect_update_ok hplain.1 hout]
          exact rows_of_shownId hpt
  | petTypeDelete id =>
      obtain ⟨u, -, rfl⟩ := Option.map_eq_some_iff.1 hm
      cases hpt
  | petTypeFindMany =>
      obtain rfl := Option.some.inj hm
      obtain ⟨t, ht, rfl⟩ := List.mem_map.1 hpt
      exact ⟨t, ht, rfl⟩
  | petTypeFindUnique id =>
      obtain rfl := Option.some.inj hm
      exact rows_of_shownId hpt
  | petTypeFindSlug slug =>
      obtain rfl := Option.some.inj hm
      obtain ⟨t, ht, rfl⟩ := List.mem_map.1 hpt
      exact ⟨t, List.mem_of_find?_eq_some (Option.mem_toList.1 ht), rfl⟩

/-- Only the query of all types shows all of them. -/
theorem readAll_of_mark {j : ι} {shown : List PetTypeWithTranslations}
    (hm : petTypeMark orders i l s = some (.readAll j shown)) :
    l.effect s = s ∧ shown = s.shown (orders i) s.petTypes.rows := by
  cases l with
  | petTypeFindMany =>
      cases hm
      exact ⟨rfl, rfl⟩
  | language l =>
      cases l with
      | cacheGet =>
          obtain ⟨languages, -, h⟩ := Option.map_eq_some_iff.1 hm
          cases h
      | _ => cases hm
  | petTypeCreate dto | petTypeUpdate id dto | petTypeDelete id =>
      obtain ⟨u, -, h⟩ := Option.map_eq_some_iff.1 hm
      cases h
  | petTypeFindUnique id | petTypeFindSlug slug => cases hm

/-- The translations of a request were checked before they are written. -/
def PetTypePermits (i : ι) (l : PetTypeCall) (s : PetTypeSnapshot ι) : Prop :=
  IsPlain l ∧
    match l with
    | .petTypeCreate data =>
        FoundActive i data.translations s.marks ∧ FoundDefault i data.translations s.marks
    | .petTypeUpdate _ data => FoundActive i data.translations s.marks
    | _ => True

structure PetTypeInv (start : PetTypeState) (s : PetTypeSnapshot ι) : Prop where
  wellFormed : s.state.WellFormed
  names : ∀ id code, s.state.nameIn id code = lastName start s.marks id code
  there : ∀ id, (s.state.petTypes.find? id).isSome = isThere start s.marks id
  faithful : AllFaithful start s.marks
  checked : ∀ m ∈ s.marks, m.Checked s.marks

theorem checked_of_mark {s : PetTypeSnapshot ι} (hper : PetTypePermits i l s)
    (hm : petTypeMark orders i l s.state = some m) : m.Checked s.marks := by
  cases l with
  | petTypeCreate data =>
      obtain ⟨id, -, rfl⟩ := Option.map_eq_some_iff.1 hm
      exact hper.2
  | petTypeUpdate id data =>
      obtain ⟨id', -, rfl⟩ := Option.map_eq_some_iff.1 hm
      exact hper.2
  | language l =>
      cases l with
      | cacheGet =>
          obtain ⟨languages, -, rfl⟩ := Option.map_eq_some_iff.1 hm
          trivial
      | languageFindMany =>
          obtain rfl := Option.some.inj hm
          trivial
      | _ => cases hm
  | petTypeDelete id =>
      obtain ⟨u, -, rfl⟩ := Option.map_eq_some_iff.1 hm
      trivial
  | petTypeFindMany | petTypeFindUnique id | petTypeFindSlug slug =>
      obtain rfl := Option.some.inj hm
      trivial

theorem PetTypeInv.call {s : PetTypeSnapshot ι} (h : PetTypeInv start s)
    (hper : PetTypePermits i l s) :
    PetTypeInv start (s.after (petTypeMark orders) i l l.effect) := by
  have hnames : ∀ id code, (l.effect s.state).nameIn id code =
      lastName start ((petTypeMark orders i l s.state).toList ++ s.marks) id code :=
    fun id code =>
      (nameIn_effect h.wellFormed hper.1 id code).trans (by rw [lastName_append, h.names])
  have hthere : ∀ id, ((l.effect s.state).petTypes.find? id).isSome =
      isThere start ((petTypeMark orders i l s.state).toList ++ s.marks) id :=
    fun id => (isSome_effect hper.1 id).trans (by rw [isThere_append, h.there])
  refine ⟨wellFormed_effect h.wellFormed hper.1, hnames, hthere, ?_, fun m hm => ?_⟩
  · change AllFaithful start ((petTypeMark orders i l s.state).toList ++ s.marks)
    cases hmark : petTypeMark orders i l s.state with
    | none => exact h.faithful
    | some m =>
        rw [hmark] at hnames hthere
        refine ⟨⟨fun pt hpt => ?_, ?_⟩, h.faithful⟩
        · obtain ⟨t, -, rfl⟩ := rows_of_mark hper.1 hmark hpt
          exact shownAsWritten hnames
        · rintro j shown rfl
          obtain ⟨heffect, rfl⟩ := readAll_of_mark hmark
          rw [heffect] at hthere
          exact showsAll hthere
  · have hsub : ∀ m ∈ s.marks, m ∈ (s.after (petTypeMark orders) i l l.effect).marks :=
      fun m hm => Snapshot.mem_after_of_mem hm
    rcases Snapshot.mem_after.1 hm with hnew | hold
    · exact (checked_of_mark hper hnew).mono hsub
    · exact (h.checked m hold).mono hsub

theorem PetTypeInv.env (h : PetTypeInv start ⟨s, marks⟩) (henv : LeavesTypes s s') :
    PetTypeInv start ⟨s', marks⟩ where
  wellFormed := wellFormed_env h.wellFormed henv
  names := fun id code => by
    rw [← h.names id code, PetTypeState.nameIn, henv.translations]
    rfl
  there := fun id => by rw [← h.there id, henv.petTypes]
  faithful := h.faithful
  checked := h.checked

/-- The protocol of the types: what is written was checked. -/
def petTypeProtocol (orders : ι → RowOrder) (fails : PetTypeCall → Prop) (start : PetTypeState) :
    Protocol (petTypeSetting orders fails) where
  effect := PetTypeCall.effect
  permits := PetTypePermits
  inv := PetTypeInv start
  inv_call := fun hinv hper _ => hinv.call hper
  inv_env := fun henv hinv => hinv.env henv

end Protocol

end FifiAlert
