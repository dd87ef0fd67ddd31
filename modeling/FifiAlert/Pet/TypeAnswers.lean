import FifiAlert.Pet.NamedTypes

/-!
# Answers on pet types

For any number of requests on the types in any interleaving, beside changes of the languages and of
the pets, and with any of their calls failing: an answer shows the names as they were written when
its request read them.
-/

namespace FifiAlert

open Concurrency Store Js PetTypeProcess LanguageService

section Answers

variable {ι : Type*} {start : PetTypeState} {marks : List (PetTypeMark ι)} {i : ι}
  {pt : PetTypeWithTranslations} {lang defaultLang : String} {includeAll : Bool}

/-- When the thread read the type, the name was the one written last in the language that is
reported, which is the one asked for if the type had a name in it; or the type had no name, and its
slug is shown. -/
structure NamedAsWritten (start : PetTypeState) (lang : String) (marks : List (PetTypeMark ι))
    (response : PetTypeResponseDto) : Prop where
  name : lastName start marks response.id response.lang = some response.name ∨
    (∀ code, lastName start marks response.id code = none) ∧ response.name = response.slug ∧
      response.lang = lang
  lang : lastName start marks response.id lang ≠ none → response.lang = lang
  translations : ∀ all, response.translations = some all → ∀ code name,
    (code, name) ∈ all ↔ lastName start marks response.id code = some name

/-- A call of the thread, with the history up to it. -/
def AtCall (i : ι) (marks : List (PetTypeMark ι)) (Q : List (PetTypeMark ι) → Prop) : Prop :=
  ∃ newer m older, marks = newer ++ m :: older ∧ m.thread = i ∧ Q (m :: older)

theorem pickTranslation_eq_none (h : pickTranslation pt lang defaultLang = none) :
    pt.translations = [] := by
  unfold pickTranslation at h
  simp only [Option.orElse_eq_orElse, Option.orElse_eq_or, Option.or_eq_none_iff] at h
  exact List.head?_eq_none_iff.1 h.2.2

theorem pickTranslation_spec {r : PetTypeTranslation}
    (h : pickTranslation pt lang defaultLang = some r) :
    r ∈ pt.translations ∧ ((∃ r' ∈ pt.translations, r'.langCode = lang) → r.langCode = lang) := by
  unfold pickTranslation at h
  cases hlang : pt.translations.find? fun x => x.langCode = lang with
  | some r' =>
      rw [hlang] at h
      obtain rfl := Option.some.inj h
      exact ⟨List.mem_of_find?_eq_some hlang, fun _ => by simpa using List.find?_some hlang⟩
  | none =>
      have hnone : ¬ ∃ r' ∈ pt.translations, r'.langCode = lang := fun ⟨r', hr', heq⟩ =>
        List.find?_eq_none.1 hlang r' hr' (decide_eq_true heq)
      refine ⟨?_, fun h => absurd h hnone⟩
      rw [hlang] at h
      cases hdefault : pt.translations.find? fun x => x.langCode = defaultLang with
      | some r' =>
          rw [hdefault] at h
          obtain rfl := Option.some.inj h
          exact List.mem_of_find?_eq_some hdefault
      | none =>
          rw [hdefault] at h
          exact List.mem_of_mem_head? h

theorem namedAsWritten (h : ShownAsWritten start marks pt) :
    NamedAsWritten start lang marks (toPetTypeResponse pt lang defaultLang includeAll) := by
  have htranslations : ∀ all,
      (toPetTypeResponse pt lang defaultLang includeAll).translations = some all →
      ∀ code name, (code, name) ∈ all ↔ lastName start marks pt.id code = some name := by
    intro all hall code name
    cases includeAll with
    | false => cases hall
    | true =>
        obtain rfl := Option.some.inj hall
        refine Iff.trans ?_ (h code name)
        simp [and_comm]
  cases hpick : pickTranslation pt lang defaultLang with
  | none =>
      have hempty := pickTranslation_eq_none hpick
      have hnone : ∀ code, lastName start marks pt.id code = none := by
        intro code
        rw [Option.eq_none_iff_forall_ne_some]
        intro name hname
        obtain ⟨r, hr, -⟩ := (h code name).2 hname
        rw [hempty] at hr
        cases hr
      exact ⟨.inr ⟨hnone, by simp [toPetTypeResponse, hpick], by simp [toPetTypeResponse, hpick]⟩,
        fun hne => absurd (hnone lang) hne, htranslations⟩
  | some r =>
      obtain ⟨hr, hlang⟩ := pickTranslation_spec hpick
      have hname : (toPetTypeResponse pt lang defaultLang includeAll).name = r.name := by
        simp [toPetTypeResponse, hpick]
      have hcode : (toPetTypeResponse pt lang defaultLang includeAll).lang = r.langCode := by
        simp [toPetTypeResponse, hpick]
      refine ⟨.inl ?_, fun hne => ?_, htranslations⟩
      · rw [hname, hcode]
        exact (h _ _).1 ⟨r, hr, rfl, rfl⟩
      · rw [hcode]
        obtain ⟨name, hsome⟩ := Option.ne_none_iff_exists'.1 hne
        obtain ⟨r', hr', heq, -⟩ := (h _ _).2 hsome
        exact hlang ⟨r', hr', heq⟩

/-- The thread has been shown the type. -/
def WasShown (i : ι) (pt : PetTypeWithTranslations) (marks : List (PetTypeMark ι)) : Prop :=
  ∃ m ∈ marks, m.thread = i ∧ pt ∈ m.shown

theorem WasShown.named (h : WasShown i pt marks) (hmarks : AllFaithful start marks) :
    AtCall i marks fun marks =>
      NamedAsWritten start lang marks (toPetTypeResponse pt lang defaultLang includeAll) := by
  obtain ⟨m, hm, hthread, hpt⟩ := h
  obtain ⟨newer, older, hsplit, hfaithful⟩ := hmarks.mem hm
  exact ⟨newer, m, older, hsplit, hthread, namedAsWritten (hfaithful.1 pt hpt)⟩

/-- The answer has the types that were there when the thread read all of them, each once. -/
def ListsTypes (start : PetTypeState) (answer : List PetTypeResponseDto)
    (marks : List (PetTypeMark ι)) : Prop :=
  (answer.map PetTypeResponseDto.id).Nodup ∧
    ∀ id, id ∈ answer.map PetTypeResponseDto.id ↔ isThere start marks id = true

theorem listsTypes_of_perm {shown : List PetTypeWithTranslations}
    {answer : List PetTypeResponseDto} (hmarks : AllFaithful start marks)
    (hshown : .readAll i shown ∈ marks)
    (hperm : (answer.map PetTypeResponseDto.id).Perm (shown.map fun pt => pt.id)) :
    AtCall i marks (ListsTypes start answer) := by
  obtain ⟨newer, older, hsplit, -, hall⟩ := hmarks.mem hshown
  have hlists := hall i shown rfl
  exact ⟨newer, _, older, hsplit, rfl, hperm.nodup_iff.2 hlists.nodup,
    fun id => hperm.mem_iff.trans (hlists.mem_iff id)⟩

end Answers

section Threads

variable {ι : Type*} {orders : ι → RowOrder} {fails : PetTypeCall → Prop} {start : PetTypeState}
  {i : ι} {J : PetTypeSnapshot ι → Prop} {s : PetTypeSnapshot ι}

open PetTypesService

theorem permits_language (i : ι) (l : LanguageCall) (s : PetTypeSnapshot ι) :
    PetTypePermits i (.language l) s :=
  ⟨trivial, trivial⟩

/-- The calls of the language service are permitted and ask nothing. -/
theorem getActive_confined : LanguageService.getActive.Confined
    (fun l next => l.lift next = (PetTypeCall.language l).effect) fun _ => True := by
  refine Process.Confined.bind (Process.Confined.tryCatch (T := fun _ => True) ?_ fun _ _ => ?_)
    fun cached => ?_
  · exact Process.confined_query rfl trivial
  · exact Process.Confined.bind (Process.confined_modify rfl trivial) fun _ => trivial
  · cases cached with
    | some languages => trivial
    | none =>
        refine Process.confined_query_bind rfl trivial fun _ => ?_
        refine Process.Confined.bind ?_ fun _ => trivial
        refine Process.Confined.tryCatch (T := fun _ => True) ?_ fun _ _ => ?_
        · exact Process.confined_modify rfl trivial
        · exact Process.confined_modify rfl trivial

theorem safe_getDefaultCode
    (hJ : (petTypeProtocol orders fails start).Lasting i (fun _ => false) J) (hs : J s) :
    Safe (petTypeProtocol orders fails start).contract i (OnReturn fun _ s => J s)
      (ofLanguage getDefaultCode) s := by
  refine hJ.quietly hs (R := fun _ => True) (.relabel (.extend
    (getActive_confined.bind fun _ => trivial) ?_))
  exact fun l next hnext => ⟨hnext, permits_language i l, fun _ _ _ => rfl⟩

/-- A query of the list of languages, which leaves a mark. -/
theorem safe_listing {α : Type} {l : LanguageCall} {err : AppError} {g : LanguageState → α}
    {R : α → List (PetTypeMark ι) → Prop}
    (hJ : (petTypeProtocol orders fails start).Lasting i (fun _ => false) J) (hs : J s)
    (heffect : l.lift id = (PetTypeCall.language l).effect)
    (hR : ∀ a, (petTypeProtocol orders fails start).Lasting i (fun _ => false) fun s => R a s.marks)
    (hfound : ∀ s : PetTypeSnapshot ι, R (g s.state.language)
      (s.after (petTypeMark orders) i (.language l) (PetTypeCall.language l).effect).marks) :
    Safe (petTypeProtocol orders fails start).contract i
      (fun r s => J s ∧ ∀ a, r = .ok a → R a s.marks) (ofLanguage (Process.query l err g)) s := by
  refine Protocol.safe_call heffect fun s₁ hr hinv =>
    ⟨fun _ => ⟨permits_language i l s₁, fun _ => ?_⟩, fun _ => ?_⟩
  · have hafter := hJ.call i (.language l) s₁ hinv (permits_language i l s₁) trivial
      (fun _ _ => rfl)
      (hJ.stable hs hr)
    refine Safe.ret fun s₂ hr₂ _ => ⟨hJ.stable hafter hr₂, ?_⟩
    rintro _ ⟨⟩
    exact (hR _).stable (hfound s₁) hr₂
  · exact Safe.raise fun s₂ hr₂ _ => ⟨hJ.stable (hJ.stable hs hr) hr₂, nofun⟩

/-- The thread has got the list that it goes on with. -/
theorem safe_getActive
    (hJ : (petTypeProtocol orders fails start).Lasting i (fun _ => false) J) (hs : J s) :
    Safe (petTypeProtocol orders fails start).contract i
      (OnReturn fun languages s => J s ∧ .listed i languages ∈ s.marks)
      (ofLanguage getActive) s := by
  have hcached : ∀ cached : Option (List Language),
      (petTypeProtocol orders fails start).Lasting i (fun _ => false) fun s =>
        ∀ languages, cached = some languages → .listed i languages ∈ s.marks :=
    fun _ => .all fun languages => .imp (.marked (PetTypeMark.listed i languages))
  simp only [getActive, ofLanguage, Process.extend_bind, Process.relabel_bind,
    Process.extend_tryCatch, Process.relabel_tryCatch]
  refine Protocol.safe_onReturn_bind (R := fun cached s => J s ∧ ∀ languages,
    cached = some languages → .listed i languages ∈ s.marks) ?_ fun cached s₁ _ h₁ => ?_
  · apply Safe.tryCatch
    refine Safe.mono (safe_listing (R := fun cached marks => ∀ languages,
      cached = some languages → .listed i languages ∈ marks) hJ hs rfl hcached
        fun s₁ languages hlanguages => ?_) fun r s₁ _ hr => ?_
    · refine Snapshot.mem_after.2 (.inl ?_)
      rw [petTypeMark, hlanguages]
      rfl
    · cases r with
      | ok cached => exact ⟨hr.1, hr.2 cached rfl⟩
      | error e =>
          refine hJ.modify_bind hr.1 rfl (permits_language i _) fun s₂ hinv h₂ => ?_
          have hafter := hJ.call i (.language .loggerWarn) s₂ hinv (permits_language i _ s₂) trivial
            (fun _ _ => rfl) h₂
          refine hJ.ret hafter fun _ _ h => ⟨h, fun languages hnone => ?_⟩
          exact absurd hnone.symm (Option.some_ne_none languages)
  · cases cached with
    | some languages =>
        exact (hJ.and (.marked _)).ret ⟨h₁.1, h₁.2 languages rfl⟩ fun _ _ h => h
    | none =>
        simp only [Process.extend_bind, Process.relabel_bind, Process.extend_tryCatch,
          Process.relabel_tryCatch]
        refine Protocol.safe_onReturn_bind (R := fun languages s =>
          J s ∧ .listed i languages ∈ s.marks) ?_ fun languages s₂ _ h₂ => ?_
        · refine Safe.mono (safe_listing (R := fun languages marks =>
            .listed i languages ∈ marks) hJ h₁.1 rfl (fun languages => .marked _)
              fun s₂ => Snapshot.mem_after.2 (.inl rfl)) fun r s₂ _ hr => ?_
          cases r with
          | ok languages => exact ⟨hr.1, hr.2 languages rfl⟩
          | error e => trivial
        · have hboth := hJ.and (.marked (P := petTypeProtocol orders fails start) (i := i)
            (.listed i languages))
          refine Protocol.safe_onReturn_bind (R := fun _ s =>
            J s ∧ .listed i languages ∈ s.marks) ?_ fun _ s₃ _ h₃ =>
              hboth.ret h₃ fun _ _ h => h
          refine hboth.quietly h₂ (R := fun _ => True) ?_
          refine Process.Confined.tryCatch (T := fun _ => True) ?_ fun _ _ => ?_
          · exact Process.confined_modify ⟨rfl, permits_language i _, fun _ _ _ => rfl⟩ trivial
          · exact Process.confined_modify ⟨rfl, permits_language i _, fun _ _ _ => rfl⟩ trivial

/-- The check of translations has found the languages active, and the default one among them. -/
structure FoundValid (i : ι) (codes : List String) (requireDefault : Bool)
    (s : PetTypeSnapshot ι) : Prop where
  active : ∀ code ∈ codes, HasReadLanguages i (fun languages => IsActiveCode languages code) s.marks
  default : requireDefault = true → HasReadLanguages i (fun languages =>
    defaultCode languages ∈ codes ∨
      defaultCode languages ∈ Js.objectPrototype ++ Js.Json.arrayPrototype) s.marks

theorem lasting_foundValid (codes : List String) (requireDefault : Bool) :
    (petTypeProtocol orders fails start).Lasting i (fun _ => false)
      (FoundValid i codes requireDefault) :=
  .of_kept (fun _ _ _ _ _ _ h =>
    ⟨fun code hcode => (h.active code hcode).mono fun _ hm => Snapshot.mem_after_of_mem hm,
      fun hrequire => (h.default hrequire).mono fun _ hm => Snapshot.mem_after_of_mem hm⟩)
    fun _ _ _ _ _ h => ⟨h.active, h.default⟩

theorem FoundValid.foundActive {entries : List (String × String)} {requireDefault : Bool}
    (h : FoundValid i (entries.map Prod.fst) requireDefault s) : FoundActive i entries s.marks :=
  fun entry hentry => h.active entry.1 (List.mem_map_of_mem hentry)

/-- The check finds what it finds of the entries that `Object.entries` gives. -/
theorem safe_assertTranslations (translations : Option Json) (requireDefault : Bool) :
    Safe (petTypeProtocol orders fails start).contract i
      (OnReturn fun _ s => ∀ entries, Json.entries? translations = some entries →
        FoundValid i (entries.map Prod.fst) requireDefault s)
      (assertTranslations translations requireDefault) s := by
  refine Protocol.safe_onReturn_bind (safe_getActive .nothing trivial) fun active s₁ _ h₁ => ?_
  rw [getDefaultCode, ofLanguage, Process.extend_bind, Process.relabel_bind, bind_assoc]
  refine Protocol.safe_onReturn_bind (safe_getActive (.marked (.listed i active)) h₁.2)
    fun languages s₂ _ h₂ => ?_
  dsimp only [Process.pure_eq, Process.extend_ret, Process.relabel_ret, Process.ret_bind]
  cases hentries : Json.entries? translations with
  | none => exact Protocol.safe_onReturn_raise
  | some entries =>
      have hret : FoundValid i (entries.map Prod.fst) requireDefault s₂ →
          Safe (petTypeProtocol orders fails start).contract i
            (OnReturn fun _ s => ∀ entries', some entries = some entries' →
              FoundValid i (entries'.map Prod.fst) requireDefault s)
              (return () : PetTypeProcess Unit) s₂ := by
        intro hvalid
        refine (lasting_foundValid (entries.map Prod.fst) requireDefault).ret hvalid
          fun s₃ _ h₃ entries' heq => ?_
        obtain rfl := Option.some.inj heq
        exact h₃
      dsimp only
      split
      · exact Protocol.safe_onReturn_raise
      next hunknown =>
        have hactive : ∀ code ∈ entries.map Prod.fst, HasReadLanguages i
            (fun languages => IsActiveCode languages code) s₂.marks := by
          intro code hcode
          rw [Bool.not_eq_true, Bool.not_eq_false', List.isEmpty_iff, List.filter_eq_nil_iff]
            at hunknown
          refine ⟨active, h₂.1, ?_⟩
          simpa [IsActiveCode] using hunknown code hcode
        split
        next hrequire => exact hret ⟨hactive, fun h => absurd h (by simpa using hrequire)⟩
        next =>
          cases hhas : Json.has? translations (defaultCode languages) with
          | none => exact Protocol.safe_onReturn_raise
          | some isThere =>
              cases isThere with
              | false => exact Protocol.safe_onReturn_raise
              | true =>
                  exact hret ⟨hactive, fun _ => ⟨languages, h₂.2, Json.mem_of_has? hhas hentries⟩⟩

/-- The answer is made of a type that the thread was shown. -/
theorem safe_toResponse {pt : PetTypeWithTranslations} (opts : PetTypeReadOptions)
    (hs : WasShown i pt s.marks) :
    Safe (petTypeProtocol orders fails start).contract i
      (OnReturn fun response s => AtCall i s.marks fun marks =>
        NamedAsWritten start opts.lang marks response) (toResponse pt opts) s := by
  obtain ⟨m, hm, hthread, hpt⟩ := hs
  have hJ := Protocol.Lasting.marked (P := petTypeProtocol orders fails start) (i := i) m
  refine Protocol.safe_onReturn_bind (safe_getDefaultCode hJ hm) fun defaultLang s₁ _ h₁ => ?_
  exact hJ.ret h₁ fun s₂ hinv h₂ => WasShown.named ⟨m, h₂, hthread, hpt⟩ hinv.faithful

theorem mem_shownId_of_answerRow {O : RowOrder} {id : ℕ} {s : PetTypeState}
    {pt : PetTypeWithTranslations} (h : answerRow O id s = .ok pt) : pt ∈ s.shownId O id := by
  unfold answerRow at h
  cases hfind : s.petTypes.find? id with
  | none =>
      rw [hfind] at h
      cases h
  | some row =>
      rw [hfind] at h
      cases h
      exact List.mem_map_of_mem (by rw [hfind]; exact List.mem_singleton_self row)

theorem lasting_wasShown (pt : PetTypeWithTranslations) :
    (petTypeProtocol orders fails start).Lasting i (fun _ => false)
      fun s => WasShown i pt s.marks :=
  .of_kept (fun _ _ _ _ _ _ ⟨m, hm, h⟩ => ⟨m, Snapshot.mem_after_of_mem hm, h⟩)
    fun _ _ _ _ _ h => h

/-- A statement that answers with a type has shown it. -/
theorem safe_showing {l : PetTypeCall}
    {answer : PetTypeState → Except AppError PetTypeWithTranslations}
    (hJ : (petTypeProtocol orders fails start).Lasting i (fun _ => false) J) (hs : J s)
    (hper : ∀ s, J s → PetTypePermits i l s)
    (hshown : ∀ s pt, answer s = .ok pt →
      ∃ m, petTypeMark orders i l s = some m ∧ m.thread = i ∧ pt ∈ m.shown) :
    Safe (petTypeProtocol orders fails start).contract i
      (OnReturn fun pt s => WasShown i pt s.marks)
      (Process.atomic l (.prisma .other) fun s => (answer s, l.effect s)) s := by
  refine hJ.atomic hs rfl (fun s₁ _ _ h₁ => hper s₁ h₁) (fun pt => lasting_wasShown pt)
    fun pt s₁ _ _ hanswer => ?_
  obtain ⟨m, hm, hthread, hpt⟩ := hshown s₁.state pt hanswer
  exact ⟨m, Snapshot.mem_after.2 (.inl hm), hthread, hpt⟩

/-- The fields of a body name neither the id of the type nor its pets. -/
def IsOwn (data : List (String × Json)) : Prop := ∀ field ∈ data, isOtherField field = false

theorem IsOwn.restOf {data : List (String × Json)} (h : IsOwn data) :
    (restOf data).any isOtherField = false := by
  rw [List.any_eq_false]
  intro field hfield
  rw [h field (List.mem_of_mem_filter hfield)]
  exact Bool.false_ne_true

theorem codes_translationNames {entries : List (String × Json)} {names : List (String × String)}
    (h : translationNames entries = some names) :
    (names.map storedName).map Prod.fst = entries.map Prod.fst := by
  induction entries generalizing names with
  | nil =>
      obtain rfl := Option.some.inj h
      rfl
  | cons entry entries ih =>
      rw [translationNames, List.mapM_cons] at h
      simp only [bind, Option.bind_eq_some_iff, Option.map_eq_some_iff] at h
      obtain ⟨_, ⟨name, -, rfl⟩, names', hnames', h⟩ := h
      obtain rfl := Option.some.inj h
      simpa [storedName] using ih hnames'

theorem parsePetTypeCreate_spec {C : PetTypeClient} {rest entries : List (String × Json)}
    {input : PetTypeCreateInput} (h : parsePetTypeCreate C rest entries = some input)
    (hrest : rest.any isOtherField = false) :
    input.other = none ∧ input.translations.map Prod.fst = entries.map Prod.fst := by
  unfold parsePetTypeCreate at h
  split at h
  next => cases h
  next =>
    simp only [bind, Option.bind_eq_some_iff] at h
    obtain ⟨names, hnames, slug, -, order, -, created_at, -, updated_at, -, h⟩ := h
    obtain rfl := Option.some.inj h
    exact ⟨by rw [hrest, if_neg Bool.false_ne_true], codes_translationNames hnames⟩

theorem parsePetTypeUpdate_spec {C : PetTypeClient} {id : ℕ} {rest entries : List (String × Json)}
    {input : PetTypeUpdateInput} (h : parsePetTypeUpdate C id rest entries = some input)
    (hrest : rest.any isOtherField = false) :
    input.other = none ∧ input.translations.map Prod.fst = entries.map Prod.fst := by
  unfold parsePetTypeUpdate at h
  split at h
  next => cases h
  next =>
    simp only [bind, Option.bind_eq_some_iff] at h
    obtain ⟨names, hnames, slug, -, order, -, created_at, -, updated_at, -, h⟩ := h
    obtain rfl := Option.some.inj h
    exact ⟨by rw [hrest, if_neg Bool.false_ne_true], codes_translationNames hnames⟩

theorem safe_insertPetType {C : PetTypeClient} {rest entries : List (String × Json)}
    (hrest : rest.any isOtherField = false) (hs : FoundValid i (entries.map Prod.fst) true s) :
    Safe (petTypeProtocol orders fails start).contract i
      (OnReturn fun pt s => WasShown i pt s.marks) (insertPetType C (orders i) rest entries) s := by
  unfold insertPetType
  cases hparse : parsePetTypeCreate C rest entries with
  | none => exact Protocol.safe_onReturn_raise
  | some input =>
      obtain ⟨hplain, hcodes⟩ := parsePetTypeCreate_spec hparse hrest
      rw [← hcodes] at hs
      refine safe_showing (lasting_foundValid _ _) hs
        (fun s h => ⟨hplain, h.foundActive, h.default rfl⟩) fun s pt h => ?_
      obtain ⟨⟨id, s'⟩, hresult, hrow⟩ := except_bind_eq_ok.1 h
      rw [PetTypeCall.createResult, hplain] at hresult
      cases hout : PetTypeCall.createOutcome input s with
      | error e =>
          rw [hout] at hresult
          cases hresult
      | ok id' =>
          rw [hout] at hresult
          cases hresult
          refine ⟨.created i id input.translations
            ((PetTypeCall.insertType input s).shownId (orders i) id), ?_, rfl,
            mem_shownId_of_answerRow hrow⟩
          rw [petTypeMark, hout]
          rfl

theorem safe_updatePetType {C : PetTypeClient} {id : ℕ} {rest entries : List (String × Json)}
    (hrest : rest.any isOtherField = false) (hnodup : (entries.map Prod.fst).Nodup)
    (hs : FoundValid i (entries.map Prod.fst) false s) :
    Safe (petTypeProtocol orders fails start).contract i
      (OnReturn fun pt s => WasShown i pt s.marks)
      (updatePetType C (orders i) id rest entries) s := by
  unfold updatePetType
  cases hparse : parsePetTypeUpdate C id rest entries with
  | none => exact Protocol.safe_onReturn_raise
  | some input =>
      obtain ⟨hplain, hcodes⟩ := parsePetTypeUpdate_spec hparse hrest
      rw [← hcodes] at hs hnodup
      refine safe_showing (lasting_foundValid _ _) hs
        (fun s h => ⟨⟨hplain, hnodup⟩, h.foundActive⟩) fun s pt h => ?_
      obtain ⟨⟨id', s'⟩, hresult, hrow⟩ := except_bind_eq_ok.1 h
      rw [PetTypeCall.updateResult, hplain] at hresult
      cases hout : PetTypeCall.updateOutcome id input s with
      | error e =>
          rw [hout] at hresult
          cases hresult
      | ok id'' =>
          rw [hout] at hresult
          cases hresult
          obtain ⟨-, -, -, -, rfl⟩ := updateOutcome_eq_ok.1 hout
          refine ⟨.updated i id input.translations
            ((PetTypeCall.updateType id input s).shownId (orders i) id), ?_, rfl,
            mem_shownId_of_answerRow hrow⟩
          rw [petTypeMark, hout]
          rfl

/-- The answer shows each type as it was written when the thread read it. -/
def AnswersAsWritten (start : PetTypeState) (i : ι) (lang : String)
    (answer : List PetTypeResponseDto) (s : PetTypeSnapshot ι) : Prop :=
  ∀ response ∈ answer, AtCall i s.marks fun marks => NamedAsWritten start lang marks response

theorem AtCall.mono {marks marks' : List (PetTypeMark ι)} {Q : List (PetTypeMark ι) → Prop}
    (h : AtCall i marks Q) (new : List (PetTypeMark ι)) (hnew : marks' = new ++ marks) :
    AtCall i marks' Q := by
  obtain ⟨newer, m, older, rfl, hthread, hQ⟩ := h
  exact ⟨new ++ newer, m, older, hnew.trans (List.append_assoc ..).symm, hthread, hQ⟩

theorem lasting_atCall (Q : List (PetTypeMark ι) → Prop) :
    (petTypeProtocol orders fails start).Lasting i (fun _ => false) fun s => AtCall i s.marks Q :=
  .of_kept (fun _ _ _ _ _ _ h => h.mono _ rfl) fun _ _ _ _ _ h => h

theorem safe_typeCreate {C : PetTypeClient} {data : CreatePetTypeDto} (hdata : IsOwn data)
    (opts : PetTypeReadOptions) :
    Safe (petTypeProtocol orders fails start).contract i
      (OnReturn fun response s => AtCall i s.marks fun marks =>
        NamedAsWritten start opts.lang marks response)
      (create C (orders i) data opts) s := by
  refine Protocol.safe_onReturn_bind (safe_assertTranslations _ true) fun _ s₁ _ h₁ => ?_
  cases hentries : Json.entries? (data.lookup "translations") with
  | none =>
      rw [translationEntries, hentries]
      exact Protocol.safe_onReturn_raise
  | some entries =>
      rw [translationEntries, hentries]
      change Safe _ i _ ((insertPetType C (orders i) (restOf data) entries).tryCatch _ >>= _) s₁
      refine Protocol.safe_onReturn_bind
        (Protocol.safe_onReturn_tryCatch (safe_insertPetType hdata.restOf (h₁ entries hentries))
          fun e s₂ => ?_) fun pt s₂ _ h₂ =>
            safe_toResponse { opts with includeTranslations := true } h₂
      split <;> exact Protocol.safe_onReturn_raise

/-- The entries of an update are checked, and name each language once. -/
theorem safe_checkedEntries (translations : Option Json) :
    Safe (petTypeProtocol orders fails start).contract i
      (OnReturn fun entries s =>
        (entries.map Prod.fst).Nodup ∧ FoundValid i (entries.map Prod.fst) false s)
      (checkedEntries translations) s := by
  unfold checkedEntries
  cases translations.filter Json.isTruthy with
  | none =>
      refine (lasting_foundValid [] false).ret ⟨fun _ h => absurd h List.not_mem_nil,
        fun h => absurd h Bool.false_ne_true⟩ fun s₁ _ h₁ => ⟨List.nodup_nil, h₁⟩
  | some translations =>
      refine Protocol.safe_onReturn_bind (safe_assertTranslations _ false) fun _ s₁ _ h₁ => ?_
      cases hentries : Json.entries? (some translations) with
      | none =>
          rw [translationEntries, hentries]
          exact Protocol.safe_onReturn_raise
      | some entries =>
          rw [translationEntries, hentries]
          exact (lasting_foundValid _ false).ret (h₁ entries hentries)
            fun s₂ _ h₂ => ⟨Json.nodup_of_entries? hentries, h₂⟩

theorem safe_typeUpdate {C : PetTypeClient} {data : UpdatePetTypeDto} (hdata : IsOwn data) (id : ℕ)
    (opts : PetTypeReadOptions) :
    Safe (petTypeProtocol orders fails start).contract i
      (OnReturn fun response s => AtCall i s.marks fun marks =>
        NamedAsWritten start opts.lang marks response)
      (update C (orders i) id data opts) s := by
  refine Protocol.safe_onReturn_bind (safe_checkedEntries _) fun entries s₁ _ h₁ => ?_
  refine Protocol.safe_onReturn_bind
    (Protocol.safe_onReturn_tryCatch (safe_updatePetType hdata.restOf h₁.1 h₁.2) fun e s₂ => ?_)
    fun pt s₂ _ h₂ => safe_toResponse { opts with includeTranslations := true } h₂
  split <;> exact Protocol.safe_onReturn_raise

/-- A query of one type. -/
theorem safe_found {l : PetTypeCall} {found : PetTypeState → Option PetType} {e : AppError}
    (opts : PetTypeReadOptions) (heffect : id = l.effect) (hper : ∀ s, PetTypePermits i l s)
    (hmark : ∀ s, petTypeMark orders i l s = some (.read i (s.shown (orders i) (found s).toList))) :
    Safe (petTypeProtocol orders fails start).contract i
      (OnReturn fun response s => AtCall i s.marks fun marks =>
        NamedAsWritten start opts.lang marks response)
      (do
        let petType ← Process.query l (.prisma .other) fun s =>
          (found s).map (s.withTranslations (orders i))
        match petType with
        | none => .raise e
        | some petType => toResponse petType opts) s := by
  refine Protocol.Lasting.nothing.query_bind trivial heffect hper fun s₁ _ _ => ?_
  cases hfound : found s₁.state with
  | none => exact Protocol.safe_onReturn_raise
  | some row =>
      refine safe_toResponse opts ⟨_, Snapshot.mem_after.2 (.inl (hmark s₁.state)), rfl, ?_⟩
      rw [hfound]
      exact List.mem_singleton_self _

theorem perm_sortByName {E : PetTypeEnv} {orderDir : Json} {lang : String}
    (mapped : List PetTypeResponseDto) : (sortByName E orderDir lang mapped).Perm mapped :=
  List.perm_insertionSort _ mapped

/-- The types that the query answers are all of those that its thread was shown. -/
theorem safe_findMany (le : PetType → PetType → Bool) :
    Safe (petTypeProtocol orders fails start).contract i
      (OnReturn fun petTypes s => ∃ shown, .readAll i shown ∈ s.marks ∧ petTypes.Perm shown)
      (findMany (orders i) le) s := by
  refine Protocol.safe_call rfl fun s₁ _ _ => ⟨fun _ => ⟨⟨trivial, trivial⟩, fun _ => ?_⟩,
    fun _ => Protocol.safe_onReturn_raise⟩
  refine (Protocol.Lasting.marked (P := petTypeProtocol orders fails start) (i := i)
    (.readAll i (s₁.state.shown (orders i) s₁.state.petTypes.rows))).ret
      (Snapshot.mem_after.2 (.inl rfl)) fun s₂ _ h₂ => ⟨_, h₂, ?_⟩
  exact ((orders i).perm _ _).map _

theorem safe_findAll (E : PetTypeEnv) (orderBy orderDir : Option Json)
    (opts : PetTypeReadOptions) :
    Safe (petTypeProtocol orders fails start).contract i
      (OnReturn fun answer s => AnswersAsWritten start i opts.lang answer s ∧
        AtCall i s.marks (ListsTypes start answer))
      (findAll E (orders i) orderBy orderDir opts) s := by
  unfold findAll
  dsimp only
  split
  next => exact Protocol.safe_onReturn_raise
  next le _ =>
    refine Protocol.safe_onReturn_bind (safe_findMany le)
      fun petTypes s₁ _ ⟨shown, h₁, hperm⟩ => ?_
    have hJ := Protocol.Lasting.marked (P := petTypeProtocol orders fails start) (i := i)
      (.readAll i shown)
    refine Protocol.safe_onReturn_bind (safe_getDefaultCode hJ h₁) fun defaultLang s₂ _ h₂ => ?_
    refine hJ.ret h₂ fun s₃ hinv h₃ => ?_
    generalize hmapped : petTypes.map (fun pt =>
      toPetTypeResponse pt opts.lang defaultLang opts.includeTranslations) = mapped
    generalize hanswer : (if (orderBy.getD (.str "order")).isSame (.str "name") = true then
      sortByName E (orderDir.getD (.str "asc")) opts.lang mapped else mapped) = answer
    have hmem : answer.Perm mapped := by
      rw [← hanswer]
      split
      · exact perm_sortByName mapped
      · exact .refl _
    constructor
    · intro response hresponse
      rw [hmem.mem_iff, ← hmapped] at hresponse
      obtain ⟨pt, hpt, rfl⟩ := List.mem_map.1 hresponse
      exact WasShown.named ⟨_, h₃, rfl, hperm.mem_iff.1 hpt⟩ hinv.faithful
    · refine listsTypes_of_perm hinv.faithful h₃ ((hmem.map _).trans ?_)
      rw [← hmapped, List.map_map]
      exact hperm.map _

end Threads

section Runs

/-- A request on the types. -/
inductive PetTypeRequest where
  | create (data : CreatePetTypeDto) (opts : PetTypeReadOptions)
  | findAll (orderBy orderDir : Option Json) (opts : PetTypeReadOptions)
  | findOne (id : ℕ) (opts : PetTypeReadOptions)
  | findBySlug (slug : String) (opts : PetTypeReadOptions)
  | update (id : ℕ) (data : UpdatePetTypeDto) (opts : PetTypeReadOptions)
  | remove (id : ℕ)

namespace PetTypeRequest

/-- The process of a request, with the types that it answers. -/
def process (E : PetTypeEnv) (C : PetTypeClient) (O : RowOrder) :
    PetTypeRequest → PetTypeProcess (List PetTypeResponseDto)
  | create data opts => do
      let response ← PetTypesService.create C O data opts
      return [response]
  | findAll orderBy orderDir opts => PetTypesService.findAll E O orderBy orderDir opts
  | findOne id opts => do
      let response ← PetTypesService.findOne O id opts
      return [response]
  | findBySlug slug opts => do
      let response ← PetTypesService.findBySlug O slug opts
      return [response]
  | update id data opts => do
      let response ← PetTypesService.update C O id data opts
      return [response]
  | remove id => do
      let _ ← PetTypesService.remove id
      return []

/-- The language that a request asks for. -/
def lang? : PetTypeRequest → Option String
  | create _ opts | findAll _ _ opts | findOne _ opts | findBySlug _ opts | update _ _ opts =>
      some opts.lang
  | remove _ => none

/-- The body of the request, if it has one, names neither the id of the type nor its pets. -/
def IsOwn : PetTypeRequest → Prop
  | create data _ | update _ data _ => FifiAlert.IsOwn data
  | _ => True

def isFindAll : PetTypeRequest → Bool
  | findAll _ _ _ => true
  | _ => false

end PetTypeRequest

variable {ι : Type*} {orders : ι → RowOrder} {fails : PetTypeCall → Prop} {start : PetTypeState}
  {i : ι} {s : PetTypeSnapshot ι} {E : PetTypeEnv} {C : PetTypeClient} {req : ι → PetTypeRequest}

/-- What holds of the answer of a request. -/
structure PetTypeAnswer (start : PetTypeState) (i : ι) (req : PetTypeRequest)
    (answer : List PetTypeResponseDto) (s : PetTypeSnapshot ι) : Prop where
  asWritten : ∀ lang, req.lang? = some lang → AnswersAsWritten start i lang answer s
  complete : req.isFindAll = true → AtCall i s.marks (ListsTypes start answer)

/-- A request that answers with one type. -/
theorem safe_answersOne {req : PetTypeRequest} {p : PetTypeProcess PetTypeResponseDto}
    {lang : String} (hlang : req.lang? = some lang) (hfind : req.isFindAll = false)
    (hp : Safe (petTypeProtocol orders fails start).contract i
      (OnReturn fun response s => AtCall i s.marks fun marks =>
        NamedAsWritten start lang marks response) p s) :
    Safe (petTypeProtocol orders fails start).contract i (OnReturn (PetTypeAnswer start i req))
      (do let response ← p; return [response]) s := by
  refine Protocol.safe_onReturn_bind hp fun response s₁ _ h₁ => ?_
  refine (lasting_atCall _).ret h₁ fun s₂ _ h₂ => ⟨fun lang' hlang' response' hmem => ?_, ?_⟩
  · obtain rfl := Option.some.inj (hlang.symm.trans hlang')
    rw [List.mem_singleton.1 hmem]
    exact h₂
  · exact fun hfind' => absurd (hfind.symm.trans hfind') nofun

theorem safe_petTypeRequest {req : PetTypeRequest} (hreq : req.IsOwn) :
    Safe (petTypeProtocol orders fails start).contract i (OnReturn (PetTypeAnswer start i req))
      (req.process E C (orders i)) s := by
  cases req with
  | create data opts => exact safe_answersOne rfl rfl (safe_typeCreate hreq opts)
  | update id data opts => exact safe_answersOne rfl rfl (safe_typeUpdate hreq id opts)
  | findOne id opts =>
      exact safe_answersOne rfl rfl
        (safe_found opts rfl (fun _ => ⟨trivial, trivial⟩) fun _ => rfl)
  | findBySlug slug opts =>
      exact safe_answersOne rfl rfl
        (safe_found opts rfl (fun _ => ⟨trivial, trivial⟩) fun _ => rfl)
  | findAll orderBy orderDir opts =>
      refine Safe.mono (safe_findAll E orderBy orderDir opts) fun r s₁ _ hr => ?_
      cases r with
      | error e => trivial
      | ok answer =>
          refine ⟨fun lang hlang => ?_, fun _ => hr.2⟩
          obtain rfl := Option.some.inj hlang
          exact hr.1
  | remove id =>
      refine Protocol.safe_onReturn_bind (R := fun _ _ => True) ?_ fun _ s₁ _ _ =>
        Safe.ret fun _ _ _ => ⟨nofun, nofun⟩
      refine Protocol.Lasting.nothing.atomic_tryCatch trivial rfl
        (fun _ _ _ _ => ⟨trivial, trivial⟩)
        fun e s₁ => ?_
      split <;> exact Protocol.safe_onReturn_raise

abbrev PetTypeConfig (ι : Type*) :=
  Config ι PetTypeState PetTypeCall AppError (List PetTypeResponseDto) (PetTypeMark ι)

def petTypePool (E : PetTypeEnv) (C : PetTypeClient) (orders : ι → RowOrder)
    (start : PetTypeState) (req : ι → PetTypeRequest) : PetTypeConfig ι :=
  .init start fun i => (req i).process E C (orders i)

/-- What holds of the types after a run from `start`. -/
structure TypesNamed (start : PetTypeState) (req : ι → PetTypeRequest) (c : PetTypeConfig ι) :
    Prop where
  wellFormed : c.state.WellFormed
  /-- The name of a type in a language is the one that was written last. -/
  names : ∀ id code, c.state.nameIn id code = lastName start c.marks id code
  /-- The types are those that were created, or there at the start, and not removed since. -/
  there : ∀ id, (c.state.petTypes.find? id).isSome = isThere start c.marks id
  checked : ∀ m ∈ c.marks, m.Checked c.marks
  answers : ∀ i answer, c.pool i = .ret answer → PetTypeAnswer start i (req i) answer c.toSnapshot

variable [DecidableEq ι]

/-- In every interleaving the types are well formed and carry the names that were written last, and
an answer shows what was written when its request read it. -/
theorem types_named (h₀ : start.WellFormed) (hreq : ∀ i, (req i).IsOwn) {c : PetTypeConfig ι}
    (h : Reaches (petTypeSetting orders fails) (petTypePool E C orders start req) c) :
    TypesNamed start req c := by
  have hsound : Sound (petTypeProtocol orders fails start).contract
      (fun i => OnReturn (PetTypeAnswer start i (req i))) (petTypePool E C orders start req) :=
    ⟨⟨h₀, fun _ _ => rfl, fun _ => rfl, trivial, fun _ hm => absurd hm List.not_mem_nil⟩,
      fun i => safe_petTypeRequest (hreq i)⟩
  have hend := hsound.reaches h
  exact ⟨hend.1.wellFormed, hend.1.names, hend.1.there, hend.1.checked,
    fun i answer hret => hend.result hret⟩

end Runs

section Example

/-- Greek, the default, and English, and no types. -/
def twoLanguages : PetTypeState where
  language :=
    { languages := [{ code := "el", isDefault := true }, { code := "en", sortOrder := 1 }] }

def dogBody : CreatePetTypeDto :=
  [("slug", .str "dog"), ("translations", .obj [("el", .str "Skylos"), ("en", .str "Dog")])]

def houndBody : UpdatePetTypeDto := [("translations", .obj [("en", .str "Hound")])]

/-- A type is created, renamed in English, and read in English. -/
def dogRequests : Fin 3 → PetTypeRequest
  | 0 => .create dogBody ⟨"en", false⟩
  | 1 => .update 0 houndBody ⟨"el", false⟩
  | 2 => .findOne 0 ⟨"en", false⟩

def dogClient : PetTypeClient where
  dateTime := fun _ => none
  accepts := fun _ _ => true
  nested := fun _ _ _ _ => .error (.prisma .other)

/-- The reader reads before the type is renamed, and answers after it. -/
def dogRun : PetTypeConfig (Fin 3) :=
  (petTypePool ⟨fun _ _ _ => 0, fun _ _ => true, fun _ _ => none⟩ dogClient
    (fun _ => RowOrder.insertion) twoLanguages dogRequests).schedule
      (petTypeMark fun _ => RowOrder.insertion) [0, 0, 0, 0, 0, 0, 1, 1, 2, 1, 1, 2]

/-- A state without types is one to start from. -/
theorem wellFormed_of_empty {language : LanguageState} :
    ({ language } : PetTypeState).WellFormed where
  slugs := List.nodup_nil
  cited := fun _ _ hname => absurd rfl hname
  used := fun _ hused => absurd hused List.not_mem_nil

theorem isOwn_dogRequests : ∀ i, (dogRequests i).IsOwn
  | 0 => by simp [dogRequests, PetTypeRequest.IsOwn, IsOwn, dogBody, isOtherField]
  | 1 => by simp [dogRequests, PetTypeRequest.IsOwn, IsOwn, houndBody, isOtherField]
  | 2 => trivial

theorem types_named_dog : TypesNamed twoLanguages dogRequests dogRun :=
  types_named wellFormed_of_empty isOwn_dogRequests
    (Reaches.schedule (S := petTypeSetting (fun _ => RowOrder.insertion) fun _ => False)
      (fun _ _ _ => trivial) _ _)

example : dogRun.state.nameIn 0 "en" = some "Hound" ∧
    (dogRun.pool 2).result?.map (fun r => r.toOption.map fun answer =>
      answer.map fun response => (response.name, response.lang)) = some (some [("Dog", "en")]) := by
  decide +kernel

end Example

end FifiAlert
