import FifiAlert.Concurrency.Since
import FifiAlert.I18n.Negotiation
import FifiAlert.Pet.PetTypes

/-!
# The names of the pet types

What the statements on the types do to the slugs, to the types that there are and to their names. No
two types have a slug, and a name is that of a type that is there, in a language that is there.
-/

namespace FifiAlert

open Concurrency Store

namespace PetTypeState

/-- The table of languages has the code. -/
def HasLanguage (s : PetTypeState) (code : String) : Prop :=
  ∃ l ∈ s.language.languages, l.code = code

/-- No two types have a slug. A name is that of a type that is there, in a language that is
there. The types of the pets are there. -/
structure WellFormed (s : PetTypeState) : Prop where
  slugs : (s.petTypes.rows.map PetType.slug).Nodup
  cited : ∀ id code, s.nameIn id code ≠ none →
    (s.petTypes.find? id).isSome = true ∧ s.HasLanguage code
  used : ∀ id ∈ s.petTypeIds, (s.petTypes.find? id).isSome = true

end PetTypeState

section Tables

variable {t : Table PetTypeTranslation PetTypeTranslation.key} {id id' : ℕ} {code : String}
  {entries : List (String × String)}

/-- The name of a row. -/
def translated (t : Table PetTypeTranslation PetTypeTranslation.key) (id : ℕ) (code : String) :
    Option String :=
  (t.find? (id, code)).map PetTypeTranslation.name

theorem lookup_cons_ite (entryCode name : String) :
    ((entryCode, name) :: entries).lookup code =
      if code = entryCode then some name else entries.lookup code := by
  rw [List.lookup_cons]
  by_cases hcode : code = entryCode
  · simp [hcode]
  · simp [beq_false_of_ne hcode, hcode]

theorem translated_insertNew (r : PetTypeTranslation) : translated (t.insertNew r) id' code =
    (translated t id' code).or (if (id', code) = r.key then some r.name else none) := by
  unfold translated
  cases hr : t.find? r.key with
  | none =>
      rw [Table.find?_insertNew hr]
      by_cases hk : r.key = (id', code)
      · rw [if_pos hk, if_pos hk.symm, ← hk, hr]
        rfl
      · rw [if_neg hk, if_neg (Ne.symm hk), Option.or_none]
  | some r' =>
      rw [Table.insertNew_of_some hr]
      by_cases hk : (id', code) = r.key
      · rw [hk, hr]
        rfl
      · rw [if_neg hk, Option.or_none]

theorem translated_upsert (r : PetTypeTranslation) :
    translated (t.upsert r (PetTypeTranslation.rename r.name)
      (PetTypeTranslation.key_rename r.name)) id' code =
      if (id', code) = r.key then some r.name else translated t id' code := by
  unfold translated
  rw [Table.find?_upsert]
  split
  next => cases t.find? (id', code) <;> rfl
  next => rfl

/-- The names after the insertion of some translations; those that are there stay. -/
theorem translated_insertAll :
    translated (entries.foldl (fun t entry => t.insertNew ⟨id, entry.1, entry.2⟩) t) id' code =
      (translated t id' code).or (if id' = id then entries.lookup code else none) := by
  induction entries generalizing t with
  | nil => simp
  | cons entry entries ih =>
      obtain ⟨entryCode, name⟩ := entry
      rw [List.foldl_cons, ih, translated_insertNew, Option.or_assoc]
      congr 1
      rw [lookup_cons_ite]
      by_cases hid : id' = id <;> by_cases hcode : code = entryCode <;>
        simp [PetTypeTranslation.key, hid, hcode]

/-- The names after each of some translations was changed or inserted. -/
theorem translated_upsertAll (hnodup : (entries.map Prod.fst).Nodup) :
    translated (entries.foldl (fun t entry =>
      t.upsert ⟨id, entry.1, entry.2⟩ (PetTypeTranslation.rename entry.2)
        (PetTypeTranslation.key_rename entry.2)) t) id' code =
        if id' = id then (entries.lookup code).or (translated t id' code)
          else translated t id' code := by
  induction entries generalizing t with
  | nil => simp
  | cons entry entries ih =>
      obtain ⟨entryCode, name⟩ := entry
      obtain ⟨hnew, hnodup⟩ := List.nodup_cons.1 hnodup
      have hnone : entries.lookup entryCode = none := by
        rw [List.lookup_eq_none_iff]
        intro entry hmem
        simpa using fun heq : entryCode = entry.1 => hnew (List.mem_map.2 ⟨entry, hmem, heq.symm⟩)
      rw [List.foldl_cons, ih hnodup, translated_upsert ⟨id, entryCode, name⟩]
      rw [lookup_cons_ite]
      by_cases hid : id' = id <;> by_cases hcode : code = entryCode <;>
        simp [PetTypeTranslation.key, hid, hcode, hnone]

end Tables

section Effect

variable {s : PetTypeState} {id id' : ℕ} {code : String} {input : PetTypeCreateInput}
  {data : PetTypeUpdateInput}

open PetTypeCall

theorem createOutcome_eq_ok : createOutcome input s = .ok id ↔ s.findSlug input.slug = none ∧
    input.tooLong = false ∧ s.hasLanguages input.translations = true ∧ s.petTypes.next = id := by
  unfold createOutcome
  cases s.findSlug input.slug <;> cases input.tooLong <;>
    cases s.hasLanguages input.translations <;> simp

theorem updateOutcome_eq_ok : updateOutcome id data s = .ok id' ↔
    (∃ t, s.petTypes.find? id = some t ∧ (data.apply s.now t).isSome = true) ∧
      slugIsTaken id data s = false ∧ data.tooLong = false ∧
        s.hasLanguages data.translations = true ∧ id = id' := by
  unfold updateOutcome
  cases s.petTypes.find? id with
  | none => simp
  | some t =>
      cases slugIsTaken id data s <;> cases data.tooLong <;>
        cases s.hasLanguages data.translations <;> cases h : data.apply s.now t <;> simp [h]

theorem deleteOutcome_eq_ok : deleteOutcome id s = .ok () ↔
    (s.petTypes.find? id).isSome = true ∧ id ∉ s.petTypeIds := by
  unfold deleteOutcome
  cases s.petTypes.find? id with
  | none => simp
  | some t => by_cases hused : id ∈ s.petTypeIds <;> simp [hused]

theorem hasLanguages_iff {entries : List (String × String)} :
    s.hasLanguages entries = true ↔ ∀ entry ∈ entries, s.HasLanguage entry.1 := by
  simp [PetTypeState.hasLanguages, PetTypeState.HasLanguage]

theorem nameIn_insertType (hfresh : ∀ code, s.nameIn s.petTypes.next code = none) :
    (insertType input s).nameIn id' code =
      if id' = s.petTypes.next then input.translations.lookup code
      else s.nameIn id' code := by
  change translated _ _ _ = _
  rw [insertType, translated_insertAll]
  split
  next hid =>
    subst hid
    rw [show translated s.translations s.petTypes.next code = none from hfresh code, Option.none_or]
  next => exact Option.or_none

theorem nameIn_updateType (hnodup : (data.translations.map Prod.fst).Nodup) :
    (updateType id data s).nameIn id' code =
      if id' = id then (data.translations.lookup code).or (s.nameIn id' code)
        else s.nameIn id' code :=
  translated_upsertAll hnodup

theorem nameIn_deleteType : (deleteType id s).nameIn id' code =
    if id' = id then none else s.nameIn id' code := by
  unfold PetTypeState.nameIn deleteType
  rw [Table.find?_deleteMany]
  cases hfind : s.translations.find? (id', code) with
  | none => simp
  | some t =>
      have hid : t.petTypeId = id' := congrArg Prod.fst (Table.key_of_find? hfind)
      by_cases hid' : id' = id <;> simp [hid, hid']

theorem isSome_insertType : ((insertType input s).petTypes.find? id').isSome = true ↔
    id' = s.petTypes.next ∨ (s.petTypes.find? id').isSome = true := by
  unfold insertType
  rw [Serial.find?_create]
  by_cases hid : id' = s.petTypes.next <;> simp [hid]

theorem isSome_updateType : ((updateType id data s).petTypes.find? id').isSome = true ↔
    (s.petTypes.find? id').isSome = true := by
  simp [updateType]

theorem isSome_deleteType : ((deleteType id s).petTypes.find? id').isSome = true ↔
    id' ≠ id ∧ (s.petTypes.find? id').isSome = true := by
  change ((s.petTypes.toTable.deleteMany fun t => t.id = id).find? id').isSome = true ↔ _
  rw [Table.find?_deleteMany]
  cases hfind : s.petTypes.find? id' with
  | none => simp
  | some t =>
      have hid : t.id = id' := Table.key_of_find? hfind
      simp [hid]

/-- A new type has no names yet. -/
theorem PetTypeState.WellFormed.fresh (h : s.WellFormed) (code : String) :
    s.nameIn s.petTypes.next code = none := by
  by_contra hne
  obtain ⟨t, ht⟩ := Option.isSome_iff_exists.1 (h.cited _ _ hne).1
  exact Nat.lt_irrefl _ (Serial.lt_next_of_find? ht)

theorem mem_of_lookup {entries : List (String × String)} (h : entries.lookup code ≠ none) :
    ∃ entry ∈ entries, entry.1 = code := by
  obtain ⟨name, hname⟩ := Option.ne_none_iff_exists'.1 h
  obtain ⟨l₁, l₂, rfl, -⟩ := List.lookup_eq_some_iff.1 hname
  exact ⟨(code, name), List.mem_append_right _ List.mem_cons_self, rfl⟩

theorem hasLanguage_of_lookup {entries : List (String × String)}
    (hlanguages : s.hasLanguages entries = true) (h : entries.lookup code ≠ none) :
    s.HasLanguage code := by
  obtain ⟨entry, hentry, rfl⟩ := mem_of_lookup h
  exact hasLanguages_iff.1 hlanguages entry hentry

theorem wellFormed_insertType (h : s.WellFormed) (hid : createOutcome input s = .ok id) :
    (insertType input s).WellFormed := by
  obtain ⟨hslug, -, hlanguages, -⟩ := createOutcome_eq_ok.1 hid
  refine ⟨?_, fun id' code hname => ?_,
    fun id' hused => isSome_insertType.2 (.inr (h.used id' hused))⟩
  · change ((s.petTypes.rows ++ [_]).map PetType.slug).Nodup
    rw [List.map_append, List.map_singleton, List.nodup_append]
    refine ⟨h.slugs, List.nodup_singleton _, fun slug hmem slug' hmem' heq => ?_⟩
    obtain ⟨t, ht, rfl⟩ := List.mem_map.1 hmem
    rw [List.mem_singleton.1 hmem'] at heq
    exact absurd (decide_eq_true heq) (List.find?_eq_none.1 hslug t ht)
  · rw [nameIn_insertType h.fresh] at hname
    split at hname
    next heq => exact ⟨isSome_insertType.2 (.inl heq), hasLanguage_of_lookup hlanguages hname⟩
    next =>
      obtain ⟨hsome, hlanguage⟩ := h.cited _ _ hname
      exact ⟨isSome_insertType.2 (.inr hsome), hlanguage⟩

theorem wellFormed_deleteType (h : s.WellFormed) (hid : id ∉ s.petTypeIds) :
    (deleteType id s).WellFormed := by
  refine ⟨h.slugs.sublist (List.filter_sublist.map _), fun id' code hname => ?_,
    fun id' hused => ?_⟩
  · rw [nameIn_deleteType] at hname
    split at hname
    next => exact absurd rfl hname
    next hne =>
      obtain ⟨hsome, hlanguage⟩ := h.cited _ _ hname
      exact ⟨isSome_deleteType.2 ⟨hne, hsome⟩, hlanguage⟩
  · exact isSome_deleteType.2 ⟨fun heq => hid (heq ▸ hused), h.used id' hused⟩

theorem slug_rewrite (t : PetType) (now : Time) :
    (data.rewrite now t).slug = t.slug ∨ ∃ slug, data.slug = some slug ∧
      (data.rewrite now t).slug = slug := by
  unfold PetTypeUpdateInput.rewrite
  cases h : data.apply now t with
  | none => exact .inl rfl
  | some t' =>
      have hslug := (PetTypeUpdateInput.apply_eq_some h).2
      cases hdata : data.slug with
      | none => exact .inl (by rw [Option.getD_some, hslug, hdata, Option.getD_none])
      | some slug =>
          exact .inr ⟨slug, rfl, by rw [Option.getD_some, hslug, hdata, Option.getD_some]⟩

/-- The slug that an update writes is that of no other type. -/
theorem slug_rewrite_ne (hfree : slugIsTaken id data s = false) {a b : PetType} {now : Time}
    (hb : b ∈ s.petTypes.rows) (hne : b.id ≠ id) (hslug : a.slug ≠ b.slug) :
    (data.rewrite now a).slug ≠ b.slug := by
  rcases slug_rewrite a now with hsame | ⟨slug, hdata, hnew⟩
  · rwa [hsame]
  · have hother : ∀ t ∈ s.petTypes.rows, t.slug = slug → t.id = id := by
      simpa [slugIsTaken, hdata] using hfree
    rw [hnew]
    exact fun heq => hne (hother b hb heq.symm)

/-- The slugs stay apart. -/
theorem nodup_slugs_updateType (h : s.WellFormed) (hfree : slugIsTaken id data s = false) :
    ((updateType id data s).petTypes.rows.map PetType.slug).Nodup := by
  have hids := List.pairwise_map.1 s.petTypes.nodup
  change ((s.petTypes.rows.map fun t => if decide (t.id = id) then data.rewrite s.now t else t).map
    PetType.slug).Nodup
  rw [List.map_map]
  refine List.pairwise_map.2 (((List.pairwise_map.1 h.slugs).and hids).imp_of_mem ?_)
  rintro a b ha hb ⟨hslug, hne⟩
  simp only [Function.comp_apply, decide_eq_true_eq]
  split
  next hid =>
    rw [if_neg fun hb' => hne (hid.trans hb'.symm)]
    exact slug_rewrite_ne hfree hb (fun hb' => hne (hid.trans hb'.symm)) hslug
  next hid =>
    split
    next hb' => exact (slug_rewrite_ne hfree ha hid (Ne.symm hslug)).symm
    next => exact hslug

theorem wellFormed_updateType (h : s.WellFormed) (hnodup : (data.translations.map Prod.fst).Nodup)
    (hid : updateOutcome id data s = .ok id') : (updateType id data s).WellFormed := by
  obtain ⟨⟨t, ht, -⟩, hfree, -, hlanguages, -⟩ := updateOutcome_eq_ok.1 hid
  refine ⟨nodup_slugs_updateType h hfree, fun id'' code hname => ?_,
    fun id'' hused => isSome_updateType.2 (h.used id'' hused)⟩
  rw [nameIn_updateType hnodup] at hname
  split at hname
  next heq =>
    cases hnew : data.translations.lookup code with
    | none =>
        rw [hnew, Option.none_or] at hname
        obtain ⟨hsome, hlanguage⟩ := h.cited _ _ hname
        exact ⟨isSome_updateType.2 hsome, hlanguage⟩
    | some name =>
        refine ⟨isSome_updateType.2 (by rw [heq, ht, Option.isSome_some]),
          hasLanguage_of_lookup hlanguages ?_⟩
        rw [hnew]
        exact Option.some_ne_none name
  next =>
    obtain ⟨hsome, hlanguage⟩ := h.cited _ _ hname
    exact ⟨isSome_updateType.2 hsome, hlanguage⟩

end Effect

end FifiAlert
