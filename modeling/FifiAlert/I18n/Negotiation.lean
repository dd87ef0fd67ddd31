import FifiAlert.I18n.LanguageService
import Mathlib.Algebra.Order.Ring.Unbundled.Rat

/-!
# Language negotiation

What the resolution is to answer, apart from how it is found: the language of the parameter, else
the active language of the best entry of the header, else the default. An entry comes before
another when its quality is higher, or the same and it stands further to the front.
-/

namespace FifiAlert

open Concurrency Store

namespace HeaderEntry

/-- The entry is preferred to the other. -/
def Precedes (e e' : HeaderEntry) : Prop :=
  e'.q < e.q ∨ e.q = e'.q ∧ e.index < e'.index

/-- A usable entry of the header with the code. -/
def Names (e : HeaderEntry) (code : String) : Prop :=
  e.usable = true ∧ e.code = some code

end HeaderEntry

namespace LanguageService

/-- The entry comes first among the usable ones with such a code. -/
def IsPreferred (entries : List HeaderEntry) (p : String → Prop) (e : HeaderEntry) : Prop :=
  IsBest HeaderEntry.Precedes entries (fun e => ∃ code, e.Names code ∧ p code) e

/-- The usable codes of the entries, each once, in the order of their best entries. -/
structure ListsCodes (entries : List HeaderEntry) (codes : List String) : Prop where
  nodup : codes.Nodup
  mem_iff : ∀ code, code ∈ codes ↔ ∃ e ∈ entries, e.Names code
  ordered : codes.Pairwise fun code code' => ∃ e e',
    IsPreferred entries (· = code) e ∧ IsPreferred entries (· = code') e' ∧ e.Precedes e'

def IsActiveCode (languages : List Language) (code : String) : Prop :=
  ∃ l ∈ languages, l.code = code

/-- The parameter names an active language. -/
def ParamNames (languages : List Language) (langParam : Js.Value) (code : String) : Prop :=
  normalizeCode (firstParam langParam) = some code ∧ IsActiveCode languages code

/-- The answer of a negotiation among the entries of a header. -/
structure Negotiated (languages : List Language) (langParam : Js.Value)
    (entries : List HeaderEntry) (answer : String) : Prop where
  byParam : ∀ code, ParamNames languages langParam code → answer = code
  byHeader : (∀ code, ¬ ParamNames languages langParam code) →
    (∃ e ∈ entries, ∃ code, e.Names code ∧ IsActiveCode languages code) →
      ∃ e, IsPreferred entries (IsActiveCode languages) e ∧ e.code = some answer
  byDefault : (∀ code, ¬ ParamNames languages langParam code) →
    (∀ e ∈ entries, ∀ code, e.Names code → ¬ IsActiveCode languages code) →
      answer = defaultCode languages
  active : languages ≠ [] → IsActiveCode languages answer

/-- The entries of a header that may be missing. -/
def entriesOf (header : Option String) : List HeaderEntry :=
  (Js.truthy header).elim [] headerEntries

theorem before_trans (a b c : HeaderEntry) (hab : a.before b = true) (hbc : b.before c = true) :
    a.before c = true := by
  simp only [HeaderEntry.before, Bool.or_eq_true, Bool.and_eq_true, decide_eq_true_eq] at *
  rcases hab with hab | ⟨hab, hi⟩ <;> rcases hbc with hbc | ⟨hbc, hj⟩
  · exact .inl (hbc.trans hab)
  · exact .inl (hbc ▸ hab)
  · exact .inl (hab ▸ hbc)
  · exact .inr ⟨hab.trans hbc, hi.trans hj⟩

theorem before_total (a b : HeaderEntry) : a.before b = true ∨ b.before a = true := by
  simp only [HeaderEntry.before, Bool.or_eq_true, Bool.and_eq_true, decide_eq_true_eq]
  rcases lt_trichotomy a.q b.q with h | h | h
  · exact .inr (.inl h)
  · exact (le_total a.index b.index).imp (fun hi => .inr ⟨h, hi⟩) fun hi => .inr ⟨h.symm, hi⟩
  · exact .inl (.inl h)

theorem precedes_of_before {a b : HeaderEntry} (h : a.before b = true) (hne : a.index ≠ b.index) :
    a.Precedes b := by
  simp only [HeaderEntry.before, Bool.or_eq_true, Bool.and_eq_true, decide_eq_true_eq] at h
  exact h.imp_right fun ⟨hq, hi⟩ => ⟨hq, lt_of_le_of_ne hi hne⟩

theorem nodup_index_headerEntries (header : String) :
    ((headerEntries header).map HeaderEntry.index).Nodup := by
  have hindex : (headerEntries header).map HeaderEntry.index =
      List.range' 0 (Js.splitOn [','] header.toList).length := by
    rw [← List.zipIdx_map_snd, headerEntries, List.map_map]
    rfl
  rw [hindex]
  exact List.nodup_range'

/-- The sort puts the usable entries in the order of preference. -/
theorem pairwise_sortedEntries (header : String) :
    (sortedEntries header).Pairwise HeaderEntry.Precedes := by
  have total : Std.Total fun a b : HeaderEntry => a.before b = true := ⟨before_total⟩
  have trans : IsTrans HeaderEntry fun a b => a.before b = true := ⟨before_trans⟩
  have hperm := List.perm_insertionSort (fun a b : HeaderEntry => a.before b = true)
    ((headerEntries header).filter HeaderEntry.usable)
  have hnodup : ((sortedEntries header).map HeaderEntry.index).Nodup :=
    (hperm.map _).nodup_iff.2
      ((nodup_index_headerEntries header).sublist (List.filter_sublist.map _))
  have hsorted := List.pairwise_insertionSort (fun a b : HeaderEntry => a.before b = true)
    ((headerEntries header).filter HeaderEntry.usable)
  exact hsorted.imp₂ (fun _ _ => precedes_of_before) (List.pairwise_map.1 hnodup)

theorem mem_sortedEntries {header : String} {e : HeaderEntry} :
    e ∈ sortedEntries header ↔ e ∈ headerEntries header ∧ e.usable = true :=
  (List.perm_insertionSort _ _).mem_iff.trans List.mem_filter

/-- The code of a usable entry. -/
theorem names_iff {e : HeaderEntry} (h : e.usable = true) {code : String} :
    e.Names code ↔ e.code.getD "" = code := by
  have hcode := (Bool.and_eq_true_iff.1 h).1
  cases hc : e.code with
  | none => simp [hc] at hcode
  | some code' => simp [HeaderEntry.Names, h, hc]

/-- The first sorted entry with such a code is the preferred one. -/
theorem isPreferred_of_find? {header : String} {p : String → Bool} {e : HeaderEntry}
    (h : (sortedEntries header).find? (fun e => p (e.code.getD "")) = some e) :
    IsPreferred (headerEntries header) (fun code => p code = true) e := by
  have hbest := isBest_of_find? (pairwise_sortedEntries header) h
  have hmem : ∀ e' ∈ headerEntries header,
      (∃ code, e'.Names code ∧ p code = true) → e' ∈ sortedEntries header ∧
        p (e'.code.getD "") = true := by
    rintro e' he' ⟨code, hnames, hp⟩
    refine ⟨mem_sortedEntries.2 ⟨he', hnames.1⟩, ?_⟩
    rwa [(names_iff hnames.1).1 hnames]
  have husable := mem_sortedEntries.1 hbest.mem
  exact
    { mem := husable.1
      holds := ⟨_, (names_iff husable.2).2 rfl, hbest.holds⟩
      first := fun e' he' hp => hbest.first e' (hmem e' he' hp).1 (hmem e' he' hp).2 }

theorem parseAcceptLanguage_eq (header : Option String) :
    parseAcceptLanguage header =
      (Js.truthy header).elim [] fun header =>
        newKeys (fun e => e.code.getD "") [] (sortedEntries header) := by
  unfold parseAcceptLanguage
  cases Js.truthy header <;> rfl

/-- The parsed header lists its codes. -/
theorem listsCodes_parseAcceptLanguage (header : Option String) :
    ListsCodes (entriesOf header) (parseAcceptLanguage header) := by
  rw [parseAcceptLanguage_eq, entriesOf]
  cases Js.truthy header with
  | none => exact ⟨.nil, by simp, .nil⟩
  | some header =>
      refine ⟨nodup_newKeys [], fun code => ?_, ?_⟩
      · rw [Option.elim_some, Option.elim_some, mem_newKeys]
        constructor
        · rintro ⟨-, e, he, hcode⟩
          have husable := mem_sortedEntries.1 he
          exact ⟨e, husable.1, (names_iff husable.2).2 hcode⟩
        · rintro ⟨e, he, hnames⟩
          exact ⟨List.not_mem_nil, e, mem_sortedEntries.2 ⟨he, hnames.1⟩,
            (names_iff hnames.1).1 hnames⟩
      · refine (pairwise_newKeys (pairwise_sortedEntries header) []).imp ?_
        rintro code code' ⟨e, e', he, he', hprecedes⟩
        exact ⟨e, e', by simpa using isPreferred_of_find? (p := (· = code)) he,
          by simpa using isPreferred_of_find? (p := (· = code')) he', hprecedes⟩

theorem isActiveCode_iff {languages : List Language} {code : String} :
    IsActiveCode languages code ↔ (languages.any fun l => l.code = code) = true := by
  simp [IsActiveCode]

theorem paramNames_iff {languages : List Language} {langParam : Js.Value} {code : String} :
    ParamNames languages langParam code ↔
      (normalizeCode (firstParam langParam)).filter
        (fun code => languages.any fun l => l.code = code) = some code := by
  rw [ParamNames, Option.filter_eq_some_iff, isActiveCode_iff]

/-- The candidate that the loop over the parsed header finds is the code of the preferred entry. -/
theorem exists_isPreferred_of_candidate {header : Option String} {p : String → Bool}
    {candidate : String} (h : (parseAcceptLanguage header).find? p = some candidate) :
    ∃ e, IsPreferred (entriesOf header) (fun code => p code = true) e ∧
      e.code = some candidate := by
  rw [parseAcceptLanguage_eq] at h
  unfold entriesOf
  cases hheader : Js.truthy header with
  | none => simp [hheader] at h
  | some text =>
      rw [hheader, Option.elim_some, find?_newKeys (fun _ hk => absurd hk List.not_mem_nil),
        Option.map_eq_some_iff] at h
      obtain ⟨e, he, rfl⟩ := h
      have husable := (mem_sortedEntries.1 (List.mem_of_find?_eq_some he)).2
      exact ⟨e, isPreferred_of_find? he, ((names_iff husable).2 rfl).2⟩

/-- The default is active as soon as some language is. -/
theorem isActiveCode_defaultCode {languages : List Language} (h : languages ≠ []) :
    IsActiveCode languages (defaultCode languages) := by
  unfold defaultCode
  cases hdefault : languages.find? Language.isDefault with
  | some l => exact ⟨l, List.mem_of_find?_eq_some hdefault, rfl⟩
  | none =>
      cases languages with
      | nil => exact absurd rfl h
      | cons l languages => exact ⟨l, List.mem_cons_self .., rfl⟩

theorem negotiated_resolveAmong (languages : List Language) (langParam : Js.Value)
    (header : Option String) :
    Negotiated languages langParam (entriesOf header)
      (resolveAmong languages langParam header) := by
  unfold resolveAmong
  dsimp only
  split
  · rename_i fromParam hparam
    have hnames := paramNames_iff.2 hparam
    exact
      { byParam := fun code hcode => Option.some.inj (hparam.symm.trans (paramNames_iff.1 hcode))
        byHeader := fun hno => absurd hnames (hno fromParam)
        byDefault := fun hno => absurd hnames (hno fromParam)
        active := fun _ => hnames.2 }
  · rename_i hparam
    have hno : ∀ code, ¬ ParamNames languages langParam code := fun code hcode => by
      simpa [hparam] using paramNames_iff.1 hcode
    split
    · rename_i candidate hcandidate
      obtain ⟨e, hbest, hcode⟩ := exists_isPreferred_of_candidate hcandidate
      simp only [← isActiveCode_iff] at hbest
      obtain ⟨code, hnames, hactive⟩ := hbest.holds
      have heq : candidate = code := Option.some.inj (hcode.symm.trans hnames.2)
      exact
        { byParam := fun code hparam => absurd hparam (hno code)
          byHeader := fun _ _ => ⟨e, hbest, hcode⟩
          byDefault := fun _ hnone => absurd hactive (hnone e hbest.mem code hnames)
          active := fun _ => heq ▸ hactive }
    · rename_i hcandidate
      have hnone : ∀ e ∈ entriesOf header, ∀ code, e.Names code →
          ¬ IsActiveCode languages code := by
        intro e he code hnames hactive
        have hmem := ((listsCodes_parseAcceptLanguage header).mem_iff code).2 ⟨e, he, hnames⟩
        exact absurd (isActiveCode_iff.1 hactive) (List.find?_eq_none.1 hcandidate code hmem)
      exact
        { byParam := fun code hparam => absurd hparam (hno code)
          byHeader := fun _ ⟨e, he, code, hnames, hactive⟩ =>
            absurd hactive (hnone e he code hnames)
          byDefault := fun _ _ => rfl
          active := isActiveCode_defaultCode }

/-- The header is read as preferred, and whatever list of active languages the service gets, from
the cache or from the database, it answers with the outcome of the negotiation among them. -/
theorem resolve_negotiates (langParam : Js.Value) (header : Option String) :
    ListsCodes (entriesOf header) (parseAcceptLanguage header) ∧
      ∀ fails s languages s', getActive.runWith fails s = (.ok languages, s') →
        ∃ answer, (resolve langParam header).runWith fails s = (.ok answer, s') ∧
          Negotiated languages langParam (entriesOf header) answer := by
  refine ⟨listsCodes_parseAcceptLanguage header, fun fails s languages s' hactive => ?_⟩
  refine ⟨_, ?_, negotiated_resolveAmong languages langParam header⟩
  rw [resolve, Process.runWith_bind, hactive]
  rfl

/-- Greek, the default, and English. -/
def twoLanguages : List Language :=
  [{ code := "el", isDefault := true }, { code := "en", sortOrder := 1 }]

/-- A header that prefers English among them. -/
theorem resolve_negotiates_cached :
    ∃ answer, (resolve .undefined (some "el;q=0.5, *, en-GB;q=0.8")).runWith (fun _ => false)
        { cached := some twoLanguages } = (.ok answer, { cached := some twoLanguages }) ∧
      Negotiated twoLanguages .undefined (entriesOf (some "el;q=0.5, *, en-GB;q=0.8")) answer :=
  (resolve_negotiates .undefined (some "el;q=0.5, *, en-GB;q=0.8")).2 _ _ _ _ rfl

example : parseAcceptLanguage (some "el;q=0.5, *, en-GB;q=0.8, el;q=0.9") = ["el", "en"] := by
  decide +kernel

end LanguageService

end FifiAlert
