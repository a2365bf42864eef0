import Mathlib.Data.List.Forall2
import FencedHighlight.Engine

namespace FencedHighlight

/-!
The outcome of highlighting a document.

The blocks of a language are highlighted in their order, and the first of them that
cannot be decides what becomes of the language.  If its span is broken, the document has
no ranges at all; otherwise the language has none, and the document has those of all
other languages.
-/

namespace HighlightError

theorem skip_eq_ok_iff {α : Type} {default value : α} {result : Except HighlightError α} :
    skip default result = .ok value ↔
      result ≠ .error .brokenSpan ∧ result.toOption.getD default = value := by
  cases result with
  | ok own => simp [skip, Except.toOption]
  | error fault => cases fault <;> simp [skip, Except.toOption]

theorem skip_eq_error_iff {α : Type} {default : α} {fault : HighlightError}
    {result : Except HighlightError α} :
    skip default result = .error fault ↔ fault = .brokenSpan ∧ result = .error .brokenSpan := by
  cases result with
  | ok own => simp [skip]
  | error other => cases other <;> simp [skip, eq_comm]

/-- A list is gone through without a failure exactly if no item fails. -/
theorem mapM_eq_ok_iff {α β : Type} {f : α -> Except HighlightError β} {items : List α}
    {results : List β} :
    items.mapM f = .ok results ↔
      List.Forall₂ (fun item result => f item = .ok result) items results := by
  induction items generalizing results with
  | nil =>
      rw [List.mapM_nil, List.forall₂_nil_left_iff]
      exact ⟨fun same => (Except.ok.inj same).symm, fun same => congrArg Except.ok same.symm⟩
  | cons item rest ih =>
      rw [List.mapM_cons, List.forall₂_cons_left_iff]
      constructor
      · intro succeeds
        rcases ok_of_bind succeeds with ⟨result, first, succeeds⟩
        rcases ok_of_bind succeeds with ⟨others, later, same⟩
        exact ⟨result, others, first, ih.mp later, (Except.ok.inj same).symm⟩
      · rintro ⟨result, others, first, later, rfl⟩
        rw [first, ih.mpr later]
        rfl

/-- The first item that fails decides how going through a list fails. -/
theorem mapM_eq_error_iff {α β : Type} {f : α -> Except HighlightError β} {items : List α}
    {fault : HighlightError} :
    items.mapM f = .error fault ↔
      ∃ before item after, items = before ++ item :: after ∧
        (∀ earlier ∈ before, ∃ result, f earlier = .ok result) ∧ f item = .error fault := by
  induction items with
  | nil =>
      constructor
      · intro fails
        cases fails
      · rintro ⟨before, item, after, split, _⟩
        simp at split
  | cons head rest ih =>
      rw [List.mapM_cons]
      constructor
      · intro fails
        rcases error_of_bind fails with first | ⟨result, first, fails⟩
        · exact ⟨[], head, rest, rfl, fun _ member => absurd member List.not_mem_nil, first⟩
        · rcases error_of_bind fails with later | ⟨others, _, succeeds⟩
          · rcases ih.mp later with ⟨before, item, after, rfl, succeed, faulty⟩
            refine ⟨head :: before, item, after, rfl, ?_, faulty⟩
            exact List.forall_mem_cons.mpr ⟨⟨result, first⟩, succeed⟩
          · cases succeeds
      · rintro ⟨before, item, after, split, succeed, faulty⟩
        cases before with
        | nil =>
            rcases List.cons.inj split with ⟨rfl, _⟩
            rw [faulty]
            rfl
        | cons first before =>
            rcases List.cons.inj split with ⟨rfl, rfl⟩
            rcases List.forall_mem_cons.mp succeed with ⟨⟨result, first⟩, succeed⟩
            rw [first, ih.mpr ⟨before, item, after, rfl, succeed, faulty⟩]
            rfl

/-- Failures that are passed over leave a default in the place of what has failed. -/
theorem mapM_skip_eq_ok_iff {α β : Type} {f : α -> Except HighlightError β} {default : β}
    {items : List α} {results : List β} :
    (items.mapM fun item => skip default (f item)) = .ok results ↔
      (∀ item ∈ items, f item ≠ .error .brokenSpan) ∧
        results = items.map fun item => (f item).toOption.getD default := by
  rw [mapM_eq_ok_iff]
  simp only [skip_eq_ok_iff, List.forall₂_and_left]
  rw [← List.forall₂_map_left_iff (f := fun item => (f item).toOption.getD default)
    (R := Eq), List.forall₂_eq_eq_eq]
  exact and_congr_right fun _ => eq_comm

/-- Only a broken span is not passed over. -/
theorem mapM_skip_eq_error_iff {α β : Type} {f : α -> Except HighlightError β} {default : β}
    {items : List α} {fault : HighlightError} :
    (items.mapM fun item => skip default (f item)) = .error fault ↔
      fault = .brokenSpan ∧ ∃ item ∈ items, f item = .error .brokenSpan := by
  constructor
  · intro fails
    rcases mapM_eq_error_iff.mp fails with ⟨before, item, after, rfl, _, faulty⟩
    rcases skip_eq_error_iff.mp faulty with ⟨rfl, broken⟩
    exact ⟨rfl, item, List.mem_append_cons_self, broken⟩
  · rintro ⟨rfl, item, listed, broken⟩
    cases outcome : items.mapM fun item => skip default (f item) with
    | ok results => exact absurd broken ((mapM_skip_eq_ok_iff.mp outcome).1 item listed)
    | error fault =>
        rcases mapM_eq_error_iff.mp outcome with ⟨_, _, _, _, _, faulty⟩
        rw [(skip_eq_error_iff.mp faulty).1]

end HighlightError

namespace Engine

variable {engine : Engine} {registry : Registry} {document : Text} {language : String}
  {languages : List String}

/-- Whether some span of a language breaks: all blocks of the language before it can be
highlighted, so nothing keeps the engine from coming to it. -/
def Breaks (engine : Engine) (registry : Registry) (document : Text) (language : String) :
    Prop :=
  engine.enabled = true ∧
    ∃ before block after, (engine.scanner language).blocks document = before ++ block :: after ∧
      (∀ earlier ∈ before, ∃ ranges, engine.highlightBlock registry document earlier = .ok ranges) ∧
      engine.highlightBlock registry document block = .error .brokenSpan

/-- The ranges that a language contributes to those of a document. -/
def contribution (engine : Engine) (registry : Registry) (document : Text)
    (language : String) : List StyleRange :=
  if engine.enabled then
    (engine.highlightLanguage registry document language).toOption.getD []
  else
    []

theorem highlightLanguage_eq_error_iff {fault : HighlightError} :
    engine.highlightLanguage registry document language = .error fault ↔
      ∃ before block after, (engine.scanner language).blocks document = before ++ block :: after ∧
        (∀ earlier ∈ before,
          ∃ ranges, engine.highlightBlock registry document earlier = .ok ranges) ∧
        engine.highlightBlock registry document block = .error fault := by
  rw [← HighlightError.mapM_eq_error_iff, highlightLanguage]
  cases ((engine.scanner language).blocks document).mapM
    (engine.highlightBlock registry document) with
  | ok parts =>
      constructor <;>
      · intro fails
        cases fails
  | error other =>
      constructor <;>
      · intro fails
        cases fails
        rfl

theorem breaks_iff : engine.Breaks registry document language ↔
    engine.enabled = true ∧
      engine.highlightLanguage registry document language = .error .brokenSpan := by
  rw [highlightLanguage_eq_error_iff]
  rfl

theorem not_breaks_of_ok {own : List StyleRange}
    (result : engine.highlightLanguage registry document language = .ok own) :
    ¬ engine.Breaks registry document language := by
  intro breaks
  have broken := (breaks_iff.mp breaks).2
  rw [result] at broken
  cases broken

theorem contribution_of_ok (enabled : engine.enabled = true) {own : List StyleRange}
    (result : engine.highlightLanguage registry document language = .ok own) :
    engine.contribution registry document language = own := by
  rw [contribution, if_pos enabled, result]
  rfl

/-- If no span breaks, the ranges of a document are those that its languages contribute,
sorted. -/
theorem highlightDocument_of_unbroken
    (unbroken : ∀ language ∈ languages, ¬ engine.Breaks registry document language) :
    engine.highlightDocument registry languages document =
      .ok (StyleRange.sort (languages.flatMap (engine.contribution registry document))) := by
  unfold highlightDocument contribution
  split
  case isTrue enabled =>
    have succeeds := (@HighlightError.mapM_skip_eq_ok_iff _ _ _ [] _ _).mpr
      ⟨fun language listed broken => unbroken language listed (breaks_iff.mpr ⟨enabled, broken⟩),
        rfl⟩
    rw [succeeds, List.flatMap_def]
    rfl
  case isFalse =>
    rw [List.flatMap_eq_nil_iff.mpr fun _ _ => rfl]
    exact congrArg Except.ok List.mergeSort_nil.symm

/-- If a span breaks, a document has no ranges. -/
theorem highlightDocument_of_breaks (listed : language ∈ languages)
    (breaks : engine.Breaks registry document language) :
    engine.highlightDocument registry languages document = .error .brokenSpan := by
  rcases breaks_iff.mp breaks with ⟨enabled, broken⟩
  have fails := (@HighlightError.mapM_skip_eq_error_iff _ _
    (engine.highlightLanguage registry document) [] _ _).mpr ⟨rfl, language, listed, broken⟩
  rw [highlightDocument, if_pos enabled, fails]
  rfl

theorem highlightDocument_eq_ok_iff {ranges : List StyleRange} :
    engine.highlightDocument registry languages document = .ok ranges ↔
      (∀ language ∈ languages, ¬ engine.Breaks registry document language) ∧
        ranges = StyleRange.sort (languages.flatMap (engine.contribution registry document)) := by
  constructor
  · intro result
    have unbroken : ∀ language ∈ languages, ¬ engine.Breaks registry document language := by
      intro language listed breaks
      rw [highlightDocument_of_breaks listed breaks] at result
      cases result
    rw [highlightDocument_of_unbroken unbroken] at result
    exact ⟨unbroken, (Except.ok.inj result).symm⟩
  · rintro ⟨unbroken, rfl⟩
    exact highlightDocument_of_unbroken unbroken

theorem highlightDocument_eq_error_iff {fault : HighlightError} :
    engine.highlightDocument registry languages document = .error fault ↔
      fault = .brokenSpan ∧
        ∃ language ∈ languages, engine.Breaks registry document language := by
  constructor
  · intro fails
    by_contra unbroken
    have faultless : ∀ language ∈ languages, ¬ engine.Breaks registry document language := by
      intro language listed breaks
      rw [highlightDocument_of_breaks listed breaks] at fails
      exact unbroken ⟨(Except.error.inj fails).symm, language, listed, breaks⟩
    rw [highlightDocument_of_unbroken faultless] at fails
    cases fails
  · rintro ⟨rfl, language, listed, breaks⟩
    exact highlightDocument_of_breaks listed breaks

/-- Either a document has ranges, or a span breaks. -/
theorem highlightDocument_cases (engine : Engine) (registry : Registry) (languages : List String)
    (document : Text) :
    (∃ ranges, engine.highlightDocument registry languages document = .ok ranges) ∨
      (engine.highlightDocument registry languages document = .error .brokenSpan ∧
        ∃ language ∈ languages, engine.Breaks registry document language) := by
  cases outcome : engine.highlightDocument registry languages document with
  | ok ranges => exact Or.inl ⟨ranges, rfl⟩
  | error fault =>
      rcases highlightDocument_eq_error_iff.mp outcome with ⟨rfl, breaks⟩
      exact Or.inr ⟨rfl, breaks⟩

/-- A language contributes nothing, or the ranges of its blocks. -/
theorem contribution_eq (engine : Engine) (registry : Registry) (document : Text)
    (language : String) :
    engine.contribution registry document language = [] ∨
      engine.highlightLanguage registry document language =
        .ok (engine.contribution registry document language) := by
  unfold contribution
  split
  · cases engine.highlightLanguage registry document language with
    | error fault => exact Or.inl rfl
    | ok own => exact Or.inr rfl
  · exact Or.inl rfl

end Engine
end FencedHighlight
