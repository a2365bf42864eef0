import Mathlib.Data.List.Basic
import FencedHighlight.Proofs.CodeBlock.Body

namespace FencedHighlight
namespace FenceScanner

/-!
Blocks and the lines of their document.

The opening of a block takes up the rest of a line, and its closing fence stands at the
beginning of a later one.  An opening line is closed as soon as a fence stands at the
beginning of any line behind it, so whether a block begins somewhere depends on little more
than its first line.
-/

variable {scanner : FenceScanner} {text rest inner opening word spelled after : Text}
  {written : Option Text} {offset : Nat} {block : CodeBlock}

/-! ## Lines -/

/-- Texts with the same first line have the same other lines. -/
theorem line_inj {line line' rest rest' : Text} (plain : '\n' ∉ line) (plain' : '\n' ∉ line')
    (same : line ++ '\n' :: rest = line' ++ '\n' :: rest') : line = line' ∧ rest = rest' := by
  induction line generalizing line' with
  | nil =>
      cases line' with
      | nil => exact ⟨rfl, (List.cons.inj same).2⟩
      | cons char line' => exact absurd ((List.cons.inj same).1 ▸ List.mem_cons_self) plain'
  | cons char line ih =>
      cases line' with
      | nil => exact absurd ((List.cons.inj same).1 ▸ List.mem_cons_self) plain
      | cons char' line' =>
          rcases List.cons.inj same with ⟨rfl, others⟩
          rcases ih (fun member => plain (List.mem_cons_of_mem _ member))
            (fun member => plain' (List.mem_cons_of_mem _ member)) others with ⟨rfl, rests⟩
          exact ⟨rfl, rests⟩

theorem exists_line_of_isBreak {lineBreak : Text} (breaks : IsBreak lineBreak) :
    ∃ line, lineBreak = line ++ ['\n'] ∧ '\n' ∉ line := by
  cases breaks with
  | lineFeed => exact ⟨[], rfl, List.not_mem_nil⟩
  | carriageReturn => exact ⟨['\r'], rfl, by decide⟩

/-! ## Spellings -/

/-- A character without variants is only spelled by itself. -/
theorem not_mem_of_spells {char : Char} (caseless : Unicode.IsCaseless char)
    (spells : scanner.Spells word spelled) (absent : char ∉ word) : char ∉ spelled := by
  induction spells with
  | nil => exact List.not_mem_nil
  | @cons letter spelled' word spelled fits _ ih =>
      rw [List.mem_cons, not_or] at absent ⊢
      refine ⟨?_, ih absent.2⟩
      rintro rfl
      apply absent.1
      unfold alike at fits
      split at fits
      · exact (caseless letter (Unicode.sameUpToCase_comm letter char ▸ fits)).symm
      · exact (beq_iff_eq.mp fits).symm

theorem isCaseless_lineFeed : Unicode.IsCaseless '\n' :=
  Unicode.isCaseless_of_standsAlone (by decide +kernel)

/-! ## Opening lines -/

/-- A scanner whose opening lines are single lines. -/
structure OpensOnOneLine (scanner : FenceScanner) : Prop where
  fence : '\n' ∉ scanner.fence
  language : '\n' ∉ Text.ofString scanner.language

/-- An opening line is told from its own text, whatever comes after it. -/
theorem afterOpening?_eq_some_iff_openingLine :
    scanner.afterOpening? text = some inner ↔
      ∃ opening, text = opening ++ inner ∧ scanner.OpeningLine opening := by
  refine ⟨openingLine_of_afterOpening?, ?_⟩
  rintro ⟨_, rfl, @⟨fence, language, modifiers, lineBreak, opens, names, marks, breaks⟩⟩
  have lineEnd : (modifiers ++ (lineBreak ++ inner)).dropWhile isModifier = lineBreak ++ inner := by
    rw [List.dropWhile_append_of_pos marks]
    cases breaks <;> rfl
  simp only [List.append_assoc, afterOpening?, Option.bind_eq_bind, Option.bind_eq_some_iff]
  refine ⟨_, (after?_eq_some_iff).mpr ⟨fence, rfl, opens⟩, _,
    (after?_eq_some_iff).mpr ⟨language, rfl, names⟩, ?_⟩
  rw [lineEnd]
  exact (afterBreak?_eq_some_iff).mpr ⟨lineBreak, breaks, rfl⟩

theorem OpeningLine.exists_line (single : scanner.OpensOnOneLine)
    (opens : scanner.OpeningLine opening) : ∃ line, opening = line ++ ['\n'] ∧ '\n' ∉ line := by
  rcases opens with @⟨fence, language, modifiers, lineBreak, opens, names, marks, breaks⟩
  rcases exists_line_of_isBreak breaks with ⟨line, rfl, plain⟩
  refine ⟨fence ++ (language ++ (modifiers ++ line)), by simp only [List.append_assoc], ?_⟩
  have unmarked : '\n' ∉ modifiers := fun member => absurd (marks _ member) (by decide)
  simp only [List.mem_append, not_or]
  exact ⟨not_mem_of_spells isCaseless_lineFeed opens single.fence,
    not_mem_of_spells isCaseless_lineFeed names single.language, unmarked, plain⟩

/-! ## Fences at the beginning of lines -/

/-- What follows a fence at the beginning of a line, with the line break before it. -/
def afterLineFence? (scanner : FenceScanner) (text : Text) : Option Text :=
  (afterBreak? text).bind (scanner.after? scanner.fence)

/-- A line break that begins a text ends its first line. -/
theorem eq_of_afterBreak? {line : Text} (plain : '\n' ∉ line)
    (ended : afterBreak? (line ++ '\n' :: rest) = some after) : after = rest := by
  rcases (afterBreak?_eq_some_iff).mp ended with ⟨lineBreak, breaks, split⟩
  rcases exists_line_of_isBreak breaks with ⟨others, rfl, plain'⟩
  rw [List.append_assoc, List.singleton_append] at split
  exact (line_inj plain plain' split).2.symm

/-- A fence at the beginning of some line stands at the beginning of the second one, or of one
behind that. -/
theorem lineFence_of_suffix {line stop : Text} (plain : '\n' ∉ line)
    (fenced : (scanner.afterLineFence? stop).isSome) (suffix : stop <:+ line ++ '\n' :: rest) :
    (scanner.after? scanner.fence rest).isSome ∨ stop <:+ rest := by
  induction line with
  | nil =>
      rcases List.suffix_cons_iff.mp suffix with rfl | later
      · exact Or.inl fenced
      · exact Or.inr later
  | cons char line ih =>
      rw [List.cons_append] at suffix
      rcases List.suffix_cons_iff.mp suffix with same | later
      · rcases Option.isSome_iff_exists.mp fenced with ⟨found, reached⟩
        rcases Option.bind_eq_some_iff.mp reached with ⟨after, ended, fence⟩
        rw [same, ← List.cons_append] at ended
        rw [eq_of_afterBreak? plain ended] at fence
        exact Or.inl (Option.isSome_of_eq_some fence)
      · exact ih (fun member => plain (List.mem_cons_of_mem _ member)) later

/-- A body is closed at once, or at the beginning of a later line. -/
theorem body?_isSome_iff :
    (scanner.body? inner).isSome ↔ (scanner.after? scanner.fence inner).isSome ∨
      ∃ stop, stop <:+ inner ∧ (scanner.afterLineFence? stop).isSome := by
  unfold body?
  cases scanner.after? scanner.fence inner with
  | some after => simp
  | none =>
      rw [Option.isSome_map, close?_eq_first?, ← Option.ne_none_iff_isSome, ne_eq,
        Text.first?_eq_none_iff]
      simp only [Option.isSome_none, Bool.false_eq_true, false_or, not_forall,
        ← Option.ne_none_iff_isSome, afterLineFence?]
      constructor
      · rintro ⟨head, stop, split, fenced⟩
        exact ⟨stop, ⟨head, split.symm⟩, fenced⟩
      · rintro ⟨stop, ⟨head, split⟩, fenced⟩
        exact ⟨head, stop, split.symm, fenced⟩

/-- A block begins where an opening line does, if a fence stands at the beginning of any line
behind that one. -/
theorem blockAt?_isSome_iff (single : scanner.OpensOnOneLine) :
    (scanner.blockAt? offset text).isSome ↔ (scanner.afterOpening? text).isSome ∧
      ∃ stop, stop <:+ text ∧ (scanner.afterLineFence? stop).isSome := by
  cases opened : scanner.afterOpening? text with
  | none => simp [blockAt?, opened]
  | some inner =>
      have here : (scanner.blockAt? offset text).isSome = (scanner.body? inner).isSome := by
        rw [blockAt?, opened]
        cases closed : scanner.body? inner <;> simp [closed]
      rcases (afterOpening?_eq_some_iff_openingLine).mp opened with ⟨opening, rfl, opens⟩
      rcases opens.exists_line single with ⟨line, rfl, plain⟩
      rw [here, body?_isSome_iff, List.append_assoc, List.singleton_append]
      simp only [Option.isSome_some, true_and]
      constructor
      · rintro (atOnce | ⟨stop, suffix, fenced⟩)
        · exact ⟨'\n' :: inner, List.suffix_append _ _, atOnce⟩
        · exact ⟨stop, suffix.trans ((List.suffix_cons _ _).trans (List.suffix_append _ _)), fenced⟩
      · rintro ⟨stop, suffix, fenced⟩
        rcases lineFence_of_suffix plain fenced suffix with atOnce | later
        · exact Or.inl atOnce
        · exact Or.inr ⟨stop, later, fenced⟩

end FenceScanner
end FencedHighlight
