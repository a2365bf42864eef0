import FencedHighlight.Proofs.CodeBlock.Parse
import FencedHighlight.Proofs.Text.First

namespace FencedHighlight
namespace FenceScanner

/-!
Blocks as matches of a pattern.

A block is what the pattern `fence language modifiers* \r?\n (?:(.*?)\r?\n)?? fence` matches,
where `.` is any character.  A pattern may match a text in many ways, and it has an order
of preference among them: a greedy part would rather take more, a lazy one would rather
take less.  Of all the ways only the first one counts, so what a scan without
backtracking finds has to come before every alternative.
-/

variable {scanner : FenceScanner} {text rest inner after : Text} {offset : Nat}

/-! ## Patterns and their preferences -/

/-- The parts that make up the pattern of a block. -/
inductive Shape where
  | empty
  | single (accepts : Char -> Bool)
  | sequence (first second : Shape)
  | optional (lazily : Bool) (inner : Shape)
  | many (lazily : Bool) (accepts : Char -> Bool)
  | group (inner : Shape)

/-- A way to match at the start of a text: what it leaves, and what was left where the
group began and where it ended. -/
structure Way where
  rest : Text
  group : Option (Text × Text) := none

namespace Shape

/-- What is left by the runs of characters at the start of a text, in order of
preference. -/
def runs (lazily : Bool) (accepts : Char -> Bool) : Text -> List Text
  | [] => [[]]
  | char :: rest =>
      if accepts char then
        if lazily then (char :: rest) :: runs lazily accepts rest
        else runs lazily accepts rest ++ [char :: rest]
      else [char :: rest]

/-- All ways to match at the start of a text, in order of preference. -/
def ways : Shape -> Text -> List Way
  | empty, text => [{ rest := text }]
  | single accepts, text =>
      text.head?.toList.flatMap fun char => if accepts char then [{ rest := text.tail }] else []
  | sequence first second, text =>
      (first.ways text).flatMap fun before =>
        (second.ways before.rest).map fun way =>
          { rest := way.rest, group := way.group.or before.group }
  | optional lazily inner, text =>
      if lazily then { rest := text } :: inner.ways text
      else inner.ways text ++ [{ rest := text }]
  | many lazily accepts, text => (runs lazily accepts text).map fun rest => { rest }
  | group inner, text =>
      (inner.ways text).map fun way => { rest := way.rest, group := some (text, way.rest) }

end Shape

/-- The pattern for a text that stands for itself. -/
def wordShape (scanner : FenceScanner) (word : Text) : Shape :=
  word.foldr (fun letter shape => .sequence (.single (scanner.alike letter)) shape) .empty

def breakShape : Shape :=
  .sequence (.optional false (.single (· == '\r'))) (.single (· == '\n'))

/-- The pattern for what follows an opening line. -/
def closingShape (scanner : FenceScanner) : Shape :=
  .sequence (.optional true (.sequence (.group (.many true fun _ => true)) breakShape))
    (scanner.wordShape scanner.fence)

/-- The pattern of a block. -/
def blockShape (scanner : FenceScanner) : Shape :=
  .sequence (scanner.wordShape scanner.fence)
    (.sequence (scanner.wordShape (Text.ofString scanner.language))
      (.sequence (.many false isModifier) (.sequence breakShape scanner.closingShape)))

/-- Where the body lies in a match: where the group does, or else as many bytes before the
end as the fence takes. -/
def groupSpan (scanner : FenceScanner) (text raw : Text) : Option (Text × Text) -> Option Span
  | some (start, stop) => some ⟨Text.size text - Text.size start, Text.size text - Text.size stop⟩
  | none =>
      if Text.size scanner.fence ≤ Text.size raw then
        some ⟨Text.size raw - Text.size scanner.fence, Text.size raw - Text.size scanner.fence⟩
      else none

/-- Whether a block is the preferred match of the pattern at the start of a text. -/
def Prefers (scanner : FenceScanner) (offset : Nat) (text : Text) (block : CodeBlock)
    (after : Text) : Prop :=
  ∃ group raw, (scanner.blockShape.ways text).head? = some ⟨after, group⟩ ∧
    text = raw ++ after ∧
    block = { language := scanner.language, raw, offset, body := scanner.groupSpan text raw group }

/-! ## The preferred match -/

namespace Shape

/-- Where a part matches in one way at most, the rest decides. -/
theorem ways_sequence {first second : Shape} {found : Option Text}
    (only : first.ways text = found.toList.map fun rest => { rest }) :
    (sequence first second).ways text = found.toList.flatMap second.ways := by
  rw [ways, only]
  cases found with
  | none => rfl
  | some rest => simp

end Shape

theorem wordShape_cons (letter : Char) (word : Text) :
    scanner.wordShape (letter :: word) =
      .sequence (.single (scanner.alike letter)) (scanner.wordShape word) :=
  rfl

theorem ways_wordShape (word text : Text) :
    (scanner.wordShape word).ways text = (scanner.after? word text).toList.map fun rest =>
      { rest } := by
  induction word generalizing text with
  | nil => rfl
  | cons letter word ih =>
      cases text with
      | nil => rfl
      | cons char text =>
          rw [wordShape_cons, after?]
          by_cases fits : scanner.alike letter char = true
          · have only : (Shape.single (scanner.alike letter)).ways (char :: text) =
                (some text).toList.map fun rest => { rest } := by
              simp [Shape.ways, fits]
            rw [Shape.ways_sequence only, if_pos fits, ← ih text]
            exact List.flatMap_singleton ..
          · have only : (Shape.single (scanner.alike letter)).ways (char :: text) =
                (none : Option Text).toList.map fun rest => { rest } := by
              simp [Shape.ways, fits]
            rw [Shape.ways_sequence only, if_neg fits]
            rfl

theorem ways_breakShape (text : Text) :
    breakShape.ways text = (afterBreak? text).toList.map fun rest => { rest } := by
  cases text with
  | nil => rfl
  | cons char rest =>
      by_cases returns : char = '\r'
      · subst returns
        cases rest with
        | nil => rfl
        | cons next rest =>
            by_cases feeds : next = '\n'
            · subst feeds
              rfl
            · simp [breakShape, Shape.ways, afterBreak?, feeds]
      · by_cases feeds : char = '\n'
        · subst feeds
          rfl
        · simp [breakShape, Shape.ways, afterBreak?, returns, feeds]

/-- After a shorter run of modifiers comes a modifier, and not the line break. -/
theorem flatMap_runs {β : Type} {continued : Text -> List β}
    (stuck : ∀ char rest, isModifier char = true -> continued (char :: rest) = []) :
    (Shape.runs false isModifier text).flatMap continued =
      continued (text.dropWhile isModifier) := by
  induction text with
  | nil => exact List.flatMap_singleton ..
  | cons char rest ih =>
      by_cases modifies : isModifier char = true
      · simp [Shape.runs, modifies, List.flatMap_append, ih, stuck]
      · simp [Shape.runs, modifies]

theorem afterBreak?_modifier {char : Char} (modifies : isModifier char = true) :
    afterBreak? (char :: rest) = none := by
  unfold afterBreak?
  split
  · rename_i same
    rw [(List.cons.inj same).1] at modifies
    cases modifies
  · rename_i same
    rw [(List.cons.inj same).1] at modifies
    cases modifies
  · rfl

/-- There is one way at most to match the opening line. -/
theorem ways_blockShape (text : Text) :
    scanner.blockShape.ways text =
      (scanner.afterOpening? text).toList.flatMap scanner.closingShape.ways := by
  have lineEnd (rest : Text) : (Shape.sequence breakShape scanner.closingShape).ways rest =
      (afterBreak? rest).toList.flatMap scanner.closingShape.ways :=
    Shape.ways_sequence (ways_breakShape rest)
  have modifiers (rest : Text) : (Shape.sequence (.many false isModifier)
      (.sequence breakShape scanner.closingShape)).ways rest =
        (afterBreak? (rest.dropWhile isModifier)).toList.flatMap scanner.closingShape.ways := by
    have passed := @flatMap_runs rest _ (Shape.sequence breakShape scanner.closingShape).ways
      fun char rest modifies => by rw [lineEnd, afterBreak?_modifier modifies]; rfl
    rw [← lineEnd, ← passed]
    simp [Shape.ways, List.flatMap_map]
  rw [blockShape, Shape.ways_sequence (ways_wordShape scanner.fence text), afterOpening?]
  cases fence : scanner.after? scanner.fence text with
  | none => rfl
  | some rest =>
      simp only [Option.toList_some, List.flatMap_cons, List.flatMap_nil, List.append_nil,
        Option.bind_eq_bind, Option.bind_some]
      rw [Shape.ways_sequence (ways_wordShape _ rest)]
      cases language : scanner.after? (Text.ofString scanner.language) rest with
      | none => rfl
      | some rest =>
          simp only [Option.toList_some, List.flatMap_cons, List.flatMap_nil, List.append_nil,
            Option.bind_some, modifiers]

theorem close?_eq_first? (text : Text) :
    scanner.close? text =
      Text.first? (fun text => (afterBreak? text).bind (scanner.after? scanner.fence)) text := by
  induction text with
  | nil => rfl
  | cons char rest ih =>
      rw [close?]
      split
      · rename_i after found
        exact (Text.first?_of_found found).symm
      · rename_i missing
        rw [Text.first?_of_missing missing, ih]

/-- The fence closes a body at once, or after the first line break that it follows. -/
theorem body?_cases {body : Option Text} (closed : scanner.body? inner = some (body, after)) :
    (body = none ∧ scanner.after? scanner.fence inner = some after) ∨
      ∃ written stop, body = some written ∧ scanner.after? scanner.fence inner = none ∧
        Text.IsFirst (fun text => (afterBreak? text).bind (scanner.after? scanner.fence)) inner
          written stop after := by
  unfold body? at closed
  split at closed
  · rename_i rest atOnce
    rcases Prod.mk.inj (Option.some.inj closed) with ⟨rfl, rfl⟩
    exact Or.inl ⟨rfl, atOnce⟩
  · rename_i missing
    rcases Option.map_eq_some_iff.mp closed with ⟨⟨written, rest⟩, later, same⟩
    rcases Prod.mk.inj same with ⟨rfl, rfl⟩
    rw [close?_eq_first?] at later
    rcases (Text.first?_eq_some_iff).mp later with ⟨stop, first⟩
    exact Or.inr ⟨written, stop, rfl, missing, first⟩

/-- A longer body comes after every shorter one, so the first line break before a fence
ends the body. -/
theorem findSome?_runs (start text : Text) :
    (Shape.runs true (fun _ => true) text).findSome? (fun stop =>
        ((afterBreak? stop).bind (scanner.after? scanner.fence)).map fun after =>
          ({ rest := after, group := some (start, stop) } : Way)) =
      (scanner.close? text).map fun found =>
        { rest := found.2, group := some (start, text.drop found.1.length) } := by
  induction text with
  | nil => rfl
  | cons char text ih =>
      rw [Shape.runs, if_pos rfl, if_pos rfl, List.findSome?_cons]
      rw [close?]
      cases (afterBreak? (char :: text)).bind (scanner.after? scanner.fence) with
      | some after => rfl
      | none =>
          simp only [Option.map_none, ih, Option.map_map]
          rfl

/-- The ways to go on from one with the fence. -/
def fenced (scanner : FenceScanner) (before : Way) : List Way :=
  (scanner.after? scanner.fence before.rest).toList.map fun rest => { rest, group := before.group }

theorem head?_fenced (before : Way) :
    (scanner.fenced before).head? =
      (scanner.after? scanner.fence before.rest).map fun rest =>
        { rest, group := before.group } := by
  unfold fenced
  cases scanner.after? scanner.fence before.rest <;> rfl

/-- The ways to close a body that ends before a line break. -/
theorem head?_flatMap_fenced (start stop : Text) :
    (((afterBreak? stop).toList.map fun rest =>
        ({ rest, group := some (start, stop) } : Way)).flatMap scanner.fenced).head? =
      ((afterBreak? stop).bind (scanner.after? scanner.fence)).map fun after =>
        { rest := after, group := some (start, stop) } := by
  cases afterBreak? stop with
  | none => rfl
  | some rest =>
      simp only [Option.toList_some, List.map_cons, List.map_nil, List.flatMap_cons,
        List.flatMap_nil, List.append_nil, head?_fenced, Option.bind_some]

theorem ways_closingShape (inner : Text) :
    scanner.closingShape.ways inner = scanner.fenced { rest := inner } ++
      (Shape.runs true (fun _ => true) inner).flatMap fun stop =>
        ((afterBreak? stop).toList.map fun rest =>
          ({ rest, group := some (inner, stop) } : Way)).flatMap scanner.fenced := by
  unfold fenced
  simp only [closingShape, Shape.ways, ways_wordShape, ways_breakShape]
  simp [List.flatMap_map, List.flatMap_assoc, Function.comp_def]

/-- After the opening line, to close at once is preferred. -/
theorem head?_ways_closingShape (inner : Text) :
    (scanner.closingShape.ways inner).head? =
      (scanner.body? inner).map fun found =>
        { rest := found.2, group := found.1.map fun body => (inner, inner.drop body.length) } := by
  rw [ways_closingShape, List.head?_append, List.head?_flatMap, head?_fenced]
  simp only [head?_flatMap_fenced, findSome?_runs]
  rw [body?]
  cases scanner.after? scanner.fence inner with
  | some after => rfl
  | none =>
      simp only [Option.map_none, Option.none_or, Option.map_map]
      rfl

theorem head?_ways_blockShape (text : Text) :
    (scanner.blockShape.ways text).head? =
      (scanner.afterOpening? text).bind fun inner =>
        (scanner.body? inner).map fun found =>
          { rest := found.2, group := found.1.map fun body => (inner, inner.drop body.length) } := by
  rw [ways_blockShape]
  cases scanner.afterOpening? text with
  | none => rfl
  | some inner =>
      simp only [Option.toList_some, List.flatMap_cons, List.flatMap_nil, List.append_nil,
        Option.bind_some, head?_ways_closingShape]

/-- The group lies where the scanner reckons the body to be. -/
theorem groupSpan_eq {opening raw : Text} {body : Option Text}
    (closed : scanner.body? inner = some (body, after)) :
    scanner.groupSpan (opening ++ inner) raw
        (body.map fun body => (inner, inner.drop body.length)) =
      scanner.bodySpan raw opening body := by
  rcases body?_cases closed with ⟨rfl, _⟩ | ⟨written, stop, rfl, _, first⟩
  · rfl
  · rw [first.split, Option.map_some, List.drop_left, groupSpan, bodySpan]
    simp only [Text.size_append, Option.some.injEq, Span.mk.injEq]
    omega

/-- What the scanner takes for a block is the preferred match of the pattern. -/
theorem blockAt?_eq_some_iff_prefers {block : CodeBlock} :
    scanner.blockAt? offset text = some (block, after) ↔
      scanner.Prefers offset text block after := by
  rw [blockAt?_eq_some_iff_parts, Prefers, head?_ways_blockShape]
  simp only [Option.bind_eq_some_iff, Option.map_eq_some_iff, Prod.exists, Way.mk.injEq]
  constructor
  · rintro ⟨opening, inner, body, raw, rfl, whole, opened, closed, rfl⟩
    refine ⟨body.map fun body => (inner, inner.drop body.length), raw,
      ⟨inner, opened, body, after, closed, rfl, rfl⟩, whole, ?_⟩
    rw [groupSpan_eq closed]
  · rintro ⟨_, raw, ⟨inner, opened, body, rest, closed, rfl, rfl⟩, whole, rfl⟩
    rcases suffix_afterOpening? opened with ⟨opening, rfl⟩
    refine ⟨opening, inner, body, raw, rfl, whole, opened, closed, ?_⟩
    rw [groupSpan_eq closed]

end FenceScanner
end FencedHighlight
