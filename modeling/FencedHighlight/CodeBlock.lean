import FencedHighlight.Text
import FencedHighlight.Unicode.CaseFolding

namespace FencedHighlight

/-!
Fenced code blocks of a document.

A block opens with a fence, a language and perhaps some modifiers, up to the
end of the line.  It closes with the next fence that directly follows a line
break; the break that ends the opening line will do, and then there is no body.
An opening without a closing opens nothing, and the search goes on one
character farther.
-/

/-- A fenced block. -/
structure CodeBlock where
  language : String
  /-- The whole block with its fences. -/
  raw : Text
  /-- Where the block begins in its document. -/
  offset : Nat
  /-- Where the body lies in the block. -/
  body : Option Span
deriving DecidableEq

namespace CodeBlock

def bodyText? (block : CodeBlock) : Option Text := do
  let span <- block.body
  Text.slice? block.raw span.start span.stop

def bodyOffset? (block : CodeBlock) : Option Nat :=
  block.body.map fun span => block.offset + span.start

def stop (block : CodeBlock) : Nat :=
  block.offset + Text.size block.raw

end CodeBlock

/-- What it takes to find the blocks of one language. -/
structure FenceScanner where
  fence : Text
  language : String
  /-- Whether fence and language may be written in either case. -/
  anyCase : Bool

namespace FenceScanner

/-- The fence of blocks, if no other one is chosen. -/
def defaultFence : String :=
  "```"

/-- Whether a character may stand between the language and the line break. -/
def isModifier (char : Char) : Bool :=
  [' ', '\t', ':', '!', '?', '.', ';', ',', '@', '%', '&', '(', ')', '{', '}',
    '[', ']', '<', '>', '*', '~'].contains char

/-- Whether a character of a document counts as one of the fence or of the
language. -/
def alike (scanner : FenceScanner) (wanted char : Char) : Bool :=
  if scanner.anyCase then Unicode.sameUpToCase wanted char else wanted == char

/-- What follows a fence or a language at the start of a text. -/
def after? (scanner : FenceScanner) : (wanted text : Text) -> Option Text
  | [], text => some text
  | _ :: _, [] => none
  | letter :: wanted, char :: text =>
      if scanner.alike letter char then scanner.after? wanted text else none

/-- What follows a line break at the start of a text. -/
def afterBreak? : Text -> Option Text
  | '\n' :: rest | '\r' :: '\n' :: rest => some rest
  | _ => none

/-- What follows the opening line of a block at the start of a text. -/
def afterOpening? (scanner : FenceScanner) (text : Text) : Option Text := do
  let rest <- scanner.after? scanner.fence text
  let rest <- scanner.after? (Text.ofString scanner.language) rest
  afterBreak? (rest.dropWhile isModifier)

/-- The body up to the first line break that a fence follows, and what comes
after that fence. -/
def close? (scanner : FenceScanner) : Text -> Option (Text × Text)
  | [] => none
  | char :: rest =>
      match (afterBreak? (char :: rest)).bind (scanner.after? scanner.fence) with
      | some after => some ([], after)
      | none => (scanner.close? rest).map fun found => (char :: found.1, found.2)

/-- The body of a block whose opening line has been passed, and what comes
after the block.  There is no body if the closing fence follows at once. -/
def body? (scanner : FenceScanner) (text : Text) : Option (Option Text × Text) :=
  match scanner.after? scanner.fence text with
  | some after => some (none, after)
  | none => (scanner.close? text).map fun found => (some found.1, found.2)

/-- Where the body lies in a block.  If there is none, the place for it is
reckoned back from the end of the block by the size of the fence, as long as
the block has that size. -/
def bodySpan (scanner : FenceScanner) (raw opening : Text) (body : Option Text) :
    Option Span :=
  match body with
  | some body =>
      let start := Text.size opening
      some ⟨start, start + Text.size body⟩
  | none =>
      let fenceSize := Text.size scanner.fence
      if fenceSize ≤ Text.size raw then
        some ⟨Text.size raw - fenceSize, Text.size raw - fenceSize⟩
      else
        none

/-- The block at the start of a text that begins `offset` bytes into the
document, and what comes after the block. -/
def blockAt? (scanner : FenceScanner) (offset : Nat) (text : Text) :
    Option (CodeBlock × Text) := do
  let inner <- scanner.afterOpening? text
  let (body, after) <- scanner.body? inner
  let raw := text.take (text.length - after.length)
  let opening := text.take (text.length - inner.length)
  return ({ language := scanner.language, raw, offset,
            body := scanner.bodySpan raw opening body }, after)

/-- What follows a fence or a language ends the text. -/
theorem suffix_after? {scanner : FenceScanner} {wanted text rest : Text}
    (found : scanner.after? wanted text = some rest) : rest <:+ text := by
  fun_induction after? scanner wanted text with
  | case1 text =>
      cases found
      exact List.suffix_refl rest
  | case2 => cases found
  | case3 letter wanted char text _ ih => exact (ih found).trans (List.suffix_cons char text)
  | case4 => cases found

theorem suffix_afterBreak? {text rest : Text} (found : afterBreak? text = some rest) :
    rest <:+ text := by
  unfold afterBreak? at found
  split at found
  · rw [Option.some.inj found]
    exact List.suffix_cons _ _
  · rw [Option.some.inj found]
    exact (List.suffix_cons _ _).trans (List.suffix_cons _ _)
  · cases found

theorem length_afterBreak? {text rest : Text} (found : afterBreak? text = some rest) :
    rest.length < text.length := by
  unfold afterBreak? at found
  split at found
  · rw [Option.some.inj found, List.length_cons]
    exact Nat.lt_succ_self _
  · rw [Option.some.inj found, List.length_cons, List.length_cons]
    omega
  · cases found

/-- The parts of an opening line, one after the other. -/
theorem parts_of_afterOpening? {scanner : FenceScanner} {text rest : Text}
    (found : scanner.afterOpening? text = some rest) :
    ∃ lineEnd, lineEnd <:+ text ∧ afterBreak? lineEnd = some rest := by
  simp only [afterOpening?, Option.bind_eq_bind, Option.bind_eq_some_iff] at found
  rcases found with ⟨afterFence, fence, afterLanguage, language, ended⟩
  have toLanguage := (suffix_after? language).trans (suffix_after? fence)
  exact ⟨_, (List.dropWhile_suffix isModifier).trans toLanguage, ended⟩

theorem suffix_afterOpening? {scanner : FenceScanner} {text rest : Text}
    (found : scanner.afterOpening? text = some rest) : rest <:+ text := by
  rcases parts_of_afterOpening? found with ⟨lineEnd, suffix, ended⟩
  exact (suffix_afterBreak? ended).trans suffix

theorem length_afterOpening? {scanner : FenceScanner} {text rest : Text}
    (found : scanner.afterOpening? text = some rest) : rest.length < text.length := by
  rcases parts_of_afterOpening? found with ⟨lineEnd, suffix, ended⟩
  exact Nat.lt_of_lt_of_le (length_afterBreak? ended) suffix.length_le

theorem suffix_close? {scanner : FenceScanner} {text body rest : Text}
    (found : scanner.close? text = some (body, rest)) : rest <:+ text := by
  induction text generalizing body rest with
  | nil => cases found
  | cons char text ih =>
      simp only [close?] at found
      split at found
      · rename_i after closed
        rcases Option.bind_eq_some_iff.mp closed with ⟨inner, lineEnd, fence⟩
        rw [← (Prod.mk.inj (Option.some.inj found)).2]
        exact (suffix_after? fence).trans (suffix_afterBreak? lineEnd)
      · rcases Option.map_eq_some_iff.mp found with ⟨⟨inner, after⟩, later, same⟩
        rw [← (Prod.mk.inj same).2]
        exact (ih later).trans (List.suffix_cons char text)

theorem suffix_body? {scanner : FenceScanner} {text rest : Text} {body : Option Text}
    (found : scanner.body? text = some (body, rest)) : rest <:+ text := by
  unfold body? at found
  split at found
  · rename_i after fence
    rw [← (Prod.mk.inj (Option.some.inj found)).2]
    exact suffix_after? fence
  · rcases Option.map_eq_some_iff.mp found with ⟨⟨inner, after⟩, closed, same⟩
    rw [← (Prod.mk.inj same).2]
    exact suffix_close? closed

/-- A block and what comes after it make up the text. -/
theorem parts_of_blockAt? {scanner : FenceScanner} {offset : Nat} {text rest : Text}
    {block : CodeBlock} (found : scanner.blockAt? offset text = some (block, rest)) :
    block.raw ++ rest = text ∧ block.offset = offset ∧
      rest.length < text.length := by
  simp only [blockAt?, Option.bind_eq_bind, Option.bind_eq_some_iff] at found
  rcases found with ⟨inner, opened, ⟨body, after⟩, closed, same⟩
  rcases Prod.mk.inj (Option.some.inj same) with ⟨blockEq, restEq⟩
  subst blockEq restEq
  have closing := suffix_body? closed
  have shorter := Nat.lt_of_le_of_lt closing.length_le (length_afterOpening? opened)
  have suffix := closing.trans (suffix_afterOpening? opened)
  exact ⟨List.suffix_iff_eq_append.mp suffix, rfl, shorter⟩

theorem length_blockAt? {scanner : FenceScanner} {offset : Nat} {text rest : Text}
    {block : CodeBlock} (found : scanner.blockAt? offset text = some (block, rest)) :
    rest.length < text.length :=
  (parts_of_blockAt? found).2.2

/-- The blocks of a text that begins `offset` bytes into the document. -/
def blocksFrom (scanner : FenceScanner) (offset : Nat) (text : Text) : List CodeBlock :=
  match _found : scanner.blockAt? offset text with
  | some (block, rest) => block :: scanner.blocksFrom block.stop rest
  | none =>
      match text with
      | [] => []
      | char :: rest => scanner.blocksFrom (offset + char.utf8Size) rest
termination_by text.length
decreasing_by
  · exact length_blockAt? _found
  · simp

def blocks (scanner : FenceScanner) (document : Text) : List CodeBlock :=
  scanner.blocksFrom 0 document

end FenceScanner

end FencedHighlight
