import FencedHighlight.Proofs.CodeBlock.Placement

namespace FencedHighlight
namespace FenceScanner

/-!
The blocks of a document, one after the other.

Whatever it means for a text to begin with a block, the blocks of a document are found
by going to the first place where one begins, and on from its end.  That settles which
blocks there are, so a scan that tries every place yields exactly them.
-/

variable {scanner : FenceScanner} {text skipped rest : Text} {offset : Nat} {block : CodeBlock}
  {blocks : List CodeBlock}

/-- What it is to find blocks one after the other, each at the first place behind the end
of the one before it where a block can be read. -/
inductive Parse (reads : Nat -> Text -> CodeBlock -> Text -> Prop) :
    (offset : Nat) -> Text -> List CodeBlock -> Prop where
  | done {offset : Nat} {text : Text}
      (missing : ∀ head tail block after, text = head ++ tail ->
        ¬ reads (offset + Text.size head) tail block after) :
      Parse reads offset text []
  | block {offset : Nat} {skipped rest after : Text} {block : CodeBlock} {blocks : List CodeBlock}
      (found : reads (offset + Text.size skipped) rest block after)
      (least : ∀ head tail other after, skipped ++ rest = head ++ tail ->
        Text.size head < Text.size skipped ->
        ¬ reads (offset + Text.size head) tail other after)
      (later : Parse reads block.stop after blocks) :
      Parse reads offset (skipped ++ rest) (block :: blocks)

/-! ## The scan -/

/-- The text that comes before what is left of a text. -/
theorem take_append_left (first rest : Text) :
    (first ++ rest).take ((first ++ rest).length - rest.length) = first := by
  rw [List.length_append, Nat.add_sub_cancel, List.take_left]

/-- A block by the text of its opening line, by its body and by its whole text. -/
theorem blockAt?_eq_some_iff_parts {after : Text} :
    scanner.blockAt? offset text = some (block, after) ↔
      ∃ opening inner body raw, text = opening ++ inner ∧ text = raw ++ after ∧
        scanner.afterOpening? text = some inner ∧ scanner.body? inner = some (body, after) ∧
        block = { language := scanner.language, raw, offset,
                  body := scanner.bodySpan raw opening body } := by
  simp only [blockAt?, Option.bind_eq_bind, Option.bind_eq_some_iff]
  constructor
  · rintro ⟨inner, opened, ⟨body, rest⟩, closed, same⟩
    rcases Prod.mk.inj (Option.some.inj same) with ⟨rfl, rfl⟩
    have remains := (suffix_body? closed).trans (suffix_afterOpening? opened)
    rcases suffix_afterOpening? opened with ⟨opening, whole⟩
    rcases remains with ⟨raw, whole'⟩
    refine ⟨opening, inner, body, raw, whole.symm, whole'.symm, opened, closed, ?_⟩
    have first := take_append_left opening inner
    have block := take_append_left raw rest
    rw [whole] at first
    rw [whole'] at block
    simp only [first, block]
  · rintro ⟨opening, inner, body, raw, whole, whole', opened, closed, rfl⟩
    refine ⟨inner, opened, (body, after), closed, ?_⟩
    have first := take_append_left opening inner
    have block := take_append_left raw after
    rw [← whole] at first
    rw [← whole'] at block
    simp only [first, block]
    rfl

theorem blocksFrom_of_found (found : scanner.blockAt? offset text = some (block, rest)) :
    scanner.blocksFrom offset text = block :: scanner.blocksFrom block.stop rest := by
  rw [blocksFrom]
  split
  · rename_i other behind other'
    rcases Prod.mk.inj (Option.some.inj (found.symm.trans other')) with ⟨rfl, rfl⟩
    rfl
  · rename_i missing
    rw [found] at missing
    cases missing

theorem blocksFrom_of_missing {char : Char}
    (missing : scanner.blockAt? offset (char :: rest) = none) :
    scanner.blocksFrom offset (char :: rest) =
      scanner.blocksFrom (offset + char.utf8Size) rest := by
  rw [blocksFrom]
  split
  · rename_i found
    rw [missing] at found
    cases found
  · rfl

theorem blocksFrom_nil (missing : scanner.blockAt? offset [] = none) :
    scanner.blocksFrom offset [] = [] := by
  rw [blocksFrom]
  split
  · rename_i found
    rw [missing] at found
    cases found
  · rfl

/-- Every block that a scan finds is read where it lies. -/
theorem exists_place_of_mem (member : block ∈ scanner.blocksFrom offset text) :
    ∃ before rest after, text = before ++ rest ∧ block.offset = offset + Text.size before ∧
      scanner.blockAt? block.offset rest = some (block, after) := by
  fun_induction blocksFrom scanner offset text with
  | case1 offset text first rest found ih =>
      rcases parts_of_blockAt? found with ⟨whole, starts, _⟩
      rcases List.mem_cons.mp member with rfl | later
      · exact ⟨[], text, rest, rfl, starts, starts.symm ▸ found⟩
      · rcases ih later with ⟨before, place, after, split, offset', read⟩
        refine ⟨first.raw ++ before, place, after, ?_, ?_, read⟩
        · rw [← whole, split, List.append_assoc]
        · rw [offset', CodeBlock.stop, starts, Text.size_append, Nat.add_assoc]
  | case2 => cases member
  | case3 offset char rest missing ih =>
      rcases ih member with ⟨before, place, after, split, offset', read⟩
      refine ⟨char :: before, place, after, by rw [split]; rfl, ?_, read⟩
      rw [offset', Text.size_cons, Nat.add_assoc]

theorem exists_blockAt?_of_mem (member : block ∈ scanner.blocksFrom offset text) :
    ∃ start place after, scanner.blockAt? start place = some (block, after) := by
  rcases exists_place_of_mem member with ⟨_, place, after, _, _, read⟩
  exact ⟨block.offset, place, after, read⟩

/-- No block is empty. -/
theorem offset_lt_stop_of_mem (member : block ∈ scanner.blocksFrom offset text) :
    block.offset < block.stop := by
  rcases exists_place_of_mem member with ⟨_, place, after, _, _, read⟩
  rcases parts_of_blockAt? read with ⟨whole, _, shorter⟩
  refine Nat.lt_add_of_pos_right ((Text.size_pos_iff block.raw).mpr ?_)
  rintro nothing
  rw [← whole, nothing] at shorter
  exact absurd shorter (Nat.lt_irrefl _)

/-- Places where no block begins are passed over. -/
theorem blocksFrom_append
    (missing : ∀ head tail, skipped = head ++ tail -> tail ≠ [] ->
      scanner.blockAt? (offset + Text.size head) (tail ++ rest) = none) :
    scanner.blocksFrom offset (skipped ++ rest) =
      scanner.blocksFrom (offset + Text.size skipped) rest := by
  induction skipped generalizing offset with
  | nil => rfl
  | cons char skipped ih =>
      have here : scanner.blockAt? offset (char :: (skipped ++ rest)) = none :=
        missing [] (char :: skipped) rfl (List.cons_ne_nil char skipped)
      have later := @ih (offset + char.utf8Size) fun head tail split present => by
        have there := missing (char :: head) tail (by rw [split]; rfl) present
        rwa [Text.size_cons, ← Nat.add_assoc] at there
      rw [List.cons_append, blocksFrom_of_missing here, later, Text.size_cons, Nat.add_assoc]

/-- A text has no more blocks than characters. -/
theorem length_blocksFrom_le (scanner : FenceScanner) (offset : Nat) (text : Text) :
    (scanner.blocksFrom offset text).length ≤ text.length := by
  fun_induction blocksFrom scanner offset text with
  | case1 offset text block rest found ih =>
      exact Nat.lt_of_le_of_lt ih (length_blockAt? found)
  | case2 => exact Nat.zero_le _
  | case3 offset char rest missing ih => exact Nat.le_succ_of_le ih

variable {reads : Nat -> Text -> CodeBlock -> Text -> Prop}

/-- A character may be put before a text if no block begins with it. -/
theorem Parse.cons {char : Char} (parse : Parse reads (offset + char.utf8Size) text blocks)
    (missing : ∀ block after, ¬ reads offset (char :: text) block after) :
    Parse reads offset (char :: text) blocks := by
  have place (head : Text) : offset + char.utf8Size + Text.size head =
      offset + Text.size (char :: head) := by
    rw [Text.size_cons, Nat.add_assoc]
  cases parse with
  | done nowhere =>
      refine .done fun head tail block after split => ?_
      rcases List.cons_eq_append_iff.mp split with ⟨rfl, rfl⟩ | ⟨others, rfl, inside⟩
      · exact missing block after
      · have nothing := nowhere others tail block after inside
        rwa [place] at nothing
  | @block _ skipped rest after block blocks found least later =>
      rw [place] at found
      refine @Parse.block reads offset (char :: skipped) rest after block blocks found ?_ later
      intro head tail other after split shorter
      rcases List.cons_eq_append_iff.mp split with ⟨rfl, rfl⟩ | ⟨others, rfl, inside⟩
      · exact missing other after
      · have nothing := least others tail other after inside (Nat.lt_of_add_lt_add_left shorter)
        rwa [place] at nothing

/-- A scan finds the blocks that begin a text as `reads` has it, one after the other. -/
theorem parse_iff
    (same : ∀ offset text block after,
      scanner.blockAt? offset text = some (block, after) ↔ reads offset text block after) :
    Parse reads offset text blocks ↔ scanner.blocksFrom offset text = blocks := by
  have missing_iff (offset : Nat) (text : Text) :
      scanner.blockAt? offset text = none ↔ ∀ block after, ¬ reads offset text block after := by
    rw [Option.eq_none_iff_forall_ne_some]
    simp only [Prod.forall, ne_eq, same]
  constructor
  · intro parse
    induction parse with
    | @done offset text missing =>
        have passed := @blocksFrom_append scanner text [] offset fun head tail split _ => by
          rw [List.append_nil]
          exact (missing_iff _ _).mpr fun block after => missing head tail block after split
        rw [List.append_nil] at passed
        rw [passed]
        exact blocksFrom_nil ((missing_iff _ _).mpr fun block after =>
          missing text [] block after (List.append_nil text).symm)
    | @block offset skipped rest after block blocks found least _ ih =>
        rw [blocksFrom_append, blocksFrom_of_found ((same _ _ _ _).mpr found), ih]
        intro head tail split present
        refine (missing_iff _ _).mpr fun other after => ?_
        refine least head (tail ++ rest) other after (by rw [split, List.append_assoc]) ?_
        rw [split, Text.size_append]
        exact Nat.lt_add_of_pos_right ((Text.size_pos_iff tail).mpr present)
  · rintro rfl
    fun_induction blocksFrom scanner offset text with
    | case1 offset text block rest found ih =>
        exact @Parse.block reads offset [] text rest block _ ((same _ _ _ _).mp found)
          (fun _ _ _ _ _ shorter => absurd shorter (Nat.not_lt_zero _)) ih
    | case2 offset missing =>
        refine .done fun head tail block after split => ?_
        rcases List.append_eq_nil_iff.mp split.symm with ⟨rfl, rfl⟩
        exact (missing_iff _ _).mp missing block after
    | case3 offset char rest missing ih =>
        exact ih.cons ((missing_iff _ _).mp missing)

end FenceScanner
end FencedHighlight
