import FencedHighlight.CodeBlock
import FencedHighlight.Proofs.Text.Slice

namespace FencedHighlight

/-!
Where blocks lie in their document.

A scan takes a document apart into blocks and what lies between them.  So every
block that it finds is the part of the document that its offset and its text
tell, and a block can be recognized in another document by these alone.  Each
block begins at or after the end of those found before it.
-/

namespace CodeBlock

/-- Whether a document has the text of a block at the offset of the block. -/
def LiesIn (block : CodeBlock) (document : Text) : Prop :=
  Text.slice? document block.offset block.stop = some block.raw

theorem liesIn_append {block : CodeBlock} {before : Text} (after : Text)
    (place : Text.size before = block.offset) :
    block.LiesIn (before ++ (block.raw ++ after)) :=
  (Text.slice?_eq_some_iff).mpr ⟨before, after, (List.append_assoc _ _ _).symm, place, rfl⟩

end CodeBlock

namespace FenceScanner

/-- The blocks of a text lie in every document that has the text where the scan
begins. -/
theorem liesIn_of_mem_blocksFrom {scanner : FenceScanner} {offset : Nat} {text : Text}
    {block : CodeBlock} {before : Text} (place : Text.size before = offset)
    (member : block ∈ scanner.blocksFrom offset text) : block.LiesIn (before ++ text) := by
  fun_induction blocksFrom scanner offset text generalizing before with
  | case1 offset text first rest found ih =>
      rcases parts_of_blockAt? found with ⟨whole, starts, _⟩
      rw [← whole]
      rcases List.mem_cons.mp member with same | later
      · subst same
        exact CodeBlock.liesIn_append rest (place.trans starts.symm)
      · rw [← List.append_assoc]
        refine ih ?_ later
        rw [Text.size_append, CodeBlock.stop, starts, place]
  | case2 => cases member
  | case3 offset char rest missing ih =>
      rw [List.append_cons]
      refine ih ?_ member
      rw [Text.size_append, place]
      rfl

/-- Every block of a document lies in it. -/
theorem liesIn_of_mem_blocks {scanner : FenceScanner} {document : Text} {block : CodeBlock}
    (member : block ∈ scanner.blocks document) : block.LiesIn document :=
  @liesIn_of_mem_blocksFrom scanner 0 document block [] rfl member

/-- No block begins before the text that is searched. -/
theorem le_offset_of_mem_blocksFrom {scanner : FenceScanner} {offset : Nat} {text : Text}
    {block : CodeBlock} (member : block ∈ scanner.blocksFrom offset text) :
    offset ≤ block.offset := by
  fun_induction blocksFrom scanner offset text with
  | case1 offset text first rest found ih =>
      have starts := (parts_of_blockAt? found).2.1
      rcases List.mem_cons.mp member with same | later
      · exact Nat.le_of_eq (by rw [same, starts])
      · have behind := ih later
        rw [CodeBlock.stop, starts] at behind
        exact Nat.le_trans (Nat.le_add_right _ _) behind
  | case2 => cases member
  | case3 offset char rest missing ih => exact Nat.le_trans (Nat.le_add_right _ _) (ih member)

theorem pairwise_blocksFrom (scanner : FenceScanner) (offset : Nat) (text : Text) :
    (scanner.blocksFrom offset text).Pairwise fun first second => first.stop ≤ second.offset := by
  fun_induction blocksFrom scanner offset text with
  | case1 offset text first rest found ih =>
      exact List.pairwise_cons.mpr ⟨fun second later => le_offset_of_mem_blocksFrom later, ih⟩
  | case2 => exact List.Pairwise.nil
  | case3 offset char rest missing ih => exact ih

/-- The blocks of a document follow one another without overlaps. -/
theorem pairwise_blocks (scanner : FenceScanner) (document : Text) :
    (scanner.blocks document).Pairwise fun first second => first.stop ≤ second.offset :=
  pairwise_blocksFrom scanner 0 document

end FenceScanner

end FencedHighlight
