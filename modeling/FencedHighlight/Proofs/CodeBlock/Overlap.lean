import FencedHighlight.Proofs.CodeBlock.Lines
import FencedHighlight.Unicode.Derived

namespace FencedHighlight

/-!
Blocks of different languages.

A document is searched for each language on its own, and no search knows of the blocks that
another one has found.  Between default fences, the opening line of a block tells its language,
and no other block begins inside that line.  Behind it, the first fence at the beginning of a
line closes the block.  So if blocks of two languages overlap, one of them begins with the
fence that closes the other, or with a fence that does not stand at the beginning of a line.
-/

namespace Unicode

/-- Letters and numbers of any script. -/
def isAlphanumeric (char : Char) : Bool :=
  RangeTable.oddlyContain Derived.alphabetic char ||
    [Category.decimalNumber, Category.letterNumber, Category.otherNumber].any (·.contains char)

def IsAlphanumeric (word : String) : Prop :=
  ∀ char ∈ Text.ofString word, isAlphanumeric char = true

/-- What a text has in common with all that differ from it only in case. -/
def folded (text : Text) : List Nat :=
  text.map fun char => foldCode char.toNat

/-- Whether two words differ in more than their case. -/
def Differ (first second : String) : Prop :=
  folded (Text.ofString first) ≠ folded (Text.ofString second)

end Unicode

/-- Whether a text begins or a line has just ended at an offset. -/
def BeginsLine (document : Text) (offset : Nat) : Prop :=
  ∃ before rest, document = before ++ rest ∧ Text.size before = offset ∧
    (before = [] ∨ ∃ line, before = line ++ ['\n'])

/-- A part of a text up to the beginning of a line is empty or ends the line before. -/
theorem BeginsLine.ended {head between rest : Text}
    (line : BeginsLine (head ++ (between ++ rest)) (Text.size (head ++ between))) :
    between = [] ∨ ∃ line, between = line ++ ['\n'] := by
  rcases line with ⟨first, others, whole, size, ends⟩
  rw [← List.append_assoc] at whole
  rcases Text.append_inj_of_size whole.symm size with ⟨rfl, _⟩
  rcases ends with empty | ⟨line, ends⟩
  · exact Or.inl (List.append_eq_nil_iff.mp empty).2
  · rcases List.eq_nil_or_concat between with none | ⟨others, last, rfl⟩
    · exact Or.inl none
    · rw [List.concat_eq_append, ← List.append_assoc] at ends
      rw [List.concat_eq_append, (List.append_inj' ends rfl).2]
      exact Or.inr ⟨others, rfl⟩

namespace CodeBlock

def Overlaps (first second : CodeBlock) : Prop :=
  first.offset < second.stop ∧ second.offset < first.stop

/-- A block begins inside another one, behind the opening line: with the default fence that
closes the other block, or in the middle of a line. -/
structure Intrudes (document : Text) (block other : CodeBlock) : Prop where
  behindOpening : ∃ place, other.bodyOffset? = some place ∧ place ≤ block.offset
  inside : block.offset < other.stop
  begins : block.offset + Text.size (Text.ofString FenceScanner.defaultFence) = other.stop ∨
    ¬ BeginsLine document block.offset

/-- A block that begins inside another one overlaps it. -/
theorem Intrudes.overlaps {document : Text} {block other : CodeBlock}
    (intrudes : block.Intrudes document other) (filled : block.offset < block.stop) :
    other.Overlaps block := by
  rcases intrudes.behindOpening with ⟨place, found, behind⟩
  rcases Option.map_eq_some_iff.mp found with ⟨span, _, rfl⟩
  refine ⟨?_, intrudes.inside⟩
  omega

end CodeBlock

namespace FenceScanner

variable {scanner scanner' : FenceScanner} {document text inner inner' opening opening' : Text}
  {word spelled body closing after between more : Text} {block block' : CodeBlock}

/-! ## Opening lines between default fences -/

/-- Whether a character of an opening line is not one of its language. -/
def isMark (char : Char) : Bool :=
  isModifier char || ['\r', '\n', '\x60'].contains char

theorem of_isMark {char : Char} (mark : isMark char = true) :
    Unicode.isAlphanumeric char = false ∧ Unicode.IsCaseless char := by
  have listed : ∃ marks : List Char, (∀ char, isModifier char = marks.contains char) ∧
      (marks ++ ['\r', '\n', '\x60']).all (fun char =>
        !Unicode.isAlphanumeric char && Unicode.standsAlone char) = true :=
    ⟨_, fun char => rfl, by decide +kernel⟩
  rcases listed with ⟨marks, same, checked⟩
  rw [isMark, Bool.or_eq_true, same, List.contains_iff_mem, List.contains_iff_mem] at mark
  have check := List.all_eq_true.mp checked char (List.mem_append.mpr mark)
  rw [Bool.and_eq_true, Bool.not_eq_true'] at check
  exact ⟨check.1, Unicode.isCaseless_of_standsAlone check.2⟩

/-- A scanner for blocks between default fences whose language has no marks in it. -/
structure IsPlain (scanner : FenceScanner) : Prop where
  fence : scanner.fence = Text.ofString defaultFence
  language : ∀ char ∈ Text.ofString scanner.language, isMark char = false

theorem isPlain_of_isAlphanumeric (fence : scanner.fence = Text.ofString defaultFence)
    (letters : Unicode.IsAlphanumeric scanner.language) :
    scanner.IsPlain := by
  refine ⟨fence, fun char member => Bool.eq_false_iff.mpr fun mark => ?_⟩
  have other := (of_isMark mark).1
  rw [letters char member] at other
  cases other

theorem defaultFence_eq : Text.ofString defaultFence = ['\x60', '\x60', '\x60'] := by
  decide

theorem IsPlain.caseless (plain : scanner.IsPlain) :
    ∀ char ∈ scanner.fence, Unicode.IsCaseless char := by
  rw [plain.fence, defaultFence_eq]
  intro char member
  have same : char = '\x60' := by simpa using member
  exact same ▸ (of_isMark rfl).2

theorem folded_of_spells (spells : scanner.Spells word spelled) :
    Unicode.folded spelled = Unicode.folded word := by
  induction spells with
  | nil => rfl
  | @cons letter char word spelled fits _ ih =>
      have same : Unicode.sameUpToCase letter char = true := by
        unfold alike at fits
        split at fits
        · exact fits
        · exact beq_iff_eq.mp fits ▸ Unicode.sameUpToCase_refl letter
      exact congrArg₂ List.cons ((Unicode.sameUpToCase_iff).mp same).symm ih

/-- An opening line is a fence, a language, and marks that are none of the fence. -/
theorem Opens.parts (plain : scanner.IsPlain) (opens : scanner.Opens inner opening) :
    ∃ language mark marks,
      opening = Text.ofString defaultFence ++ (language ++ mark :: marks) ∧
      scanner.Spells (Text.ofString scanner.language) language ∧
      (∀ char ∈ language, isMark char = false) ∧ isMark mark = true ∧
      '\x60' ∉ language ++ mark :: marks := by
  rcases opens with @⟨language, modifiers, lineBreak, spells, longest, breaks⟩
  have unmarked : ∀ char ∈ language, isMark char = false := by
    intro char member
    refine Bool.eq_false_iff.mpr fun mark => ?_
    refine not_mem_of_spells (of_isMark mark).2 spells (fun listed => ?_) member
    rw [plain.language char listed] at mark
    cases mark
  have marks : ∀ char ∈ modifiers, isModifier char = true := fun char member =>
    List.mem_takeWhile_imp (longest.symm ▸ member)
  have ends : ∀ char ∈ lineBreak, isMark char = true ∧ char ≠ '\x60' := by
    have checked : lineBreak.all (fun char => isMark char && char != '\x60') = true := by
      cases breaks <;> rfl
    intro char member
    have check := List.all_eq_true.mp checked char member
    rwa [Bool.and_eq_true, bne_iff_ne] at check
  have apart : ∀ char ∈ modifiers ++ lineBreak, isMark char = true ∧ char ≠ '\x60' := by
    intro char member
    rcases List.mem_append.mp member with modifier | ending
    · refine ⟨by rw [isMark, marks char modifier, Bool.true_or], ?_⟩
      rintro rfl
      exact absurd (marks _ modifier) (by decide)
    · exact ends char ending
  have present : modifiers ++ lineBreak ≠ [] := by
    cases breaks <;> simp
  rcases List.exists_cons_of_ne_nil present with ⟨mark, others, split⟩
  rw [split] at apart
  refine ⟨language, mark, others, ?_, spells, unmarked, (apart mark List.mem_cons_self).1, ?_⟩
  · rw [plain.fence, split]
  · rw [List.mem_append, not_or]
    refine ⟨fun member => absurd (unmarked _ member) (by decide), fun member => ?_⟩
    exact (apart _ member).2 rfl

/-- The opening line tells the language. -/
theorem Opens.folded_eq (plain : scanner.IsPlain) (plain' : scanner'.IsPlain)
    (opens : scanner.Opens inner opening) (opens' : scanner'.Opens inner' opening')
    (same : opening ++ inner = opening' ++ inner') :
    Unicode.folded (Text.ofString scanner.language) =
      Unicode.folded (Text.ofString scanner'.language) := by
  rcases opens.parts plain with ⟨language, mark, marks, rfl, spells, unmarked, ends, _⟩
  rcases opens'.parts plain' with ⟨language', mark', marks', rfl, spells', unmarked', ends', _⟩
  have first {word rest : Text} {mark : Char} (unmarked : ∀ char ∈ word, isMark char = false)
      (ends : isMark mark = true) :
      (word ++ mark :: rest).takeWhile (fun char => !isMark char) = word := by
    rw [List.takeWhile_append_of_pos (fun char member => by rw [unmarked char member]; rfl),
      List.takeWhile_cons_of_neg (by rw [ends]; decide), List.append_nil]
  simp only [List.append_assoc, List.append_cancel_left_eq, List.cons_append] at same
  have labels := congrArg (List.takeWhile fun char => !isMark char) same
  rw [first unmarked ends, first unmarked' ends'] at labels
  rw [← folded_of_spells spells, labels, folded_of_spells spells']

theorem mem_defaultFence {char : Char} : char ∈ Text.ofString defaultFence ↔ char = '\x60' := by
  simp [defaultFence_eq]

/-- No fence begins inside an opening line. -/
theorem Opens.not_fence_of_split (plain : scanner.IsPlain) (opens : scanner.Opens inner opening)
    {first rest : Text} (split : opening = first ++ rest) (behind : first ≠ []) (ahead : rest ≠ []) :
    ¬ Text.ofString defaultFence <+: rest ++ inner := by
  rcases opens.parts plain with ⟨language, mark, marks, rfl, _, _, _, fenceless⟩
  have present : language ++ mark :: marks ≠ [] := by simp
  generalize language ++ mark :: marks = label at split fenceless present
  rintro ⟨more, whole⟩
  -- What is left of the fence would go on with a character of the label.
  have atHead {kept text more : Text} (fence : ∀ char ∈ kept, char ∈ Text.ofString defaultFence)
      (unread : kept ≠ []) (nonempty : text ≠ []) (within : text ⊆ label)
      (same : kept ++ more = text ++ inner) : False := by
    rcases List.exists_cons_of_ne_nil unread with ⟨char, others, rfl⟩
    rcases List.exists_cons_of_ne_nil nonempty with ⟨char', others', rfl⟩
    rcases (List.cons.inj same).1 with rfl
    have first := within List.mem_cons_self
    rw [(mem_defaultFence).mp (fence char List.mem_cons_self)] at first
    exact fenceless first
  rcases List.append_eq_append_iff.mp split with ⟨within, _, later⟩ | ⟨within, fence, later⟩
  · have labelled : rest ⊆ label := fun char member => later ▸ List.mem_append_right within member
    exact atHead (fun char => id) (by decide) ahead labelled whole
  · have shorter : Text.size within < Text.size (Text.ofString defaultFence) := by
      rw [fence, Text.size_append]
      exact Nat.lt_add_of_pos_left ((Text.size_pos_iff first).mpr behind)
    rw [later, List.append_assoc] at whole
    rcases Text.exists_append_of_size_le whole.symm shorter.le with ⟨between, inside⟩
    rw [inside, List.append_assoc, List.append_cancel_left_eq] at whole
    refine atHead (fun char member => ?_) (fun nothing => ?_) present (List.Subset.refl label) whole
    · rw [inside]
      exact List.mem_append_right within member
    · rw [inside, nothing, List.append_nil] at shorter
      exact Nat.lt_irrefl _ shorter

/-! ## Fences at the beginning of lines -/

/-- A block is closed by the first fence at the beginning of a line behind its opening line. -/
theorem Closes.size_le {fence : Text} (closes : Closes fence inner body closing after)
    (split : inner = between ++ (fence ++ more))
    (line : between = [] ∨ ∃ line, between = line ++ ['\n']) :
    Text.size (body ++ closing) ≤ Text.size between + Text.size fence := by
  cases closes with
  | atOnce => exact Nat.le_add_left _ _
  | @later inner body lineBreak after notAtOnce breaks whole least =>
      rcases line with rfl | ⟨line, rfl⟩
      · exact absurd ⟨more, split.symm⟩ notAtOnce
      · rw [List.append_assoc] at split
        have ahead := least line ['\n'] more .lineFeed split
        rcases Text.exists_append_of_size_le (whole.symm.trans split) ahead with ⟨others, rfl⟩
        rw [whole, List.append_assoc, List.append_cancel_left_eq] at split
        have breakSize : Text.size lineBreak ≤ Text.size others + Text.size ['\n'] := by
          cases breaks with
          | lineFeed => exact Nat.le_add_left _ _
          | carriageReturn =>
              cases others with
              | nil => exact absurd (List.cons.inj split).1 (by decide)
              | cons char others =>
                  rw [← (List.cons.inj split).1]
                  exact Nat.add_le_add_right (Nat.le_add_right _ _) _
        simp only [Text.size_append]
        omega

theorem Closes.exists_fence {fence : Text} (closes : Closes fence inner body closing after) :
    ∃ kept, body ++ closing = kept ++ fence := by
  cases closes with
  | atOnce => exact ⟨[], rfl⟩
  | @later inner body lineBreak => exact ⟨body ++ lineBreak, (List.append_assoc _ _ _).symm⟩

/-- A fence at the beginning of a line in a block is the one that closes it. -/
theorem Closes.size_eq (closes : Closes (Text.ofString defaultFence) inner body closing after)
    (split : inner = between ++ (Text.ofString defaultFence ++ more))
    (line : between = [] ∨ ∃ line, between = line ++ ['\n'])
    (inside : Text.size between < Text.size (body ++ closing)) :
    Text.size between + Text.size (Text.ofString defaultFence) = Text.size (body ++ closing) := by
  have atMost := closes.size_le split line
  rcases closes.exists_fence with ⟨kept, ends⟩
  rw [ends, Text.size_append, Nat.add_le_add_iff_right] at atMost
  have whole := closes.split
  rw [← List.append_assoc, ends, List.append_assoc, split] at whole
  rcases Text.exists_append_of_size_le whole.symm atMost with ⟨others, rfl⟩
  rw [List.append_assoc, List.append_cancel_left_eq] at whole
  rw [ends, Text.size_append, Text.size_append, Nat.add_lt_add_iff_left] at inside
  rcases Text.exists_append_of_size_le whole inside.le with ⟨_, fence⟩
  have nothing : others = [] := by
    rcases List.eq_nil_or_concat others with none | ⟨first, last, rfl⟩
    · exact none
    · have lineBreak : last = '\n' := by
        rcases line with empty | ⟨before, ended⟩
        · exact absurd empty (by simp)
        · rw [List.concat_eq_append, ← List.append_assoc] at ended
          exact (List.cons.inj (List.append_inj' ended rfl).2).1
      have ofFence : last ∈ Text.ofString defaultFence := by
        rw [fence]
        exact List.mem_append_left _ (by simp)
      exact absurd (lineBreak.symm.trans ((mem_defaultFence).mp ofFence)) (by decide)
  rw [ends, nothing, List.append_nil, Text.size_append]

/-! ## Blocks that overlap -/

/-- Where a block of a document begins, and its parts. -/
theorem exists_parts_of_mem (caseless : ∀ char ∈ scanner.fence, Unicode.IsCaseless char)
    (member : block ∈ scanner.blocks document) :
    ∃ before opening inner body closing after, document = before ++ (opening ++ inner) ∧
      block.offset = Text.size before ∧ scanner.Opens inner opening ∧
      Closes scanner.fence inner body closing after ∧ block.raw = opening ++ (body ++ closing) ∧
      block.bodyOffset? = some (block.offset + Text.size opening) := by
  rcases exists_place_of_mem member with ⟨before, rest, after, whole, offset, read⟩
  rcases (blockAt?_eq_some_iff caseless).mp read with
    ⟨opening, inner, body, closing, rfl, opens, closes, _, raw, _, _, place⟩
  rw [Nat.zero_add] at offset
  exact ⟨before, opening, inner, body, closing, after, whole, offset, opens, closes, raw, place⟩

theorem intrudes_of_offset_lt (plain : scanner.IsPlain) (plain' : scanner'.IsPlain)
    (member : block ∈ scanner.blocks document) (member' : block' ∈ scanner'.blocks document)
    (ahead : block.offset < block'.offset) (inside : block'.offset < block.stop) :
    block'.Intrudes document block := by
  rcases exists_parts_of_mem plain.caseless member with
    ⟨before, opening, inner, body, closing, after, whole, offset, opens, closes, raw, place⟩
  rcases exists_parts_of_mem plain'.caseless member' with
    ⟨before', opening', inner', _, _, _, whole', offset', opens', _⟩
  rcases opens'.parts plain' with ⟨language, mark, marks, rfl, _⟩
  rw [offset, offset'] at ahead
  rcases Text.exists_append_of_size_lt (whole.symm.trans whole') ahead with
    ⟨between, behind, rfl, split⟩
  have opened : Text.size opening ≤ Text.size between := by
    by_contra shorter
    rcases Text.exists_append_of_size_lt split.symm (Nat.lt_of_not_le shorter) with
      ⟨others, present, line, later⟩
    refine opens.not_fence_of_split plain line behind present ?_
    rw [← later]
    exact ⟨_, (List.append_assoc _ _ _).symm⟩
  rcases Text.exists_append_of_size_le split opened with ⟨between, rfl⟩
  rw [List.append_assoc, List.append_cancel_left_eq, List.append_assoc] at split
  have extent : block.stop = block.offset + (Text.size opening + Text.size (body ++ closing)) := by
    rw [CodeBlock.stop, raw, Text.size_append]
  have start : block'.offset = block.offset + (Text.size opening + Text.size between) := by
    rw [offset', offset, Text.size_append, Text.size_append]
  refine ⟨⟨_, place, ?_⟩, inside, ?_⟩
  · rw [start]
    exact Nat.add_le_add_left (Nat.le_add_right _ _) _
  · by_cases line : BeginsLine document block'.offset
    · refine Or.inl ?_
      have ended : between = [] ∨ ∃ line, between = line ++ ['\n'] := by
        rw [offset', whole', List.append_assoc, List.append_assoc, ← List.append_assoc before,
          ← List.append_assoc before] at line
        exact line.ended
      rw [plain.fence] at closes
      rw [extent, start, Nat.add_lt_add_iff_left, Nat.add_lt_add_iff_left] at inside
      rw [extent, start, ← closes.size_eq split ended inside]
      omega
    · exact Or.inr line

/-- Blocks of languages that differ in more than their case do not begin at the same place.
They overlap if one of them begins inside the other one, and only then. -/
theorem overlaps_iff_intrudes (plain : scanner.IsPlain) (plain' : scanner'.IsPlain)
    (differ : Unicode.Differ scanner.language scanner'.language)
    (member : block ∈ scanner.blocks document) (member' : block' ∈ scanner'.blocks document) :
    block.offset ≠ block'.offset ∧
      (block.Overlaps block' ↔ block'.Intrudes document block ∨ block.Intrudes document block') := by
  have apart : block.offset ≠ block'.offset := by
    intro same
    rcases exists_parts_of_mem plain.caseless member with
      ⟨_, _, _, _, _, _, whole, offset, opens, _⟩
    rcases exists_parts_of_mem plain'.caseless member' with
      ⟨_, _, _, _, _, _, whole', offset', opens', _⟩
    have place := Text.append_inj_of_size (whole.symm.trans whole')
      (offset.symm.trans (same.trans offset'))
    exact differ (opens.folded_eq plain plain' opens' place.2)
  refine ⟨apart, ?_, ?_⟩
  · rintro ⟨first, second⟩
    rcases Nat.lt_or_gt_of_ne apart with ahead | behind
    · exact Or.inl (intrudes_of_offset_lt plain plain' member member' ahead second)
    · exact Or.inr (intrudes_of_offset_lt plain' plain member' member behind first)
  · rintro (second | first)
    · exact second.overlaps (offset_lt_stop_of_mem member')
    · exact (first.overlaps (offset_lt_stop_of_mem member)).symm

end FenceScanner
end FencedHighlight
