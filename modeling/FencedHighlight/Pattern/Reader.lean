import FencedHighlight.Pattern.Bracket
import FencedHighlight.Pattern.Tree
import FencedHighlight.Text

namespace FencedHighlight
namespace Pattern
namespace Reader

/-!
Reading a pattern.

The text of a pattern is read from left to right in one pass.  Groups that are
still open are kept on a stack, the innermost first, each with its finished
alternatives and the pieces of the current one.  Every step takes at least one
character.  Only the parenthesis that closes the rest of a bracketed class is
ever put in, and such a class takes a character for it, so twice the length of
the text bounds the number of steps.
-/

/-- What is wrong with the text of a pattern. -/
inductive Fault where
  | unclosedGroup
  | unopenedGroup
  | nestedTooDeeply
  | nothingToRepeat
  | danglingBackslash
  | unknownEscape
  | badCodePoint
  | unclosedProperty
  | unknownProperty
  | unknownBoundary
  | unclosedClass
  | badClass (fault : Bracket.Fault)
  | unknownFlag
  | badGroupName
  | unknownGroup
  | numberedAmongNamed
  | badCondition
  | unsupportedGroup
deriving DecidableEq

/-- The settings that flags switch. -/
structure Flags where
  anyCase : Bool := false
  /-- Line anchors hold at every line, not only at the ends of the text. -/
  multiline : Bool := false
  /-- The dot takes a line feed too. -/
  dotAll : Bool := false
  /-- Repetitions prefer few rounds, and many if marked. -/
  lazyFirst : Bool := false
  /-- Blanks and comments in the pattern do not count. -/
  spaced : Bool := false

/-- What an open group becomes when it closes. -/
inductive GroupKind where
  | whole
  | capture (index : Nat)
  /-- Restores the flags that were set where it opened. -/
  | scope (flags : Flags)
  | look (side : Side) (wanted : Bool)
  | atomic
  /-- The condition of a choice, up to the parenthesis that closes it. -/
  | condition
  /-- What a choice leads to if its condition matches, or if not. -/
  | cases (condition : Tree)

/-- An open group, its finished alternatives and the pieces of the current
one, both with the newest first. -/
structure Level where
  kind : GroupKind
  branches : List Tree := []
  pieces : List Tree := []

/-- What has been read so far. -/
structure State where
  flags : Flags := {}
  /-- The number of capturing groups that have been opened. -/
  groups : Nat := 0
  names : List (String × Nat) := []
  /-- The groups that are referred to. -/
  referenced : List Nat := []
  /-- The groups that have been closed, with their least lengths and whether
  the length is fixed. -/
  closed : List (Nat × Nat × Bool) := []
  /-- Whether some reference is by a number without a sign. -/
  numbered : Bool := false
  level : Level := { kind := .whole }
  outer : List Level := []

/-- Groups may be nested this deep, the outermost level included. -/
def deepestNesting : Nat := 64

/-! ## Blanks and comments -/

/-- What is being skipped. -/
inductive Skipping where
  | blanks
  | lineComment
  | groupComment

/-- Skip comments written as groups and, if the pattern is spaced, blanks and
comments up to the end of a line.  In a comment written as a group, a backslash
keeps the next character from closing it. -/
def skip (spaced : Bool) :
    Skipping -> List Char -> Except Fault (List Char)
  | .blanks, '(' :: '?' :: '#' :: rest => skip spaced .groupComment rest
  | .blanks, char :: rest =>
      if spaced && char == '#' then
        skip spaced .lineComment rest
      else if spaced && (char == ' ' || char == '\r' || char == '\n' || char == '\t') then
        skip spaced .blanks rest
      else
        .ok (char :: rest)
  | .lineComment, char :: rest =>
      skip spaced (if char == '\n' then .blanks else .lineComment) rest
  | .groupComment, '\\' :: _ :: rest => skip spaced .groupComment rest
  | .groupComment, char :: rest =>
      skip spaced (if char == ')' then .blanks else .groupComment) rest
  | .groupComment, [] => .error .unclosedGroup
  | _, [] => .ok []

/-- Skip what does not count under the given flags. -/
def skipBlanks (flags : Flags) (chars : List Char) : Except Fault (List Char) :=
  skip flags.spaced .blanks chars

/-! ## Numbers and names -/

/-- Read a run of decimal digits, unless there is none or the number does not
fit into 64 bits. -/
def readDecimal? (chars : List Char) : Option (Nat × List Char) :=
  let digits := chars.takeWhile Char.isDigit
  let value := digits.foldl (fun value digit => 10 * value + (digit.toNat - 48)) 0
  if digits.isEmpty || Nat.pow 2 64 ≤ value then none
  else some (value, chars.drop digits.length)

def hexValue? (char : Char) : Option Nat :=
  if '0' ≤ char && char ≤ '9' then some (char.toNat - 48)
  else if 'a' ≤ char && char ≤ 'f' then some (char.toNat - 87)
  else if 'A' ≤ char && char ≤ 'F' then some (char.toNat - 55)
  else none

/-- Whether a character may stand in the name of a group. -/
def isNameChar (char : Char) : Bool :=
  char == '_' || Unicode.RangeTable.oddlyContain Unicode.Derived.alphabetic char ||
    Unicode.Category.decimalNumber.contains char ||
    Unicode.Category.letterNumber.contains char ||
    Unicode.Category.otherNumber.contains char

/-- The text after a closing character, if one is asked for and stands first. -/
def close? (closing : Option Char) (chars : List Char) : Option (List Char) :=
  match closing, chars with
  | none, rest => some rest
  | some wanted, char :: rest => if char == wanted then some rest else none
  | some _, [] => none

/-- Read a name, and the character that closes it if there is to be one. -/
def readName? (closing : Option Char) (chars : List Char) :
    Option (List Char × List Char) :=
  let name := chars.takeWhile isNameChar
  if name.isEmpty then none
  else (close? closing (chars.drop name.length)).map fun rest => (name, rest)

/-- The bound that stands for no bound at all. -/
def noBound : Nat := Nat.pow 2 64 - 1

/-- Read the bounds of a repetition, after `{`.  What does not read as bounds
is ordinary text. -/
def readBounds? (flags : Flags) (chars : List Char) :
    Option (Nat × Option Nat × List Char) := do
  let chars <- (skipBlanks flags chars).toOption
  let (least, chars) <- match chars with
    | ',' :: _ => some (0, chars)
    | _ => readDecimal? chars
  let chars <- (skipBlanks flags chars).toOption
  let upTo (most : Nat) : Option Nat := if most = noBound then none else some most
  match chars with
  | '}' :: rest => return (least, upTo least, rest)
  | ',' :: rest =>
      let rest <- (skipBlanks flags rest).toOption
      let (most, rest) := match readDecimal? rest with
        | some (most, rest) => (upTo most, rest)
        | none => (none, rest)
      match <- (skipBlanks flags rest).toOption with
      | '}' :: rest => return (least, most, rest)
      | _ => none
  | _ => none

/-! ## Escapes -/

/-- What an escape stands for. -/
inductive Escape where
  /-- A character, exactly as it is. -/
  | literal (char : Char)
  /-- A character given by its code point. -/
  | codePoint (char : Char)
  /-- A class, also in the form in which it stands inside brackets. -/
  | members (part : Bracket.Part) (signs : List Bracket.Sign)
  | tree (tree : Tree)
  /-- The position at which the search began. -/
  | searchStart
  /-- A reference to a group by its number. -/
  | number (group : Nat)
  /-- A reference to a group by a name and an offset, of which one is given. -/
  | name (closing : Char)

/-- Read up to a number of hexadecimal digits and the brace that closes them.
Blanks may stand between. -/
def readBracedDigits (flags : Flags) :
    (most : Nat) -> List Char -> Except Fault (List Nat × List Char)
  | most, chars => do
      match <- skipBlanks flags chars, most with
      | '}' :: rest, _ => return ([], rest)
      | char :: rest, most + 1 =>
          match hexValue? char with
          | some digit =>
              let (digits, rest) <- readBracedDigits flags most rest
              return (digit :: digits, rest)
          | none => .error .badCodePoint
      | _, _ => .error .badCodePoint

/-- Read the digits of a code point: a fixed number of them, or up to eight
between braces. -/
def readCodePoint (flags : Flags) (digits : Nat) (chars : List Char) :
    Except Fault (Char × List Char) := do
  let chars <- skipBlanks flags chars
  let fixed := (chars.take digits).filterMap hexValue?
  let (hex, rest) <-
    if fixed.length = digits then
      .ok (fixed, chars.drop digits)
    else
      match chars with
      | '{' :: rest => readBracedDigits flags 8 rest
      | _ => .error .badCodePoint
  let value := hex.foldl (fun value digit => 16 * value + digit) 0
  if h : value.isValidChar ∧ hex ≠ [] then
    return (Char.ofNatAux value h.1, rest)
  else
    .error .badCodePoint

/-- Read a property after `\p` or `\P`: one letter, or text between braces. -/
def readProperty (negated folded : Bool) (chars : List Char) :
    Except Fault (CharClass × List Char) :=
  let named (inside rest : List Char) : Except Fault (CharClass × List Char) :=
    match CharClass.property? inside negated folded with
    | some members => .ok (members, rest)
    | none => .error .unknownProperty
  match chars with
  | '{' :: rest =>
      let inside := rest.takeWhile (· != '}')
      match rest.drop inside.length with
      | _ :: after => named inside after
      | [] => .error .unclosedProperty
  | letter :: rest => named [letter] rest
  | [] => .error .unknownEscape

/-- The hexadecimal digits as they stand inside brackets. -/
def hexSigns (negated : Bool) : List Bracket.Sign :=
  (.plain '[' :: if negated then [.plain '^'] else []) ++
    ['0', '-', '9', 'A', '-', 'F', 'a', '-', 'f', ']'].map .plain

/-- Read what follows the sign of a word boundary: the name of a kind of
boundary between braces, or else nothing. -/
def readBoundary (flags : Flags) (chars : List Char) :
    Except Fault (Anchor × List Char) := do
  match <- skipBlanks flags chars with
  | '{' :: rest =>
      let rest <- skipBlanks flags rest
      let name := rest.takeWhile fun char => char.isAlpha || char == '-'
      if name.isEmpty then
        return (.wordBoundary, chars)
      else
        match <- skipBlanks flags (rest.drop name.length) with
        | '}' :: rest =>
            match String.ofList name with
            | "start" => return (.wordStart, rest)
            | "end" => return (.wordEnd, rest)
            | "start-half" => return (.wordStartHalf, rest)
            | "end-half" => return (.wordEndHalf, rest)
            | _ => .error .unknownBoundary
        | _ => .error .unknownBoundary
  | _ => return (.wordBoundary, chars)

/-- The letters that stand for themselves inside brackets, where they cannot
have the meaning that they have outside. -/
def plainLetters : List Char :=
  ['k', 'A', 'z', 'B', 'K', 'G']

def readEscape (flags : Flags) (inBrackets : Bool) (chars : List Char) :
    Except Fault (Escape × List Char) :=
  let members (value : CharClass) (rest : List Char) :
      Except Fault (Escape × List Char) :=
    .ok (.members ⟨value, 0⟩ [.set value], rest)
  let anchor (kind : Anchor) (rest : List Char) :
      Except Fault (Escape × List Char) :=
    .ok (.tree (.anchor kind), rest)
  let codePoint (digits : Nat) (rest : List Char) :
      Except Fault (Escape × List Char) :=
    (readCodePoint flags digits rest).map fun (char, rest) => (.codePoint char, rest)
  match inBrackets, chars with
  | _, [] => .error .danglingBackslash
  | _, 'd' :: rest => members .digit rest
  | _, 'D' :: rest => members (.compl .digit) rest
  | _, 's' :: rest => members .space rest
  | _, 'S' :: rest => members (.compl .space) rest
  | _, 'w' :: rest => members .word rest
  | _, 'W' :: rest => members (.compl .word) rest
  | _, 'h' :: rest => .ok (.members ⟨.hexDigit, 2⟩ (hexSigns false), rest)
  | _, 'H' :: rest => .ok (.members ⟨.compl .hexDigit, 2⟩ (hexSigns true), rest)
  | _, 'x' :: rest => codePoint 2 rest
  | _, 'u' :: rest => codePoint 4 rest
  | _, 'U' :: rest => codePoint 8 rest
  | _, 'p' :: rest =>
      (readProperty false flags.anyCase rest).bind fun (value, rest) => members value rest
  | _, 'P' :: rest =>
      (readProperty true flags.anyCase rest).bind fun (value, rest) => members value rest
  | false, 'k' :: '<' :: rest => .ok (.name '>', rest)
  | false, 'k' :: '\'' :: rest => .ok (.name '\'', rest)
  | false, 'k' :: _ => .error .badGroupName
  | false, 'A' :: rest => anchor .textStart rest
  | false, 'z' :: rest => anchor .textEnd rest
  | false, 'Z' :: rest => anchor .lastLineEnd rest
  | false, 'b' :: rest =>
      (readBoundary flags rest).bind fun (kind, rest) => anchor kind rest
  | false, 'B' :: rest => anchor .notWordBoundary rest
  | false, '<' :: rest => anchor .wordStart rest
  | false, '>' :: rest => anchor .wordEnd rest
  | false, 'G' :: rest => .ok (.searchStart, rest)
  | false, 'K' :: rest => .ok (.tree .beginHere, rest)
  | false, 'O' :: rest => .ok (.tree (.one .everything 1), rest)
  | false, 'N' :: rest => .ok (.tree (.one .withinLine 0), rest)
  | _, 'a' :: rest => .ok (.literal '\x07', rest)
  | _, 'b' :: rest => .ok (.literal '\x08', rest)
  | _, 'e' :: rest => .ok (.literal '\x1b', rest)
  | _, 'f' :: rest => .ok (.literal '\x0c', rest)
  | _, 'n' :: rest => .ok (.literal '\n', rest)
  | _, 'r' :: rest => .ok (.literal '\r', rest)
  | _, 't' :: rest => .ok (.literal '\t', rest)
  | _, 'v' :: rest => .ok (.literal '\x0b', rest)
  | _, char :: rest =>
      if char.isDigit then
        match readDecimal? chars with
        | some (group, rest) => .ok (.number group, rest)
        | none => .error .unknownGroup
      else if char.isAlpha && !plainLetters.contains char then
        .error .unknownEscape
      else
        .ok (.literal char, rest)

/-! ## Bracketed classes -/

/-- The characters that keep their own meaning off when they are escaped. -/
def signChars : List Char :=
  ['\\', '.', '+', '*', '?', '(', ')', '|', '[', ']', '\x7b', '\x7d', '^', '$', '#',
    '&', '-', '~']

/-- How a character that was written as an escape stands inside brackets. -/
def escapedSign (char : Char) : Bracket.Sign :=
  if signChars.contains char then .literal char else .plain char

/-- The signs between brackets, each with the text after it, starting after the
opening bracket.  `depth` counts the brackets that are open. -/
def readSigns (flags : Flags) :
    (steps : Nat) -> (depth : Nat) -> List Char ->
      Except Fault (List (Bracket.Sign × List Char))
  | 0, _, _ => .error .unclosedClass
  | steps + 1, depth, chars => do
      match chars with
      | [] => .error .unclosedClass
      | '\\' :: rest =>
          let (escape, rest) <- readEscape flags true rest
          let signs <- match escape with
            | .literal char | .codePoint char => .ok [escapedSign char]
            | .members _ signs => .ok signs
            | _ => .error .unclosedClass
          return signs.map (·, rest) ++ (<- readSigns flags steps depth rest)
      | ']' :: rest =>
          if depth ≤ 1 then
            return [(.plain ']', rest)]
          else
            return (.plain ']', rest) :: (<- readSigns flags steps (depth - 1) rest)
      | char :: rest =>
          let depth := if char == '[' then depth + 1 else depth
          return (.plain char, rest) :: (<- readSigns flags steps depth rest)

/-- Read a bracketed class, after its opening bracket.  A closing bracket that
comes first, or right after the sign of negation, is a member.  The answer also
holds the text after the class, and the text after the bracket that matches the
opening one, which may stand farther on. -/
def readClass (flags : Flags) (chars : List Char) :
    Except Fault (Bracket.Part × List Char × List Char) := do
  let (negation, chars) := match chars with
    | '^' :: rest => ([(Bracket.Sign.plain '^', rest)], rest)
    | _ => ([], chars)
  let (first, chars) := match chars with
    | ']' :: rest => ([(Bracket.Sign.plain ']', rest)], rest)
    | _ => ([], chars)
  let signs := negation ++ first ++ (<- readSigns flags (chars.length + 1) 1 chars)
  match Bracket.read flags.anyCase (signs.map Prod.fst) with
  | .ok (part, left) =>
      let after (signs : List (Bracket.Sign × List Char)) : List Char :=
        (signs.getLast?.map Prod.snd).getD []
      return (part, after (signs.take (signs.length - left.length)), after signs)
  | .error fault => .error (.badClass fault)

/-! ## Pieces -/

/-- A class as a piece, under the flags that hold where it is written. -/
def classTree (flags : Flags) (part : Bracket.Part) : Tree :=
  .one part.members (if flags.anyCase then part.nesting + 1 else part.nesting)

/-- A character of the pattern that stands for itself. -/
def literalTree (flags : Flags) (char : Char) : Tree :=
  classTree flags ⟨CharClass.foldIf flags.anyCase (.single char), 0⟩

/-- Read the repetition signs after a piece, if there are any. -/
def readRepetition (flags : Flags) (piece : Tree) (chars : List Char) :
    Except Fault (Tree × List Char) := do
  let chars <- skipBlanks flags chars
  let bounds := match chars with
    | '?' :: rest => some (0, some 1, rest)
    | '*' :: rest => some (0, none, rest)
    | '+' :: rest => some (1, none, rest)
    | '{' :: rest => readBounds? flags rest
    | _ => none
  match bounds with
  | none => return (piece, chars)
  | some (least, most, rest) =>
      if !piece.isRepeatable then
        .error .nothingToRepeat
      else
        let rest <- skipBlanks flags rest
        let (marked, rest) := match rest with
          | '?' :: rest => (true, rest)
          | _ => (false, rest)
        let tree := Tree.repeated least most (marked == flags.lazyFirst) piece
        match rest with
        | '+' :: rest => return (.atomic tree, rest)
        | _ => return (tree, rest)

namespace State

/-- Add a piece to the current alternative of the innermost group. -/
def push (state : State) (piece : Tree) : State :=
  match piece with
  | .empty => state
  | _ => { state with level := { state.level with pieces := piece :: state.level.pieces } }

/-- Add a piece with the repetition signs that follow it. -/
def attach (state : State) (piece : Tree) (chars : List Char) :
    Except Fault (State × List Char) := do
  let (piece, rest) <- readRepetition state.flags piece chars
  return (state.push piece, rest)

def descend (state : State) (kind : GroupKind) : State :=
  { state with level := { kind }, outer := state.level :: state.outer }

def branch (state : State) : State :=
  let level := state.level
  let finished := Tree.sequence level.pieces.reverse
  { state with level := { level with branches := finished :: level.branches, pieces := [] } }

/-- The tree of the innermost group.  Where it has a single alternative, no
numbered reference may occur in a pattern with named groups. -/
def content (state : State) : Except Fault Tree :=
  if state.level.branches.isEmpty && state.numbered && !state.names.isEmpty then
    .error .numberedAmongNamed
  else
    .ok (Tree.choice (state.branch.level.branches.reverse))

/-- Whether a place that the search has to start from fails for good: no group
has been opened yet, and what stands before it in the open groups may be
passed without taking a character. -/
def isDecisive (state : State) : Bool :=
  let passable (level : Level) : Bool :=
    level.pieces.all (·.leastLength == 0) &&
      match level.kind with
      | .cases condition => !level.branches.isEmpty || condition.leastLength == 0
      | _ => true
  state.groups == 0 && (state.level :: state.outer).all passable

def reference (state : State) (group : Nat) : Tree :=
  match state.closed.lookup group with
  | some (least, fixed) => .again group state.flags.anyCase least fixed
  | none => .again group state.flags.anyCase 0 false

/-- Note that a group is referred to. -/
def note (state : State) (group : Nat) : State :=
  { state with referenced := group :: state.referenced }

/-- Read the distance of a group from here, with its sign. -/
def readDistance? (state : State) (chars : List Char) : Option (Nat × List Char) :=
  match chars with
  | '-' :: rest => do
      let (count, rest) <- readDecimal? rest
      if count = 0 || state.groups + 1 < count then none
      else return (state.groups + 1 - count, rest)
  | '+' :: rest => do
      let (count, rest) <- readDecimal? rest
      if count = 0 then none else return (state.groups + count, rest)
  | _ => none

/-- Read which group is meant, up to the closing character if there is one.  A
group may be named by its number too or, if allowed, by its distance from
here. -/
def readGroup (state : State) (closing : Option Char) (relative : Bool)
    (chars : List Char) : Except Fault (Nat × List Char) :=
  match readName? closing chars with
  | some (name, rest) =>
      match state.names.lookup (String.ofList name), readDecimal? name with
      | some group, _ => .ok (group, rest)
      | none, some (group, []) => .ok (group, rest)
      | none, _ => .error .unknownGroup
  | none =>
      let distance? := do
        let (group, rest) <- if relative then state.readDistance? chars else none
        return (group, <- close? closing rest)
      match distance? with
      | some found => .ok found
      | none => .error .badGroupName

/-- Read a reference by name, up to the closing character. -/
def referByName (state : State) (closing : Char) (relative : Bool)
    (chars : List Char) : Except Fault (State × List Char) := do
  let (group, rest) <- state.readGroup (some closing) relative chars
  (state.note group).attach (state.reference group) rest

/-- Open a capturing group, after its name if it has one. -/
def capture (state : State) (name : Option (List Char)) : State :=
  let index := state.groups + 1
  let names := match name with
    | some name => (String.ofList name, index) :: state.names
    | none => state.names
  { state with groups := index, names }.descend (.capture index)

/-- Go on to the cases of a choice, after its condition has been closed.  That
a group is set need not be followed by any case. -/
def beginCases (state : State) (condition : Tree) (chars : List Char) :
    Except Fault (State × List Char) := do
  let inside := state.descend (.cases condition)
  match chars, condition with
  | ')' :: rest, .isSet _ =>
      let _ <- inside.content
      state.attach condition rest
  | ')' :: _, _ => .error .badCondition
  | _, _ => return (inside, chars)

/-- Read the start of a condition: which group has to be set, up to the
parenthesis, or else the start of a pattern. -/
def readCondition (state : State) (chars : List Char) :
    Except Fault (State × List Char) := do
  let isSet (closing : Option Char) (chars : List Char) :
      Except Fault (State × List Char) := do
    let (group, rest) <- state.readGroup closing true chars
    match <- skipBlanks state.flags rest with
    | ')' :: rest => (state.note group).beginCases (.isSet group) rest
    | _ => .error .badCondition
  match chars with
  | '\'' :: rest => isSet (some '\'') rest
  | '<' :: rest => isSet (some '>') rest
  | char :: _ =>
      if char.isDigit || char == '+' || char == '-' then isSet none chars
      else return (state.descend .condition, chars)
  | [] => .error .unclosedGroup

end State

/-- Read flags, after `(?`.  `size` is the length of the text there, `set` says
whether the flags are switched on.  A hyphen may not stand alone, and the
parentheses may not close at once. -/
def readFlags (state : State) (before : Flags) (size : Nat) :
    (steps : Nat) -> (set : Bool) -> List Char -> Except Fault (State × List Char)
  | 0, _, _ => .error .unclosedGroup
  | steps + 1, set, chars => do
      let more (flags : Flags) (rest : List Char) : Except Fault (State × List Char) :=
        readFlags { state with flags } before size steps set rest
      let flags := state.flags
      let chars <- skipBlanks flags chars
      let hyphenOnly := !set && chars.length + 1 == size
      match chars with
      | [] => .error .unclosedGroup
      | 'i' :: rest => more { flags with anyCase := set } rest
      | 'm' :: rest => more { flags with multiline := set } rest
      | 's' :: rest => more { flags with dotAll := set } rest
      | 'U' :: rest => more { flags with lazyFirst := set } rest
      | 'x' :: rest => more { flags with spaced := set } rest
      | 'u' :: rest => if set then more flags rest else .error .unknownFlag
      | '-' :: rest =>
          if set then readFlags state before size steps false rest
          else .error .unknownFlag
      | ')' :: rest =>
          if chars.length == size || hyphenOnly then .error .unknownFlag
          else state.attach .empty rest
      | ':' :: rest =>
          if hyphenOnly then .error .unknownFlag
          else return (state.descend (.scope before), rest)
      | _ => .error .unknownFlag

/-- Read the start of a group, after its opening parenthesis. -/
def readGroupStart (state : State) (chars : List Char) :
    Except Fault (State × List Char) := do
  if deepestNesting ≤ state.outer.length + 1 then
    .error .nestedTooDeeply
  else
    match <- skipBlanks state.flags chars with
    | '?' :: '=' :: rest => return (state.descend (.look .ahead true), rest)
    | '?' :: '!' :: rest => return (state.descend (.look .ahead false), rest)
    | '?' :: '<' :: '=' :: rest => return (state.descend (.look .behind true), rest)
    | '?' :: '<' :: '!' :: rest => return (state.descend (.look .behind false), rest)
    | '?' :: '<' :: rest | '?' :: 'P' :: '<' :: rest =>
        match readName? (some '>') rest with
        | some (name, rest) => return (state.capture (some name), rest)
        | none => .error .badGroupName
    | '?' :: '\'' :: rest =>
        match readName? (some '\'') rest with
        | some (name, rest) => return (state.capture (some name), rest)
        | none => .error .badGroupName
    | '?' :: 'P' :: '=' :: rest => state.referByName ')' false rest
    | '?' :: '>' :: rest => return (state.descend .atomic, rest)
    | '?' :: '(' :: rest => state.readCondition rest
    | '?' :: '~' :: _ | '?' :: 'P' :: '>' :: _ => .error .unsupportedGroup
    | '?' :: rest =>
        readFlags state state.flags rest.length (rest.length + 1) true rest
    | rest => return (state.capture none, rest)

/-- A choice between two cases, the first alternative and all others.  A choice
without cases is no more than its condition. -/
def caseTree (condition : Tree) : Tree -> Tree
  | .either .empty .empty | .empty => condition
  | .either yes no => .conditional condition yes no
  | yes => .conditional condition yes .empty

def readGroupEnd (state : State) (chars : List Char) :
    Except Fault (State × List Char) := do
  match state.outer with
  | [] => .error .unopenedGroup
  | parent :: outer =>
      let body <- state.content
      let around := { state with level := parent, outer }
      match state.level.kind with
      | .whole => .error .unopenedGroup
      | .capture index =>
          let closed := (index, body.leastLength, body.hasFixedLength) :: state.closed
          State.attach { around with closed } (.group index body) chars
      | .scope flags => State.attach { around with flags } body.enclosed chars
      | .look side wanted => around.attach (.look side wanted body.bare) chars
      | .atomic => around.attach (.atomic body) chars
      | .condition => around.beginCases body.enclosed chars
      | .cases condition => around.attach (caseTree condition body.bare) chars

/-- Read one piece that is no group, with the repetition signs after it.  Where
the brackets of a class go on after its end, the rest of them is put back; it
forms a group with the class if case does not count. -/
def readPiece (size : Nat) (state : State) (chars : List Char) :
    Except Fault (State × List Char) := do
  let flags := state.flags
  match chars with
  | [] => return (state, [])
  | '?' :: _ | '*' :: _ | '+' :: _ => .error .nothingToRepeat
  | '.' :: rest =>
      state.attach (if flags.dotAll then .one .everything 1 else .one .withinLine 0) rest
  | '^' :: rest =>
      state.attach (.anchor (if flags.multiline then .lineStart else .textStart)) rest
  | '$' :: rest =>
      state.attach (.anchor (if flags.multiline then .lineEnd else .textEnd)) rest
  | '[' :: rest =>
      let (part, after, stop) <- readClass flags rest
      let piece := classTree flags part
      if after.length = stop.length then
        state.attach piece after
      else if flags.anyCase then
        let inside := after.take (after.length - stop.length)
        return ((state.descend (.scope flags)).push piece, inside ++ ')' :: stop)
      else
        return (state.push piece, after)
  | '\\' :: rest =>
      let (escape, rest) <- readEscape flags false rest
      match escape with
      | .literal char => state.attach (.one (.single char) 0) rest
      | .codePoint char => state.attach (literalTree flags char) rest
      | .members part _ => state.attach (classTree flags part) rest
      | .tree tree => state.attach tree rest
      | .searchStart => state.attach (.searchStart state.isDecisive) rest
      | .number group =>
          if group < size / 2 then
            let state := { state.note group with numbered := true }
            state.attach (state.reference group) rest
          else
            .error .unknownGroup
      | .name closing => state.referByName closing true rest
  | char :: rest => state.attach (literalTree flags char) rest

def readAll (size : Nat) :
    (steps : Nat) -> State -> List Char -> Except Fault State
  | 0, _, _ => .error .unclosedGroup
  | steps + 1, state, chars => do
      match <- skipBlanks state.flags chars with
      | [] => return state
      | '|' :: rest => readAll size steps state.branch rest
      | '(' :: rest =>
          let (state, rest) <- readGroupStart state rest
          readAll size steps state rest
      | ')' :: rest =>
          let (state, rest) <- readGroupEnd state rest
          readAll size steps state rest
      | chars =>
          let (state, rest) <- readPiece size state chars
          readAll size steps state rest

/-- A pattern that has been read. -/
structure Reading where
  tree : Tree
  /-- The number of its capturing groups. -/
  groups : Nat
  /-- The groups that it refers to. -/
  referenced : List Nat

/-- Read the text of a pattern.  All groups must be closed, and all groups
that are referred to must exist. -/
def read (text : List Char) : Except Fault Reading := do
  let size := Text.size text
  let state <- readAll size (2 * text.length + 1) {} text
  match state.outer with
  | _ :: _ => .error .unclosedGroup
  | [] =>
      let tree <- state.content
      if state.referenced.any fun group => group = 0 || state.groups < group then
        .error .unknownGroup
      else
        return ⟨tree.bare, state.groups, state.referenced⟩

end Reader
end Pattern
end FencedHighlight
