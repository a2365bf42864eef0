import FencedHighlight.Pattern.Program
import FencedHighlight.Text
import Std.Data.HashSet

namespace FencedHighlight
namespace Pattern
namespace Machine

/-!
The matching machine.

The machine follows a program from a position of the text.  At a fork it takes
the preferred way and keeps the other one as a choice; where it cannot go on, it
retreats to the choice kept last.

Settled parts are followed on their own.  No fork of theirs is taken twice at
one position, since a second attempt would fail like the first, so the work
stays proportional to the text.  In the rest of a program groups, counters and
barriers may make attempts differ; there the machine gives up after a fixed
number of retreats, and keeps only so many choices.

Positions count characters, not bytes.
-/

/-- The text of a search, and the position at which the search began. -/
structure Hay where
  chars : Array Char
  searchStart : Nat

/-- The positions and counts that have been noted. -/
abbrev Slots := Array (Option Nat)

/-- Where a run stands.  Each barrier is the number of choices kept at it. -/
structure Moment where
  place : Nat
  position : Nat
  slots : Slots
  barriers : List Nat := []

/-- What an instruction makes of a moment. -/
inductive Move where
  | go (moment : Moment)
  /-- Go on with the first moment, and keep the second as a choice. -/
  | fork (first second : Moment)
  /-- Go on with this many choices only. -/
  | cut (kept : Nat) (moment : Moment)
  /-- Forget the choices up to the one for a place, and retreat. -/
  | abandon (place : Nat)
  | retreat
  | finish
  /-- End the search without a match. -/
  | giveUp

/-- The number of retreats after which a run gives up. -/
def retreatLimit : Nat := 1000000

/-- The number of choices that may be kept. -/
def choiceLimit : Nat := 1000000

def Slots.read (slots : Slots) (slot : Nat) : Option Nat :=
  slots[slot]?.join

def Slots.write (slots : Slots) (slot value : Nat) : Slots :=
  slots.setIfInBounds slot (some value)

def Slots.blank (count : Nat) : Slots :=
  Array.replicate count none

namespace Hay

/-- Whether a character of a word stands at a position. -/
def isWordAt (hay : Hay) (position : Nat) : Bool :=
  hay.chars[position]?.any CharClass.word.contains

/-- Whether a character of a word stands just before a position. -/
def isWordBefore (hay : Hay) (position : Nat) : Bool :=
  0 < position && hay.isWordAt (position - 1)

def isLineFeedAt (hay : Hay) (position : Nat) : Bool :=
  hay.chars[position]? == some '\n'

def holds (hay : Hay) (position : Nat) : Anchor -> Bool
  | .textStart => position == 0
  | .textEnd => position == hay.chars.size
  | .lineStart => position == 0 || hay.isLineFeedAt (position - 1)
  | .lineEnd => position == hay.chars.size || hay.isLineFeedAt position
  | .lastLineEnd => (hay.chars.extract position hay.chars.size).all (· == '\n')
  | .wordBoundary => hay.isWordBefore position != hay.isWordAt position
  | .notWordBoundary => hay.isWordBefore position == hay.isWordAt position
  | .wordStart => !hay.isWordBefore position && hay.isWordAt position
  | .wordEnd => hay.isWordBefore position && !hay.isWordAt position
  | .wordStartHalf => !hay.isWordBefore position
  | .wordEndHalf => !hay.isWordAt position

/-- Whether a text begins with another one up to case. -/
def beginsUpToCase : (wanted text : Text) -> Bool
  | [], _ => true
  | _ :: _, [] => false
  | first :: wanted, second :: text =>
      Unicode.sameUpToCase first second && beginsUpToCase wanted text

/-- Whether a text occurs in another one up to case. -/
def occursUpToCase (wanted : Text) : (text : Text) -> Bool
  | [] => beginsUpToCase wanted []
  | char :: rest => beginsUpToCase wanted (char :: rest) || occursUpToCase wanted rest

/-- Whether a text stands for another one of the same size up to case.  An
ASCII text must agree with it letter by letter.  In any other text it is enough
that the other one occurs somewhere. -/
def repeatsUpToCase (first second : Text) : Bool :=
  first == second ||
    if second.all (·.toNat < 0x80) then
      first.all (·.toNat < 0x80) && beginsUpToCase first second
    else
      occursUpToCase first second

/-- The position after a second occurrence of the text between `start` and
`stop`.  Both occurrences take up the same number of bytes. -/
def repeat? (hay : Hay) (start stop position : Nat) (anyCase : Bool) :
    Option Nat := do
  let first := (hay.chars.extract start stop).toList
  let size := Text.size first
  let (second, _) <- Text.cut? (hay.chars.extract position (position + size)).toList size
  let repeats := if anyCase then repeatsUpToCase first second else first == second
  if start ≤ stop && repeats then some (position + second.length) else none

end Hay

/-! ## Settled parts -/

/-- Carry out an instruction that involves no choice.  Nothing is taken at or
after the position `limit`. -/
def advance? (hay : Hay) (limit : Nat) (moment : Moment) :
    Instruction -> Option Moment
  | .take member next =>
      if moment.position < limit && hay.chars[moment.position]?.any member.contains then
        some { moment with place := next, position := moment.position + 1 }
      else
        none
  | .takeBack member next =>
      if 0 < moment.position && hay.chars[moment.position - 1]?.any member.contains then
        some { moment with place := next, position := moment.position - 1 }
      else
        none
  | .check kind next =>
      if hay.holds moment.position kind then some { moment with place := next } else none
  | .mark slot next =>
      some { moment with place := next, slots := moment.slots.write slot moment.position }
  | .clear slot next =>
      some { moment with place := next, slots := moment.slots.setIfInBounds slot none }
  | .goTo slot next =>
      (moment.slots.read slot).map fun position => { moment with place := next, position }
  | .goBack count next =>
      if count ≤ moment.position then
        some { moment with place := next, position := moment.position - count }
      else
        none
  | .again group anyCase next => do
      let start <- moment.slots.read (2 * group)
      let stop <- moment.slots.read (2 * group + 1)
      let position <- hay.repeat? start stop moment.position anyCase
      return { moment with place := next, position }
  | .isSet group next =>
      if (moment.slots.read (2 * group)).isSome then some { moment with place := next }
      else none
  | .reset slot next =>
      some { moment with place := next, slots := moment.slots.write slot 0 }
  | _ => none

/-- Follow a settled part to its end.  The forks that have been taken are known
by their places and positions. -/
def follow (code : Array Instruction) (hay : Hay) (limit : Nat) :
    (steps : Nat) -> (seen : Std.HashSet Nat) -> Moment -> List Moment -> Option Moment
  | 0, _, _, _ => none
  | steps + 1, seen, moment, choices =>
      let retreat (_ : Unit) : Option Moment :=
        match choices with
        | [] => none
        | choice :: choices => follow code hay limit steps seen choice choices
      match code[moment.place]? with
      | none => none
      | some .accept => some moment
      | some (.fork first second) =>
          let key := moment.place * (hay.chars.size + 1) + moment.position
          if seen.contains key then
            retreat ()
          else
            follow code hay limit steps (seen.insert key) { moment with place := first }
              ({ moment with place := second } :: choices)
      | some instruction =>
          match advance? hay limit moment instruction with
          | some moment => follow code hay limit steps seen moment choices
          | none => retreat ()

/-- Follow a settled part from a place, within the steps that it takes to enter
each of its forks at each position and to go on from there. -/
def settle? (code : Array Instruction) (hay : Hay) (limit entry : Nat)
    (moment : Moment) : Option Moment :=
  let forks := (code.size + 1) * (hay.chars.size + 2)
  follow code hay limit (2 * forks * (code.size + 1)) ∅ { moment with place := entry } []

/-! ## Programs -/

/-- Begin a round of a loop, or leave the loop: when it has had its rounds, or
when one of them beyond the least number has taken nothing. -/
def beginRound (moment : Moment) (loop : Loop) (entry next : Nat) : Move :=
  let rounds := (moment.slots.read loop.counter).getD 0
  let idle := loop.guard.any fun slot =>
    loop.least < rounds && moment.slots.read slot == some moment.position
  if loop.most == some rounds || idle then
    .go { moment with place := next }
  else
    let slots := moment.slots.write loop.counter (rounds + 1)
    if rounds < loop.least then
      .go { moment with place := entry, slots }
    else
      let slots := match loop.guard with
        | some slot => slots.write slot moment.position
        | none => slots
      let another := { moment with place := entry, slots }
      let finish := { moment with place := next, slots }
      if loop.greedy then .fork another finish else .fork finish another

/-- What to do at a moment, when a number of choices is kept. -/
def move (code : Array Instruction) (hay : Hay) (kept : Nat) (moment : Moment) : Move :=
  let goFrom (next : Nat) (arrived : Option Moment) : Move :=
    match arrived with
    | some arrived => .go { arrived with place := next }
    | none => .retreat
  match code[moment.place]? with
  | none => .retreat
  | some .accept => .finish
  | some (.fork first second) =>
      .fork { moment with place := first } { moment with place := second }
  | some (.searchStart decisive next) =>
      if moment.position ≤ hay.searchStart then .go { moment with place := next }
      else if decisive then .giveUp
      else .retreat
  | some (.settle entry next) =>
      goFrom next (settle? code hay hay.chars.size entry moment)
  | some (.behind entry forward next) =>
      goFrom next do
        let start <- settle? code hay hay.chars.size entry moment
        match forward with
        | some forward => settle? code hay moment.position forward start
        | none => return start
  | some (.barrier next) =>
      .go { moment with place := next, barriers := kept :: moment.barriers }
  | some (.cut next) =>
      match moment.barriers with
      | barrier :: barriers => .cut barrier { moment with place := next, barriers }
      | [] => .go { moment with place := next }
  | some (.abandon place) => .abandon place
  | some (.round loop entry next) => beginRound moment loop entry next
  | some instruction =>
      match advance? hay hay.chars.size moment instruction with
      | some moment => .go moment
      | none => .retreat

/-- The choices after the first one for a place, with their number. -/
def choicesAfter (place : Nat) : (kept : Nat) -> List Moment -> Nat × List Moment
  | kept, choice :: choices =>
      if choice.place = place then (kept - 1, choices)
      else choicesAfter place (kept - 1) choices
  | kept, [] => (kept, [])

/-- Run a program from a moment.  `left` is the number of retreats that are
left, `kept` the number of choices.  The number of steps is bounded in advance;
a run that needs more finds nothing. -/
def run (code : Array Instruction) (hay : Hay) :
    (steps left : Nat) -> Moment -> (kept : Nat) -> List Moment -> Option Slots
  | 0, _, _, _, _ => none
  | steps + 1, left, moment, kept, choices =>
      let retreat (kept : Nat) (choices : List Moment) : Option Slots :=
        match left, choices with
        | left + 1, choice :: choices =>
            run code hay steps left choice (kept - 1) choices
        | _, _ => none
      match move code hay kept moment with
      | .go moment => run code hay steps left moment kept choices
      | .fork first second =>
          if kept < choiceLimit then
            run code hay steps left first (kept + 1) (second :: choices)
          else
            none
      | .cut fewer moment =>
          run code hay steps left moment fewer (choices.drop (kept - fewer))
      | .abandon place =>
          let (kept, choices) := choicesAfter place kept choices
          retreat kept choices
      | .retreat => retreat kept choices
      | .finish => some moment.slots
      | .giveUp => none

/-- A number of steps within which a run has to retreat too often. -/
def stepLimit (program : Program) (hay : Hay) : Nat :=
  (retreatLimit + 1) * (program.code.size + 1) * (hay.chars.size + 2)

/-- The slots of the match and of some groups at the end of a search.  A match
that begins after its end is taken to begin there. -/
def closeMatch (groups : Nat) (slots : Slots) : Slots :=
  let slots : Slots := slots.take (2 * groups + 2)
  match slots.read 0, slots.read 1 with
  | some start, some stop => if stop < start then slots.write 0 stop else slots
  | _, _ => slots

/-- The slots after the first match of a program at or after a position, or
nothing if there is none or the machine gives up. -/
def search? (program : Program) (chars : Array Char) (start : Nat) : Option Slots :=
  let hay : Hay := ⟨chars, start⟩
  let moment : Moment :=
    { place := program.entry, position := start, slots := .blank program.slots }
  let found :=
    if program.regular then
      (settle? program.code hay chars.size program.entry moment).map Moment.slots
    else
      run program.code hay (stepLimit program hay) retreatLimit moment 0 []
  found.map (closeMatch program.groups)

end Machine
end Pattern
end FencedHighlight
