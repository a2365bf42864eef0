import FencedHighlight.Pattern.Arrangement

namespace FencedHighlight
namespace Pattern

/-!
Programs for the matching machine.

A program is an array of instructions, each naming those that may follow it.
Trees are compiled from the end to the start, so that the place where matching
goes on is always known.  The settled parts of a tree form small programs of
their own, each with an end.
-/

/-- The bounds of a loop that counts its rounds. -/
structure Loop where
  /-- The slot that counts the rounds. -/
  counter : Nat
  /-- The slot that holds the position where the round before began, in a loop
  that ends when a round has taken nothing. -/
  guard : Option Nat
  least : Nat
  most : Option Nat
  greedy : Bool

/-- One instruction.  A field `next` is the place of the following one. -/
inductive Instruction where
  /-- The end of a program or of a settled part. -/
  | accept
  /-- Take a character of a class. -/
  | take (member : CharClass) (next : Nat)
  /-- Step back over a character of a class. -/
  | takeBack (member : CharClass) (next : Nat)
  | check (kind : Anchor) (next : Nat)
  /-- Try `first`, and if that fails, `second`. -/
  | fork (first second : Nat)
  /-- Write the position into a slot. -/
  | mark (slot next : Nat)
  | clear (slot next : Nat)
  /-- Return to the position in a slot. -/
  | goTo (slot next : Nat)
  /-- Step back by a number of characters. -/
  | goBack (count next : Nat)
  /-- Take what a group has matched once more. -/
  | again (group : Nat) (anyCase : Bool) (next : Nat)
  /-- Only if a group has taken part. -/
  | isSet (group next : Nat)
  /-- Only where the search began.  If `decisive`, the search fails elsewhere. -/
  | searchStart (decisive : Bool) (next : Nat)
  /-- Match the settled part that begins at `entry`. -/
  | settle (entry next : Nat)
  /-- Match the settled part that begins at `entry` from here to the left, and
  then, to find its groups, the one at `forward` from there to the right. -/
  | behind (entry : Nat) (forward : Option Nat) (next : Nat)
  /-- Note which choices are open. -/
  | barrier (next : Nat)
  /-- Forget the choices made since the last barrier, and the barrier. -/
  | cut (next : Nat)
  /-- Forget the choices up to the one for a place, and that one, and fail. -/
  | abandon (place : Nat)
  /-- Start to count in a slot. -/
  | reset (slot next : Nat)
  /-- Begin a round of a loop, or leave it. -/
  | round (loop : Loop) (entry next : Nat)

/-- A program under construction: its instructions and the number of slots
that they use. -/
structure Assembly where
  code : Array Instruction
  slots : Nat

/-- A way to compile a part that leads to a place.  The answer names the place
where the part begins. -/
abbrev Compilation := (next : Nat) -> Assembly -> Assembly × Nat

namespace Assembly

def add (assembly : Assembly) (instruction : Instruction) : Assembly × Nat :=
  let place := assembly.code.size
  ({ assembly with code := assembly.code.push instruction }, place)

/-- Put an instruction in the place of another one. -/
def fill (assembly : Assembly) (place : Nat) (instruction : Instruction) :
    Assembly :=
  { assembly with code := assembly.code.setIfInBounds place instruction }

def freshSlot (assembly : Assembly) : Assembly × Nat :=
  ({ assembly with slots := assembly.slots + 1 }, assembly.slots)

end Assembly

/-- A fork that prefers another round, or prefers to end. -/
def Instruction.forkRound (greedy : Bool) (round finish : Nat) : Instruction :=
  if greedy then fork round finish else fork finish round

namespace Tree

/-! ## Rounds and groups -/

/-- Compile the same part several times in a row. -/
def compileRounds (round : Compilation) : (rounds : Nat) -> Compilation
  | 0, next, assembly => (assembly, next)
  | rounds + 1, next, assembly =>
      let (assembly, start) := round next assembly
      compileRounds round rounds start assembly

/-- Compile up to a number of optional rounds before those at `later`, each
leading to `next` when it is left out. -/
def compileOptional (round : Compilation) (greedy : Bool) (next : Nat) :
    (rounds later : Nat) -> Assembly -> Assembly × Nat
  | 0, later, assembly => (assembly, later)
  | rounds + 1, later, assembly =>
      let (assembly, entry) := round later assembly
      let (assembly, start) := assembly.add (.forkRound greedy entry next)
      compileOptional round greedy next rounds start assembly

/-- Compile one or more rounds.  The fork after each round gets its place
before the round is compiled, and is filled in afterwards.  The answer holds
the entry of the round and the place of the fork. -/
def compileLoop (round : Compilation) (greedy : Bool) (next : Nat)
    (assembly : Assembly) : Assembly × Nat × Nat :=
  let (assembly, loop) := assembly.add .accept
  let (assembly, entry) := round loop assembly
  (assembly.fill loop (.forkRound greedy entry next), entry, loop)

def compileCounted (round : Compilation) (guarded : Bool) (least : Nat)
    (most : Option Nat) (greedy : Bool) : Compilation := fun next assembly =>
  let (assembly, counter) := assembly.freshSlot
  let (assembly, guard) :=
    if guarded then
      let (assembly, slot) := assembly.freshSlot
      (assembly, some slot)
    else
      (assembly, none)
  let (assembly, head) := assembly.add .accept
  let (assembly, entry) := round head assembly
  let loop : Loop := { counter, guard, least, most, greedy }
  (assembly.fill head (.round loop entry next)).add (.reset counter head)

def compileGroup (part : Compilation) (index : Nat) : Compilation :=
  fun next assembly =>
    let (assembly, finish) := assembly.add (.mark (2 * index + 1) next)
    let (assembly, start) := part finish assembly
    assembly.add (.mark (2 * index) start)

/-! ## Settled parts -/

/-- Compile a regular tree that is matched to the right or to the left; to the
left it has no groups.  A loop over rounds that may be empty is an option of one
or more rounds: each of its forks is then entered at most once at any
position. -/
def compileRegular (leftward : Bool) : Tree -> Compilation
  | one member _, next, assembly =>
      assembly.add (if leftward then .takeBack member next else .take member next)
  | anchor kind, next, assembly => assembly.add (.check kind next)
  | seq first second, next, assembly =>
      if leftward then
        let (assembly, middle) := first.compileRegular leftward next assembly
        second.compileRegular leftward middle assembly
      else
        let (assembly, middle) := second.compileRegular leftward next assembly
        first.compileRegular leftward middle assembly
  | either first second, next, assembly =>
      let (assembly, later) := second.compileRegular leftward next assembly
      let (assembly, sooner) := first.compileRegular leftward next assembly
      assembly.add (.fork sooner later)
  | scope body, next, assembly | settled body, next, assembly =>
      body.compileRegular leftward next assembly
  | group index body, next, assembly =>
      if leftward then body.compileRegular leftward next assembly
      else compileGroup (body.compileRegular leftward) index next assembly
  | repeated least most greedy body, next, assembly =>
      let round := body.compileRegular leftward
      match settledBounds least most body with
      | (least, some most) =>
          let (assembly, optional) :=
            compileOptional round greedy next (most - least) next assembly
          compileRounds round least optional assembly
      | (0, none) =>
          let (assembly, entry, loop) := compileLoop round greedy next assembly
          if 0 < body.leastLength then (assembly, loop)
          else assembly.add (.forkRound greedy entry next)
      | (least + 1, none) =>
          let (assembly, entry, _) := compileLoop round greedy next assembly
          compileRounds round least entry assembly
  | _, next, assembly => (assembly, next)

def compileClears (groups : List Nat) : Compilation := fun next assembly =>
  groups.foldl
    (fun (assembly, next) index =>
      let (assembly, next) := assembly.add (.clear (2 * index + 1) next)
      assembly.add (.clear (2 * index) next))
    (assembly, next)

/-- Compile a regular tree as a part to be settled.  Of its groups only those
that take part this time have a position. -/
def compileSettled (body : Tree) : Compilation := fun next assembly =>
  let (assembly, finish) := assembly.add .accept
  let (assembly, entry) := body.compileRegular false finish assembly
  let (assembly, settle) := assembly.add (.settle entry next)
  compileClears body.groups settle assembly

/-- Compile a regular tree that is matched to the left, and once more to the
right if it has groups. -/
def compileBehind (body : Tree) : Compilation := fun next assembly =>
  let (assembly, finish) := assembly.add .accept
  let (assembly, entry) := body.compileRegular true finish assembly
  let (assembly, forward) :=
    if body.groups.isEmpty then
      (assembly, none)
    else
      let (assembly, forward) := body.compileRegular false finish assembly
      (assembly, some forward)
  let (assembly, start) := assembly.add (.behind entry forward next)
  compileClears body.groups start assembly

/-! ## Arranged trees -/

/-- Compile a look-around.  One that is wanted returns to where it began; one
that is not is left through the choice that it opens. -/
def compileLook (wanted : Bool) (examine : Compilation) : Compilation :=
  fun next assembly =>
    if wanted then
      let (assembly, slot) := assembly.freshSlot
      let (assembly, finish) := assembly.add (.goTo slot next)
      let (assembly, start) := examine finish assembly
      assembly.add (.mark slot start)
    else
      let (assembly, finish) := assembly.add (.abandon next)
      let (assembly, start) := examine finish assembly
      assembly.add (.fork start next)

/-- Compile an arranged tree.  A loop without an upper bound need not count its
rounds if they take something and at most one is asked for. -/
def compile : Tree -> Compilation
  | empty, next, assembly => (assembly, next)
  | one member _, next, assembly => assembly.add (.take member next)
  | anchor kind, next, assembly => assembly.add (.check kind next)
  | again index anyCase _ _, next, assembly =>
      assembly.add (.again index anyCase next)
  | isSet index, next, assembly => assembly.add (.isSet index next)
  | beginHere, next, assembly => assembly.add (.mark 0 next)
  | searchStart decisive, next, assembly =>
      assembly.add (.searchStart decisive next)
  | seq first second, next, assembly =>
      let (assembly, middle) := second.compile next assembly
      first.compile middle assembly
  | either first second, next, assembly =>
      let (assembly, later) := second.compile next assembly
      let (assembly, sooner) := first.compile next assembly
      assembly.add (.fork sooner later)
  | scope body, next, assembly => body.compile next assembly
  | group index body, next, assembly =>
      compileGroup body.compile index next assembly
  | repeated least most greedy body, next, assembly =>
      let round := body.compile
      match least, most with
      | 0, some 1 =>
          let (assembly, entry) := round next assembly
          assembly.add (.forkRound greedy entry next)
      | least, some most =>
          compileCounted round false least (some most) greedy next assembly
      | least, none =>
          if body.leastLength = 0 then
            compileCounted round true least none greedy next assembly
          else if least = 0 then
            let (assembly, _, loop) := compileLoop round greedy next assembly
            (assembly, loop)
          else if least = 1 then
            let (assembly, entry, _) := compileLoop round greedy next assembly
            (assembly, entry)
          else
            compileCounted round false least none greedy next assembly
  | look .ahead wanted body, next, assembly =>
      compileLook wanted body.compile next assembly
  | look .behind wanted body, next, assembly =>
      let examine := fun next assembly =>
        if body.hasFixedLength then
          let (assembly, entry) := body.compile next assembly
          assembly.add (.goBack body.leastLength entry)
        else
          body.compileBehind next assembly
      compileLook wanted examine next assembly
  | atomic body, next, assembly =>
      let (assembly, finish) := assembly.add (.cut next)
      let (assembly, start) := body.compile finish assembly
      assembly.add (.barrier start)
  | settled body, next, assembly => compileSettled body next assembly
  | conditional condition yes no, next, assembly =>
      let (assembly, missing) := no.compile next assembly
      let (assembly, present) := yes.compile next assembly
      let (assembly, finish) := assembly.add (.cut present)
      let (assembly, start) := condition.compile finish assembly
      let (assembly, choice) := assembly.add (.fork start missing)
      assembly.add (.barrier choice)

end Tree

/-- A compiled pattern. -/
structure Program where
  code : Array Instruction
  entry : Nat
  /-- The number of slots.  The slots `2 * n` and `2 * n + 1` hold the ends of
  group `n`, where group 0 is the match. -/
  slots : Nat
  /-- The number of capturing groups.  Slots beyond theirs are for loops and
  look-around. -/
  groups : Nat
  /-- Whether the whole search is settled, so that no work on it counts. -/
  regular : Bool

namespace Program

/-- Compile a search for a part: the part is tried at the position where the
search begins, then one character farther on, and so forth. -/
def search (regular : Bool) (groups : Nat) (body : Compilation) : Program :=
  let (assembly, finish) := Assembly.add ⟨#[], 2 * groups + 2⟩ .accept
  let (assembly, start) := body finish assembly
  let (assembly, loop) := assembly.add .accept
  let (assembly, farther) := assembly.add (.take .everything loop)
  let assembly := assembly.fill loop (.fork start farther)
  ⟨assembly.code, loop, assembly.slots, groups, regular⟩

/-- Split a positive look-ahead off the end of a sequence. -/
def splitLookAhead? : Tree -> Option (Tree × Tree)
  | .seq first (.look .ahead true body) => some (first, body)
  | .seq first second =>
      (splitLookAhead? second).map fun (before, body) => (.seq first before, body)
  | _ => none

/-- The tree with the match as group 0.  A look-ahead at the end may as well
take what it sees, since the end of the match has been noted before. -/
def matchTree (tree : Tree) : Tree :=
  match splitLookAhead? tree with
  | some (before, after) => .seq (.group 0 before) after.enclosed
  | none => .group 0 tree

/-- Compile a search for a tree with a number of groups. -/
def ofTree? (tree : Tree) (groups : Nat) (referenced : List Nat) : Option Program :=
  let tree := matchTree tree
  if tree.isRegular referenced then
    if tree.isAdmissible .group then some (search true groups (tree.compileRegular false))
    else none
  else
    let tree := tree.arrange referenced (.part true)
    if tree.isCompilable then some (search false groups tree.compile) else none

end Program

end Pattern
end FencedHighlight
