import FencedHighlight.Pattern.Search

namespace FencedHighlight
namespace Pattern
namespace Machine

/-!
Searches that can be evaluated in a proof.

The forks that have been taken are kept in a hash table, whose arrangement depends on the
machine.  A search depends on it only so far as a fork is in it or not, so it might as well
be a list, with which the search for a regular pattern can be evaluated.
-/

/-- Follow a settled part to its end, with the forks that have been taken in a list. -/
def followListed (code : Array Instruction) (hay : Hay) (limit : Nat) :
    (steps : Nat) -> (seen : List Nat) -> Moment -> List Moment -> Option Moment
  | 0, _, _, _ => none
  | steps + 1, seen, moment, choices =>
      let retreat (_ : Unit) : Option Moment :=
        match choices with
        | [] => none
        | choice :: choices => followListed code hay limit steps seen choice choices
      match code[moment.place]? with
      | none => none
      | some .accept => some moment
      | some (.fork first second) =>
          let key := moment.place * (hay.chars.size + 1) + moment.position
          if seen.contains key then
            retreat ()
          else
            followListed code hay limit steps (key :: seen) { moment with place := first }
              ({ moment with place := second } :: choices)
      | some instruction =>
          match advance? hay limit moment instruction with
          | some moment => followListed code hay limit steps seen moment choices
          | none => retreat ()

variable {code : Array Instruction} {hay : Hay} {limit : Nat}

theorem follow_eq_followListed {steps : Nat} {seen : Std.HashSet Nat} {listed : List Nat}
    (same : ∀ key, seen.contains key = listed.contains key) (moment : Moment)
    (choices : List Moment) :
    follow code hay limit steps seen moment choices =
      followListed code hay limit steps listed moment choices := by
  induction steps generalizing seen listed moment choices with
  | zero => rfl
  | succ steps ih =>
      simp only [follow, followListed, same]
      cases code[moment.place]? with
      | none => rfl
      | some instruction =>
          cases instruction with
          | accept => rfl
          | fork first second =>
              simp only
              split
              · cases choices with
                | nil => rfl
                | cons choice choices => exact ih same choice choices
              · refine ih (fun key => ?_) _ _
                rw [Std.HashSet.contains_insert, List.contains_cons, same, Bool.beq_comm]
          | _ =>
              simp only
              generalize advance? hay limit moment _ = advanced
              cases advanced with
              | some next => exact ih same next choices
              | none =>
                  cases choices with
                  | nil => rfl
                  | cons choice choices => exact ih same choice choices

/-- The slots after a search for a regular program, with the forks in a list. -/
def searchListed? (program : Program) (chars : Array Char) (start : Nat) : Option Slots :=
  let forks := (program.code.size + 1) * (chars.size + 2)
  let moment : Moment :=
    { place := program.entry, position := start, slots := .blank program.slots }
  (followListed program.code ⟨chars, start⟩ chars.size (2 * forks * (program.code.size + 1)) []
    moment []).map fun found => closeMatch program.groups found.slots

theorem search?_eq_searchListed? {program : Program} (regular : program.regular = true)
    (chars : Array Char) (start : Nat) :
    search? program chars start = searchListed? program chars start := by
  have same (key : Nat) : (∅ : Std.HashSet Nat).contains key = List.contains [] key :=
    Std.HashSet.contains_empty
  simp only [search?, if_pos regular, settle?, follow_eq_followListed same, searchListed?,
    Option.map_map]
  rfl

end Machine

deriving instance DecidableEq for Found

/-- A search with the forks of a regular program in a list. -/
def searchListed? (pattern : Pattern) (text : Text) (start : Nat) : Option Found :=
  match pattern with
  | literal wanted => (literal wanted).search? text start
  | compiled _ program => do
      let slots <-
        if program.regular then
          Machine.searchListed? program text.toArray (Text.indexOf text start)
        else
          Machine.search? program text.toArray (Text.indexOf text start)
      let group (index : Nat) : Option Span := do
        let first <- slots.read (2 * index)
        let last <- slots.read (2 * index + 1)
        return ⟨Text.offsetOf text first, Text.offsetOf text last⟩
      let span <- group 0
      return ⟨span, group 1⟩

theorem search?_eq_searchListed? (pattern : Pattern) :
    pattern.search? = pattern.searchListed? := by
  funext text start
  cases pattern with
  | literal wanted => rfl
  | compiled source program =>
      rw [search?, searchListed?]
      split
      · rename_i regular
        rw [Machine.search?_eq_searchListed? regular]
      · rfl

/-- The slots after a search, if the pattern is a regular one. -/
def regularSlots? (pattern : Pattern) (text : Text) (start : Nat) : Option Machine.Slots :=
  match pattern with
  | literal _ => none
  | compiled _ program =>
      if program.regular then
        Machine.searchListed? program text.toArray (Text.indexOf text start)
      else
        none

theorem search?_of_regularSlots? {pattern : Pattern} {text : Text} {start first last : Nat}
    {slots : Machine.Slots} (ends : pattern.regularSlots? text start = some slots)
    (opens : slots.read 0 = some first) (closes : slots.read 1 = some last) :
    pattern.search? text start = some
      { span := ⟨Text.offsetOf text first, Text.offsetOf text last⟩
        firstGroup := (slots.read 2).bind fun first => (slots.read 3).map fun last =>
          ⟨Text.offsetOf text first, Text.offsetOf text last⟩ } := by
  unfold regularSlots? at ends
  split at ends
  · cases ends
  · split at ends
    · rename_i source program regular
      rw [← Machine.search?_eq_searchListed? regular] at ends
      simp only [search?, ends, bind, Option.bind_some, opens, closes, pure, Option.map_eq_bind]
      rfl
    · cases ends

end Pattern
end FencedHighlight
