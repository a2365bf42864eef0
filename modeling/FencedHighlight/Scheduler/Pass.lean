import FencedHighlight.BlockCache
import FencedHighlight.Engine

namespace FencedHighlight

/-!
Highlighting passes.

A pass highlights a document as it was when the pass began.  Blocks that the
pass before it has highlighted with the same version of the registry are not
highlighted again.  The new cache holds what this pass has met, and nothing
else.

From time to time a pass looks at the newest revision, and gives up once this is
another one than its own.
-/

/-- What a pass works on, taken at one moment. -/
structure Pass where
  /-- The change of the document that the pass is for. -/
  revision : Nat
  engine : Engine
  registry : Registry
  languages : List String
  document : Text
  /-- The blocks that have been highlighted before. -/
  previous : BlockCache

/-- What passes collect besides ranges. -/
structure PassRecord where
  cache : BlockCache := {}
  /-- The number of blocks that were not in the cache before. -/
  highlighted : Nat := 0
  /-- How often the pass has looked at the newest revision. -/
  looks : Nat := 0

/-- What a pass has computed. -/
structure PassResult where
  ranges : List StyleRange
  record : PassRecord

/-- Why a pass has no result. -/
inductive PassStop where
  /-- It is about to look at the newest revision. -/
  | looking
  /-- A later change has been made. -/
  | superseded
  /-- It has come to a broken span. -/
  | broken
deriving DecidableEq

/-- The newest revision at each look, as far as the looks have been made. -/
abbrev Looks := Nat -> Option Nat

namespace Pass

def key (pass : Pass) (block : CodeBlock) : BlockKey :=
  ⟨pass.registry.version, block⟩

/-- Look at the newest revision, and go on if it is still that of the pass. -/
def look (pass : Pass) (looks : Looks) (record : PassRecord) :
    Except PassStop PassRecord :=
  match looks record.looks with
  | none => .error .looking
  | some newest =>
      if newest = pass.revision then
        .ok { record with looks := record.looks + 1 }
      else
        .error .superseded

/-- The ranges of one block, and the record with the block. -/
def runBlock (pass : Pass) (record : PassRecord) (block : CodeBlock) :
    Except HighlightError (PassRecord × List StyleRange) :=
  let key := pass.key block
  match pass.previous.get? key with
  | some ranges => .ok ({ record with cache := record.cache.insert key ranges }, ranges)
  | none =>
      match pass.engine.highlightBlock pass.registry pass.document block with
      | .ok ranges =>
          .ok ({ record with
              cache := record.cache.insert key ranges
              highlighted := record.highlighted + 1 }, ranges)
      | .error fault => .error fault

/-- The ranges of some blocks of one language, with a look before each of them.
If a block cannot be highlighted, there are none for the language, but the
record keeps the blocks before it. -/
def runBlocks (pass : Pass) (looks : Looks) (record : PassRecord) :
    List CodeBlock ->
      Except PassStop (PassRecord × Except HighlightError (List StyleRange))
  | [] => .ok (record, .ok [])
  | block :: rest => do
      let record <- pass.look looks record
      match pass.runBlock record block with
      | .error fault => return (record, .error fault)
      | .ok (record, ranges) => do
          let (record, result) <- runBlocks pass looks record rest
          return (record, result.map fun others => ranges ++ others)

/-- The ranges of all blocks of some languages, unsorted.  A broken span ends
the pass, while any other failure loses no more than its language. -/
def runLanguages (pass : Pass) (looks : Looks) (record : PassRecord) :
    (languages : List String) -> Except PassStop (PassRecord × List StyleRange)
  | [] => .ok (record, [])
  | language :: rest => do
      let blocks := (pass.engine.scanner language).blocks pass.document
      let (record, result) <- pass.runBlocks looks record blocks
      match HighlightError.skip [] result with
      | .error _ => .error .broken
      | .ok own => do
          let (record, others) <- runLanguages pass looks record rest
          return (record, own ++ others)

/-- Run a pass, as far as the looks go that have been made. -/
def run (pass : Pass) (looks : Looks) : Except PassStop PassResult := do
  let record <- pass.look looks {}
  if pass.engine.enabled then do
    let (record, ranges) <- pass.runLanguages looks record pass.languages
    return ⟨StyleRange.sort ranges, record⟩
  else
    return ⟨[], record⟩

end Pass

end FencedHighlight
