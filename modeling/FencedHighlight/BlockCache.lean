import FencedHighlight.CodeBlock
import FencedHighlight.StyleRange

namespace FencedHighlight

/-!
A cache of highlighted blocks.

Ranges are kept under the version of the registry and the block that they are
for.  A block has its language, its text and its place, so a change of any of
these, or of a grammar, leads to another entry.
-/

/-- What the ranges of a block depend on. -/
structure BlockKey where
  /-- The version of the registry. -/
  version : Nat
  block : CodeBlock
deriving DecidableEq

/-- The ranges of blocks. -/
structure BlockCache where
  entries : List (BlockKey × List StyleRange) := []

namespace BlockCache

def get? (cache : BlockCache) (key : BlockKey) : Option (List StyleRange) :=
  cache.entries.lookup key

/-- Put ranges under a key, in the place of those that are there. -/
def insert (cache : BlockCache) (key : BlockKey) (ranges : List StyleRange) :
    BlockCache :=
  ⟨(key, ranges) :: cache.entries.filter fun entry => entry.1 != key⟩

def size (cache : BlockCache) : Nat :=
  cache.entries.length

def isEmpty (cache : BlockCache) : Bool :=
  cache.entries.isEmpty

end BlockCache

end FencedHighlight
