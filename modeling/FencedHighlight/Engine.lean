import FencedHighlight.CodeBlock
import FencedHighlight.Projection
import FencedHighlight.Registry
import FencedHighlight.Settings

namespace FencedHighlight

/-!
The highlighting engine.

An engine finds the code blocks of a document, tokenizes each of them and
projects the tokens onto the document.  It keeps nothing of a document, so what
it computes depends on its arguments alone.
-/

/-- What the blocks of a document are found and highlighted with. -/
structure Engine where
  fence : String
  anyCase : Bool
  enabled : Bool
  /-- Adjustments of the ranges, in the order in which they are made. -/
  transforms : List RangeTransform

namespace Engine

def ofSettings (settings : Settings) : Engine :=
  { fence := settings.fence
    anyCase := settings.anyCase
    enabled := settings.enabled
    transforms := [RangeTransform.entityTitle] }

/-- The engine with one more adjustment, which is made last. -/
def withTransform (engine : Engine) (transform : RangeTransform) : Engine :=
  { engine with transforms := engine.transforms ++ [transform] }

def withoutTransforms (engine : Engine) : Engine :=
  { engine with transforms := [] }

/-- The scanner for the blocks of a language.  The fence and the language are taken to be short
enough for their pattern to be compiled. -/
def scanner (engine : Engine) (language : String) : FenceScanner :=
  { fence := Text.ofString engine.fence, language, anyCase := engine.anyCase }

/-- Make all adjustments to the ranges of a text. -/
def adjust (engine : Engine) (source : Text) (ranges : List StyleRange) :
    List StyleRange :=
  engine.transforms.foldl (fun ranges transform => transform source ranges) ranges

/-- The ranges of a code in some language, which begins at the offset `base` of
a text that contains it. -/
def highlight (engine : Engine) (registry : Registry) (language : String)
    (code source : Text) (base : Nat) : Except HighlightError (List StyleRange) := do
  let grammar <- registry.lookup language
  let tokens <- registry.tokenize grammar code
  return engine.adjust source (Projection.project tokens base)

def highlightAlone (engine : Engine) (registry : Registry) (language : String)
    (code : Text) : Except HighlightError (List StyleRange) :=
  engine.highlight registry language code code 0

def highlightBlock (engine : Engine) (registry : Registry) (document : Text)
    (block : CodeBlock) : Except HighlightError (List StyleRange) :=
  engine.highlight registry block.language block.raw document block.offset

/-- The ranges of all blocks of a language, one block after the other. -/
def highlightLanguage (engine : Engine) (registry : Registry) (document : Text)
    (language : String) : Except HighlightError (List StyleRange) := do
  let ranges <- ((engine.scanner language).blocks document).mapM
    (engine.highlightBlock registry document)
  return ranges.flatten

/-- The ranges of all blocks of several languages.  A language that cannot be
highlighted contributes nothing, but a broken span loses the whole document. -/
def highlightDocument (engine : Engine) (registry : Registry)
    (languages : List String) (document : Text) :
    Except HighlightError (List StyleRange) :=
  if engine.enabled then do
    let ranges <- languages.mapM fun language =>
      HighlightError.skip [] (engine.highlightLanguage registry document language)
    return StyleRange.sort ranges.flatten
  else
    return []

end Engine

end FencedHighlight
