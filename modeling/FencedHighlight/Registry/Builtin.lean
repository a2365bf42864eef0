import FencedHighlight.Builtin.Css
import FencedHighlight.Builtin.JavaScript
import FencedHighlight.Builtin.Markup
import FencedHighlight.Builtin.Mips
import FencedHighlight.Builtin.Svelte
import FencedHighlight.Registry.Loading

namespace FencedHighlight
namespace Registry

/-!
The registry with the built-in grammars.
-/

/-- The built-in grammar files; each comes after the one that it extends. -/
def builtinFiles : List GrammarFile :=
  [Builtin.javascript, Builtin.css, Builtin.markup, Builtin.svelte, Builtin.mips]

def withBuiltins : Registry :=
  builtinFiles.foldl (fun registry file => (registry.install file).1) {}

end Registry
end FencedHighlight
