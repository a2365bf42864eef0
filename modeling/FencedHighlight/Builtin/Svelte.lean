import FencedHighlight.GrammarFile.Definition

namespace FencedHighlight
namespace Builtin

/-!
The built-in grammar for Svelte components.
-/

/-- The grammar of Svelte components: markup with template blocks and expressions. -/
def svelte : GrammarFile where
  name := "svelte"
  base := some "markup"
  rules := [
    ("tag", [
      .inline { pattern := some "</?(?!\\d)[^\\s>/=$<%]+(?:\\s(?:\\s*[^\\s>/=]+(?:\\s*=\\s*(?:\"[^\"]*\"|'[^']*'|[^\\s'\">=]+(?=[\\s>])|\\\x7b[\\s\\S]+?\\\x7d(?=[\\s/>]))|(?=[\\s/>])))+)?\\s*/?>"
                greedy := true } [
          ("tag", [
            .inline { pattern := some "^</?[^\\s>/]+" } [
                ("punctuation", [.plain { pattern := some "^</?" }]),
                ("namespace", [.plain { pattern := some "^[^\\s>/:]+:" }])]]),
          ("language-javascript", [
            .named { opening := some "\\\x7b", closing := some "\\\x7d" } "javascript"]),
          ("attr-value", [
            .inline { pattern := some "=\\s*(?:\"[^\"]*\"|'[^']*'|[^\\s'\">=]+)" } [
                ("punctuation", [.plain { pattern := some "^=|(?<==)[\"']|[\"']$" }]),
                ("entity", [.plain { pattern := some "(?i)&#?[\\da-z]\x7b1,8\x7d;" }])]]),
          ("punctuation", [.plain { pattern := some "/?>" }]),
          ("attr-name", [
            .inline { pattern := some "[^\\s>/=\x7b\x7d]+" } [
                ("namespace", [.plain { pattern := some "^[^\\s>/:]+:" }])]])]]),
    ("each", [
      .inline { opening := some "\\\x7b(?=[#/]each\\b)"
                closing := some "\\\x7d"
                nested := some "\\\x7b"
                greedy := true } [
          ("keyword", [.plain { pattern := some "^[#/]each|\\bas\\b" }]),
          ("language-javascript", [
            .named { pattern := some "\\b(?!as\\b)[^\\s#/][\\s\\S]*?(?=\\s*$|\\s+as\\b)" } "javascript"])]]),
    ("block", [
      .inline { opening := some "\\\x7b(?=[#:/@]\\s*(?:if|else if|else|await|then|catch|each|html|debug|key|const))"
                closing := some "\\\x7d"
                nested := some "\\\x7b"
                greedy := true } [
          ("keyword", [
            .plain { pattern := some "[#:/@](?:if|else if|else|await|then|catch|each|html|debug|key|const) *|\\bas\\b|\\bthen\\b" }]),
          ("language-javascript", [.named { pattern := some "[\\s\\S]+" } "javascript"])]])]
  embeddings := [
    { language := "javascript", opening := some "\\\x7b(?![#:/@])", closing := some "\\\x7d" },
    { language := "css", tag := some "style", before := some "cdata" },
    { language := "javascript", tag := some "script", before := some "cdata" }]

end Builtin
end FencedHighlight
