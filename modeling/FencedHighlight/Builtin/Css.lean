import FencedHighlight.GrammarFile.Definition

namespace FencedHighlight
namespace Builtin

/-!
The built-in grammar for style sheets.
-/

def css : GrammarFile where
  name := "css"
  rules := [
    ("comment", [.plain { pattern := some "/\\*[\\s\\S]*?\\*/" }]),
    ("atrule", [
      .inline { pattern := some "@[\\w-](?:[^;\x7b\\s\"']|\\s+(?!\\s)|\"(?:\\\\[\\s\\S]|[^\"\\\\\\r\\n])*\"|'(?:\\\\[\\s\\S]|[^'\\\\\\r\\n])*')*?(?:;|(?=\\s*\\\x7b))" } [
          ("rule", [.plain { pattern := some "^@[\\w-]+" }]),
          ("keyword", [.plain { pattern := some "\\b(?:and|not|only|or)\\b" }]),
          ("punctuation", [.plain { pattern := some "[(),;:]" }])]]),
    ("url", [
      .plain { pattern := some "(?i)\\burl\\((?:\"(?:\\\\[\\s\\S]|[^\"\\\\\\r\\n])*\"|'(?:\\\\[\\s\\S]|[^'\\\\\\r\\n])*'|(?:[^\\\\\\r\\n()\"']|\\\\[\\s\\S])*)\\)"
               greedy := true }]),
    ("selector", [
      .plain { pattern := some "(^|[\x7b\x7d\\s])[^\x7b\x7d\\s](?:[^\x7b\x7d;\"'\\s]|\\s+(?![\\s\x7b])|\"(?:\\\\[\\s\\S]|[^\"\\\\\\r\\n])*\"|'(?:\\\\[\\s\\S]|[^'\\\\\\r\\n])*')*(?=\\s*\\\x7b)"
               lookbehind := true }]),
    ("string", [
      .plain { pattern := some "([\"'])(?:\\\\(?:\\r\\n|[\\s\\S])|(?!\\1)[^\\\\\\r\\n])*\\1"
               greedy := true }]),
    ("property", [
      .plain { pattern := some "(^|[^-\\w])[-_a-zA-Z][-\\w]*(?=\\s*:)"
               lookbehind := true }]),
    ("important", [.plain { pattern := some "(?i)!important\\b" }]),
    ("function", [
      .plain { pattern := some "(^|[^-a-zA-Z0-9])[-a-zA-Z0-9]+(?=\\()"
               lookbehind := true }]),
    ("punctuation", [.plain { pattern := some "[()\x7b\x7d;:,]" }])]

end Builtin
end FencedHighlight
