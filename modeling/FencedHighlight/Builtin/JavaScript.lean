import FencedHighlight.GrammarFile.Definition

namespace FencedHighlight
namespace Builtin

/-!
The built-in grammar for scripts.
-/

def javascript : GrammarFile where
  name := "javascript"
  rules := [
    ("comment", [.plain { pattern := some "(?m)//.*$|/\\*[\\s\\S]*?\\*/", greedy := true }]),
    ("template-string", [
      .plain { pattern := some "`(?:\\\\[\\s\\S]|\\$\\\x7b(?:[^\x7b\x7d]|\\\x7b[^\x7b\x7d]*\\\x7d)*\\\x7d|[^\\\\`$]|\\$(?!\\\x7b))*`"
               synonym := some "string"
               greedy := true }]),
    ("string", [
      .plain { pattern := some "([\"'])(?:\\\\(?:\\r\\n|[\\s\\S])|(?!\\1)[^\\\\\\r\\n])*\\1"
               greedy := true }]),
    ("class-name", [
      .plain { pattern := some "(\\b(?:class|extends|implements|instanceof|new)\\s+)[\\w$]+"
               lookbehind := true }]),
    ("keyword", [
      .plain { pattern := some "\\b(?:as|async|await|break|case|catch|class|const|continue|debugger|default|delete|do|else|export|extends|finally|for|from|function|get|if|import|in|instanceof|let|new|null|of|return|set|static|super|switch|this|throw|try|typeof|undefined|var|void|while|with|yield)\\b" }]),
    ("boolean", [.plain { pattern := some "\\b(?:true|false)\\b" }]),
    ("function", [.plain { pattern := some "[_$a-zA-Z][\\w$]*(?=\\s*\\()" }]),
    ("number", [
      .plain { pattern := some "\\b(?:0[xX][\\da-fA-F]+|0[bB][01]+|0[oO][0-7]+|\\d+(?:\\.\\d+)?(?:[eE][+-]?\\d+)?)\\b" }]),
    ("operator", [
      .plain { pattern := some "--|\\+\\+|\\*\\*=?|=>|&&=?|\\|\\|=?|\\?\\?=?|[!=]==?|[-+*/%&|^!=<>]=?|\\.\x7b3\x7d|[~?:]" }]),
    ("punctuation", [.plain { pattern := some "[\x7b\x7d\\[\\];(),.]" }])]

end Builtin
end FencedHighlight
