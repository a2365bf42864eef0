import FencedHighlight.GrammarFile.Definition

namespace FencedHighlight
namespace Builtin

/-!
The built-in grammar for HTML and XML.
-/

def markup : GrammarFile where
  name := "markup"
  rules := [
    ("comment", [
      .plain { pattern := some "<!--(?:(?!<!--)[\\s\\S])*?-->", greedy := true }]),
    ("prolog", [.plain { pattern := some "<\\?[\\s\\S]+?\\?>" }]),
    ("doctype", [
      .plain { pattern := some "(?i)<!DOCTYPE(?:[^>\"'\\[\\]]|\"[^\"]*\"|'[^']*')*>"
               greedy := true }]),
    ("cdata", [.plain { pattern := some "(?i)<!\\[CDATA\\[[\\s\\S]*?\\]\\]>" }]),
    ("tag", [
      .inline { pattern := some "</?(?!\\d)[^\\s>/=$<%]+(?:\\s(?:\\s*[^\\s>/=]+(?:\\s*=\\s*(?:\"[^\"]*\"|'[^']*'|[^\\s'\">=]+(?=[\\s>]))|(?=[\\s/>])))+)?\\s*/?>"
                greedy := true } [
          ("tag", [
            .inline { pattern := some "^</?[^\\s>/]+" } [
                ("punctuation", [.plain { pattern := some "^</?" }]),
                ("namespace", [.plain { pattern := some "^[^\\s>/:]+:" }])]]),
          ("attr-value", [
            .inline { pattern := some "=\\s*(?:\"[^\"]*\"|'[^']*'|[^\\s'\">=]+)" } [
                ("punctuation", [.plain { pattern := some "^=|(?<==)[\"']|[\"']$" }])]]),
          ("punctuation", [.plain { pattern := some "/?>" }]),
          ("attr-name", [
            .inline { pattern := some "[^\\s>/=]+" } [
                ("namespace", [.plain { pattern := some "^[^\\s>/:]+:" }])]])]]),
    ("entity", [
      .plain { pattern := some "(?i)&[\\da-z]\x7b1,8\x7d;" },
      .plain { pattern := some "(?i)&#x?[\\da-f]\x7b1,8\x7d;" }])]

end Builtin
end FencedHighlight
