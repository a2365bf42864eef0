import FencedHighlight.Unicode.Hidden

namespace FencedHighlight
namespace QuotedText

/-!
Texts in double quotes.

Quotes and backslashes are escaped, and so is whatever would not show as a
character of its own: controls, separators other than the blank, unassigned
characters, and those that extend the character before them.
-/

/-- The escape for a character by its code in hexadecimal digits. -/
def codeEscape (char : Char) : List Char :=
  ['\\', 'u', '{'] ++ Nat.toDigits 16 char.toNat ++ ['}']

def encodeChar (char : Char) : List Char :=
  match char with
  | '\x00' => ['\\', '0']
  | '\t' => ['\\', 't']
  | '\n' => ['\\', 'n']
  | '\r' => ['\\', 'r']
  | '"' => ['\\', '"']
  | '\\' => ['\\', '\\']
  | _ => if Unicode.hidden.contains char then codeEscape char else [char]

def encode (text : String) : String :=
  String.ofList ('"' :: text.toList.flatMap encodeChar ++ ['"'])

end QuotedText
end FencedHighlight
