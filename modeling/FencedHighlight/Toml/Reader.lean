import FencedHighlight.Toml.Scalar

namespace FencedHighlight
namespace Toml

/-!
Reading TOML documents.

Every reader takes the rest of the text and returns what it has read together
with what follows.  A text that is not TOML is read as nothing: nobody asks
where it fails.
-/

/-! ## Blanks, lines and comments -/

/-- Whether a character may stand in comments and literal strings. -/
def isPrintable (char : Char) : Bool :=
  char == '\t' || (' ' ≤ char && char != '\x7f')

def skipBlanks (chars : List Char) : List Char :=
  chars.dropWhile fun char => char == ' ' || char == '\t'

/-- The rest of the text after the end of a line. -/
def afterLineEnd? : List Char -> Option (List Char)
  | '\n' :: rest | '\r' :: '\n' :: rest => some rest
  | _ => none

/-- Skip a comment, if there is one, up to the end of its line. -/
def skipComment (chars : List Char) : List Char :=
  match chars with
  | '#' :: rest => rest.dropWhile isPrintable
  | _ => chars

/-- Skip blanks, comments and ends of lines.  Each step takes a character. -/
def skipLines : (steps : Nat) -> List Char -> List Char
  | 0, chars => chars
  | steps + 1, chars =>
      let chars := skipBlanks chars
      match chars with
      | '#' :: _ =>
          let rest := skipComment chars
          match afterLineEnd? rest with
          | some rest => skipLines steps rest
          | none => rest
      | _ =>
          match afterLineEnd? chars with
          | some rest => skipLines steps rest
          | none => chars

/-! ## Strings -/

/-- Add a character to what a reader goes on to read. -/
def prepend (char : Char) (reading : Option (List Char × List Char)) :
    Option (List Char × List Char) :=
  reading.map fun (content, rest) => (char :: content, rest)

/-- The character with the code that some hexadecimal digits give. -/
def codePoint? (digits : List Char) : Option Char :=
  let isHex (char : Char) : Bool :=
    char.isDigit || ('a' ≤ char && char ≤ 'f') || ('A' ≤ char && char ≤ 'F')
  let value := Scalar.runValue 16 digits
  if digits.all isHex then
    if h : value.isValidChar then some (Char.ofNatAux value h) else none
  else
    none

def escaped? : Char -> Option Char
  | 'b' => some '\x08'
  | 't' => some '\t'
  | 'n' => some '\n'
  | 'f' => some '\x0c'
  | 'r' => some '\r'
  | '"' => some '"'
  | '\\' => some '\\'
  | _ => none

/-- Read the rest of a string in double quotes. -/
def readBasic : List Char -> Option (List Char × List Char)
  | [] => none
  | '"' :: rest => some ([], rest)
  | '\\' :: 'u' :: a :: b :: c :: d :: rest => do
      prepend (<- codePoint? [a, b, c, d]) (readBasic rest)
  | '\\' :: 'U' :: a :: b :: c :: d :: e :: f :: g :: h :: rest => do
      prepend (<- codePoint? [a, b, c, d, e, f, g, h]) (readBasic rest)
  | '\\' :: letter :: rest => do prepend (<- escaped? letter) (readBasic rest)
  | char :: rest =>
      if isPrintable char && char != '\\' then prepend char (readBasic rest) else none

/-- Read the rest of a string in single quotes. -/
def readLiteral : List Char -> Option (List Char × List Char)
  | [] => none
  | char :: rest =>
      if char == '\'' then some ([], rest)
      else if isPrintable char then prepend char (readLiteral rest)
      else none

/-- What happens to blanks inside a string of several lines. -/
inductive Trimming where
  | keep
  /-- After a backslash only blanks may stand before the end of the line. -/
  | toLineEnd
  /-- Blanks and ends of lines are dropped. -/
  | drop

/-- The end of a string of several lines: three quotes, before which two more
may belong to the string. -/
def closing? (quote : Char) (chars : List Char) : Option (List Char × List Char) :=
  let quotes := chars.takeWhile (· == quote)
  if 3 ≤ quotes.length then
    some (List.replicate (min (quotes.length - 3) 2) quote,
      chars.drop (min quotes.length 5))
  else
    none

/-- Read the rest of a string of several lines in double quotes. -/
def readLongBasic : Trimming -> List Char -> Option (List Char × List Char)
  | _, [] => none
  | .toLineEnd, '\n' :: rest | .toLineEnd, '\r' :: '\n' :: rest =>
      readLongBasic .drop rest
  | .toLineEnd, char :: rest =>
      if char == ' ' || char == '\t' then readLongBasic .toLineEnd rest else none
  | .drop, ' ' :: rest | .drop, '\t' :: rest | .drop, '\n' :: rest
  | .drop, '\r' :: '\n' :: rest => readLongBasic .drop rest
  | _, '\r' :: '\n' :: rest => prepend '\n' (readLongBasic .keep rest)
  | _, '\\' :: 'u' :: a :: b :: c :: d :: rest => do
      prepend (<- codePoint? [a, b, c, d]) (readLongBasic .keep rest)
  | _, '\\' :: 'U' :: a :: b :: c :: d :: e :: f :: g :: h :: rest => do
      prepend (<- codePoint? [a, b, c, d, e, f, g, h]) (readLongBasic .keep rest)
  | _, '\\' :: char :: rest =>
      match escaped? char with
      | some escaped => prepend escaped (readLongBasic .keep rest)
      | none => readLongBasic .toLineEnd (char :: rest)
  | _, char :: rest =>
      if char == '"' then
        match closing? '"' (char :: rest) with
        | some closed => some closed
        | none => prepend char (readLongBasic .keep rest)
      else if (isPrintable char && char != '\\') || char == '\n' then
        prepend char (readLongBasic .keep rest)
      else
        none

/-- Read the rest of a string of several lines in single quotes. -/
def readLongLiteral : List Char -> Option (List Char × List Char)
  | [] => none
  | '\r' :: '\n' :: rest => prepend '\n' (readLongLiteral rest)
  | char :: rest =>
      if char == '\'' then
        match closing? '\'' (char :: rest) with
        | some closed => some closed
        | none => prepend char (readLongLiteral rest)
      else if isPrintable char || char == '\n' then
        prepend char (readLongLiteral rest)
      else
        none

/-- Drop the end of the line on which a string of several lines begins. -/
def dropFirstLineEnd (chars : List Char) : List Char :=
  (afterLineEnd? chars).getD chars

def readString (chars : List Char) : Option (String × List Char) :=
  let content := match chars with
    | '"' :: '"' :: '"' :: rest => readLongBasic .keep (dropFirstLineEnd rest)
    | '\'' :: '\'' :: '\'' :: rest => readLongLiteral (dropFirstLineEnd rest)
    | '"' :: rest => readBasic rest
    | '\'' :: rest => readLiteral rest
    | _ => none
  content.map fun (content, rest) => (String.ofList content, rest)

/-! ## Keys -/

/-- Whether a character may stand in a key without quotes. -/
def isKeyChar (char : Char) : Bool :=
  char.isAlphanum || char == '_' || char == '-'

def readKeyPart (chars : List Char) : Option (String × List Char) :=
  match chars with
  | '"' :: rest => (readBasic rest).map fun (key, rest) => (String.ofList key, rest)
  | '\'' :: rest => (readLiteral rest).map fun (key, rest) => (String.ofList key, rest)
  | _ =>
      let key := chars.takeWhile isKeyChar
      if key.isEmpty then none else some (String.ofList key, chars.drop key.length)

/-- Tables and arrays may be nested less deeply than this within a value, and
keys have fewer parts. -/
def deepestNesting : Nat := 80

/-- Read a key of some parts that are joined by dots, at most as many as given:
the parts before the last one, and the last one.  Blanks may surround every
part. -/
def readKeyParts :
    (parts : Nat) -> List Char -> Option ((List String × String) × List Char)
  | 0, _ => none
  | parts + 1, chars => do
      let (part, rest) <- readKeyPart (skipBlanks chars)
      match skipBlanks rest with
      | '.' :: rest =>
          let ((path, last), rest) <- readKeyParts parts rest
          return ((part :: path, last), rest)
      | rest => return (([], part), rest)

def readKey (chars : List Char) : Option ((List String × String) × List Char) :=
  readKeyParts (deepestNesting - 1) chars

/-! ## Values -/

/-- Whether a character ends a value without quotes or brackets. -/
def endsScalar (char : Char) : Bool :=
  [' ', '\t', '\n', '\r', '#', ',', ']', '}'].contains char

/-- Read a value without quotes or brackets.  A time may follow its date after
a blank. -/
def readScalar (chars : List Char) : Option (Value × List Char) :=
  let word := chars.takeWhile fun char => !endsScalar char
  let rest := chars.drop word.length
  let (word, rest) := match rest with
    | ' ' :: digit :: more =>
        if Scalar.isDate word && digit.isDigit then
          let time := (digit :: more).takeWhile fun char => !endsScalar char
          (word ++ ' ' :: time, (digit :: more).drop time.length)
        else
          (word, rest)
    | _ => (word, rest)
  (Scalar.read? word).map fun value => (value, rest)

mutual

/-- Read a value.  `depth` counts the arrays and inline tables around it. -/
def readValue : (steps depth : Nat) -> List Char -> Option (Value × List Char)
  | 0, _, _ => none
  | steps + 1, depth, chars =>
      match chars with
      | '"' :: _ | '\'' :: _ =>
          (readString chars).map fun (text, rest) => (.string text, rest)
      | '[' :: rest =>
          if deepestNesting ≤ depth + 1 then none
          else
            (readItems steps (depth + 1) rest).map fun (items, rest) =>
              (.array items, rest)
      | '{' :: rest =>
          if deepestNesting ≤ depth + 1 then none
          else
            match skipBlanks rest with
            | '}' :: rest => some (.table [], rest)
            | rest =>
                (readPairs steps (depth + 1) {} rest).map fun (table, rest) =>
                  (.table table.values, rest)
      | _ => readScalar chars

/-- Read the items of an array and its closing bracket. -/
def readItems : (steps depth : Nat) -> List Char -> Option (List Value × List Char)
  | 0, _, _ => none
  | steps + 1, depth, chars => do
      match skipLines chars.length chars with
      | ']' :: rest => return ([], rest)
      | chars =>
          let (item, rest) <- readValue steps depth chars
          match skipLines rest.length rest with
          | ',' :: rest =>
              let (items, rest) <- readItems steps depth rest
              return (item :: items, rest)
          | ']' :: rest => return ([item], rest)
          | _ => none

/-- Read the entries of an inline table and its closing brace, and add them to
a table.  They stand on one line, and no comma follows the last one. -/
def readPairs : (steps depth : Nat) -> Table -> List Char -> Option (Table × List Char)
  | 0, _, _, _ => none
  | steps + 1, depth, table, chars => do
      let ((path, key), rest) <- readKey chars
      let rest <- Scalar.mark? '=' rest
      let (value, rest) <- readValue steps depth (skipBlanks rest)
      let table <- table.insertValue path key value
      match skipBlanks rest with
      | ',' :: rest => readPairs steps depth table rest
      | '}' :: rest => return (table, rest)
      | _ => none

end

/-! ## Documents -/

/-- A document under construction. -/
structure Document where
  root : Table := {}
  /-- The table that keys are added to. -/
  current : Table := {}
  /-- Where that table belongs; nothing for the root itself. -/
  place : Option (List String × String) := none
  /-- Whether that table is one of an array. -/
  isItem : Bool := false

namespace Document

def settle (document : Document) : Option Table :=
  match document.place with
  | none => some document.current
  | some (path, key) =>
      let current := document.current
      document.root.alter false (fun parent =>
        if document.isItem then
          match parent.get? key with
          | none => some (parent.set key (.tables [current.entries]))
          | some (.tables items) =>
              some (parent.set key (.tables (items ++ [current.entries])))
          | _ => none
        else
          some (parent.set key
            (.table current.implicit current.dotted current.entries))) path

/-- The table that a path leads to, as it is. -/
def tableAt? (dotted : Bool) : (path : List String) -> Table -> Option Table
  | [], table => some table
  | key :: path, table =>
      match table.get? key with
      | none => some { implicit := true, dotted }
      | some (.table implicit isDotted entries) =>
          tableAt? dotted path ⟨implicit, isDotted, entries⟩
      | some (.tables items) => do
          let last <- items.getLast?
          tableAt? dotted path { entries := last }
      | some (.value _) => none

/-- Begin the table that a header names.  Its tables may have come first, but
it must not have been defined.  It moves to the end of the table around it. -/
def beginTable (document : Document) (path : List String) (key : String) :
    Option Document := do
  let root <- document.settle
  let parent <- tableAt? false path root
  let current <- match parent.get? key with
    | none => some {}
    | some (.table true false entries) => some { entries : Table }
    | _ => none
  let root <- root.alter false (fun parent => some (parent.erase key)) path
  return { root, current, place := some (path, key) }

/-- Begin another table of the array that a header names. -/
def beginItem (document : Document) (path : List String) (key : String) :
    Option Document := do
  let root <- document.settle
  let root <- root.alter false (fun parent =>
    match parent.get? key with
    | none => some (parent.set key (.tables []))
    | some (.tables _) => some parent
    | _ => none) path
  return { root, place := some (path, key), isItem := true }

def readLine (document : Document) (chars : List Char) : Option (Document × List Char) :=
  match skipBlanks chars with
  | '[' :: '[' :: rest => do
      let ((path, key), rest) <- readKey rest
      match rest with
      | ']' :: ']' :: rest => return (<- document.beginItem path key, rest)
      | _ => none
  | '[' :: rest => do
      let ((path, key), rest) <- readKey rest
      match rest with
      | ']' :: rest => return (<- document.beginTable path key, rest)
      | _ => none
  | [] => some (document, [])
  | chars =>
      if chars.head? == some '#' || (afterLineEnd? chars).isSome then
        some (document, chars)
      else do
        let ((path, key), rest) <- readKey chars
        let rest <- Scalar.mark? '=' rest
        let (value, rest) <- readValue (rest.length + 1) 0 (skipBlanks rest)
        let current <- document.current.insertValue path key value
        return ({ document with current }, rest)

def readLines : (steps : Nat) -> Document -> List Char -> Option Document
  | 0, _, _ => none
  | steps + 1, document, chars => do
      let (document, rest) <- document.readLine chars
      match skipComment (skipBlanks rest) with
      | [] => return document
      | rest => readLines steps document (<- afterLineEnd? rest)

end Document

/-- Read a document: the entries of its root table, in the order of the text.
A byte order mark at the start is skipped. -/
def parse (text : List Char) : Option (List (String × Value)) := do
  let chars := match text with
    | '\ufeff' :: rest => rest
    | _ => text
  let document <- Document.readLines (chars.length + 1) {} chars
  let root <- document.settle
  return root.values

end Toml
end FencedHighlight
