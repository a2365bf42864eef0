import FencedHighlight.Toml.Value

namespace FencedHighlight
namespace Toml
namespace Scalar

/-!
Values that are written without quotes or brackets: truth values, numbers and
moments in time.
-/

/-- Whether the text continues a run of digits, given whether a digit stands
just before it. -/
def continuesRun (isDigit : Char -> Bool) : (afterDigit : Bool) -> List Char -> Bool
  | afterDigit, [] => afterDigit
  | afterDigit, char :: rest =>
      if char = '_' then afterDigit && continuesRun isDigit false rest
      else isDigit char && continuesRun isDigit true rest

/-- Whether the text is a run of digits in which underscores stand between
digits only. -/
def isDigitRun (isDigit : Char -> Bool) (chars : List Char) : Bool :=
  continuesRun isDigit false chars

/-- The value of the digits in a run, in some base. -/
def runValue (base : Nat) (chars : List Char) : Nat :=
  chars.foldl
    (fun value char =>
      if char = '_' then value
      else
        let digit :=
          if char.isDigit then char.toNat - '0'.toNat
          else if char.isUpper then char.toNat - 'A'.toNat + 10
          else char.toNat - 'a'.toNat + 10
        value * base + digit)
    0

def sign (chars : List Char) : Bool × List Char :=
  match chars with
  | '-' :: rest => (true, rest)
  | '+' :: rest => (false, rest)
  | _ => (false, chars)

/-- Whether the text is a decimal number without a sign and without a zero in
front. -/
def isDecimal (chars : List Char) : Bool :=
  isDigitRun Char.isDigit chars &&
    (chars.length == 1 || chars.head? != some '0')

def largest : Nat :=
  Nat.pow 2 63 - 1

/-- Read an integer.  Only decimal ones may have a sign. -/
def integer? (chars : List Char) : Option Int :=
  let based (base : Nat) (isDigit : Char -> Bool) (digits : List Char) : Option Int :=
    let value := runValue base digits
    if isDigitRun isDigit digits && value ≤ largest then some value else none
  match chars with
  | '0' :: 'x' :: digits =>
      based 16 (fun char => char.isDigit ||
        ('a' ≤ char && char ≤ 'f') || ('A' ≤ char && char ≤ 'F')) digits
  | '0' :: 'o' :: digits => based 8 (fun char => '0' ≤ char && char ≤ '7') digits
  | '0' :: 'b' :: digits => based 2 (fun char => char = '0' || char = '1') digits
  | _ =>
      let (negative, digits) := sign chars
      let value := runValue 10 digits
      if !isDecimal digits then none
      else if negative then
        if value ≤ largest + 1 then some (-value) else none
      else if value ≤ largest then some value
      else none

/-- Whether `digits · 10 ^ exponent` is too large for a binary number of double
precision: at least half a unit above the largest one. -/
def overflows (digits : Nat) (exponent : Int) : Bool :=
  let bound := Nat.pow 2 1024 - Nat.pow 2 970
  if digits = 0 then false
  else if 400 < exponent then true
  else if 0 ≤ exponent then bound ≤ digits * Nat.pow 10 exponent.toNat
  else if (digits.log2 : Int) < 1000 then false
  else bound * Nat.pow 10 (-exponent).toNat ≤ digits

/-- Whether the text is a number with a fraction, an exponent, or the name of
infinity or of no number.  A positive number must not be too large. -/
def isFloat (chars : List Char) : Bool :=
  let (negative, chars) := sign chars
  if chars = ['i', 'n', 'f'] || chars = ['n', 'a', 'n'] then
    true
  else
    let isMark (char : Char) : Bool := char = 'e' || char = 'E'
    let whole := chars.takeWhile fun char => char != '.' && !isMark char
    let (fraction, rest) := match chars.drop whole.length with
      | '.' :: rest =>
          let fraction := rest.takeWhile fun char => !isMark char
          (some fraction, rest.drop fraction.length)
      | rest => (none, rest)
    let exponent := match rest with
      | [] => none
      | _ :: exponent => some exponent
    let exponentSign := sign (exponent.getD [])
    let written := isDecimal whole && (fraction.isSome || exponent.isSome) &&
      fraction.all (isDigitRun Char.isDigit) &&
      exponent.all (fun exponent => isDigitRun Char.isDigit (sign exponent).2)
    let fractionDigits := (fraction.getD []).filter (· != '_')
    let power : Int := runValue 10 exponentSign.2
    let digits := runValue 10 (whole ++ fractionDigits)
    let scale := (if exponentSign.1 then -power else power) - fractionDigits.length
    written && (negative || !overflows digits scale)

/-! ## Moments -/

def digits? (count : Nat) (chars : List Char) : Option (Nat × List Char) :=
  let digits := chars.take count
  if digits.length = count && digits.all Char.isDigit then
    some (runValue 10 digits, chars.drop count)
  else
    none

/-- Read a fixed number of digits whose value lies between two bounds. -/
def field? (count least most : Nat) (chars : List Char) : Option (Nat × List Char) := do
  let (value, rest) <- digits? count chars
  if least ≤ value && value ≤ most then some (value, rest) else none

def mark? (mark : Char) (chars : List Char) : Option (List Char) :=
  match chars with
  | char :: rest => if char = mark then some rest else none
  | [] => none

def daysOf (year month : Nat) : Nat :=
  if month = 2 then
    if year % 4 = 0 && (year % 100 != 0 || year % 400 = 0) then 29 else 28
  else if [4, 6, 9, 11].contains month then 30
  else 31

def date? (chars : List Char) : Option (List Char) := do
  let (year, chars) <- digits? 4 chars
  let chars <- mark? '-' chars
  let (month, chars) <- field? 2 1 12 chars
  let chars <- mark? '-' chars
  let (_, chars) <- field? 2 1 (daysOf year month) chars
  return chars

/-- Read a time of day.  A minute may have a leap second. -/
def time? (chars : List Char) : Option (List Char) := do
  let (_, chars) <- field? 2 0 23 chars
  let chars <- mark? ':' chars
  let (_, chars) <- field? 2 0 59 chars
  let chars <- mark? ':' chars
  let (_, chars) <- field? 2 0 60 chars
  match chars with
  | '.' :: rest =>
      let fraction := rest.takeWhile Char.isDigit
      if fraction.isEmpty then none else some (rest.drop fraction.length)
  | _ => return chars

/-- Read the distance to universal time, if it is given. -/
def offset? (chars : List Char) : Option (List Char) :=
  match chars with
  | 'z' :: rest | 'Z' :: rest => some rest
  | '+' :: rest | '-' :: rest => do
      let (_, rest) <- field? 2 0 23 rest
      let rest <- mark? ':' rest
      let (_, rest) <- field? 2 0 59 rest
      return rest
  | _ => some chars

/-- Whether the text is a date, a time, or both, then possibly with the
distance to universal time. -/
def isMoment (chars : List Char) : Bool :=
  match date? chars with
  | some [] => true
  | some (mark :: rest) =>
      (mark = 'T' || mark = 't' || mark = ' ') &&
        ((time? rest).bind offset?) == some []
  | none => time? chars == some []

/-- Whether the text is a date, after which a time may follow a blank. -/
def isDate (chars : List Char) : Bool :=
  date? chars == some []

/-- The usual form of a fraction of a second: at most nine digits, of which the
last is no zero. -/
def usualFraction (digits : List Char) : List Char :=
  let kept := ((digits.take 9).reverse.dropWhile (· == '0')).reverse
  if kept.isEmpty then [] else '.' :: kept

/-- The usual form of the distance to universal time.  No distance has no
minus sign. -/
def usualOffset : List Char -> List Char
  | 'z' :: rest => 'Z' :: rest
  | '-' :: rest =>
      if rest.all fun char => char == '0' || char == ':' then '+' :: rest
      else '-' :: rest
  | chars => chars

/-- The usual form of a time, possibly with a distance to universal time. -/
def usualTime (chars : List Char) : List Char :=
  chars.take 8 ++
    match chars.drop 8 with
    | '.' :: rest =>
        let digits := rest.takeWhile Char.isDigit
        usualFraction digits ++ usualOffset (rest.drop digits.length)
    | rest => usualOffset rest

/-- The usual form of a moment.  A capital letter joins a date and a time. -/
def usualMoment (chars : List Char) : List Char :=
  if isDate (chars.take 10) then
    match chars.drop 10 with
    | [] => chars
    | _ :: time => chars.take 10 ++ 'T' :: usualTime time
  else
    usualTime chars

/-- Read a value that is written without quotes or brackets. -/
def read? (chars : List Char) : Option Value :=
  if chars = ['t', 'r', 'u', 'e'] then some (.boolean true)
  else if chars = ['f', 'a', 'l', 's', 'e'] then some (.boolean false)
  else if isMoment chars then some (.moment (String.ofList (usualMoment chars)))
  else
    match integer? chars with
    | some value => some (.integer value)
    | none => if isFloat chars then some .float else none

end Scalar
end Toml
end FencedHighlight
