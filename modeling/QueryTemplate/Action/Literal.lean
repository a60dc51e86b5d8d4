import QueryTemplate.Number
import QueryTemplate.Number.Decimal
import QueryTemplate.Text.CodePoint
import QueryTemplate.Text.Name

/-!
# Literals

Strings in double quotes with escapes, raw strings in backquotes, character constants in single quotes, which are
numbers, and numbers. A number is first read as a spelling (`numberSpelling`) and then evaluated (`Number.ofSpelling?`);
a spelling without a value is malformed and not something else.
-/

namespace QueryTemplate

namespace Reader

/-- A letter or mark that stands for a character after a backslash. -/
def namedEscape (letter c : Char) : Reader Char := do
  let _ ← char letter
  return c

/-- A letter, and as many hexadecimal digits of a code point as belong to it. -/
def hexEscape (letter : Char) (count : Nat) : Reader Char := do
  let _ ← char letter
  hexChar count

/-- Three octal digits of a code point. -/
def octalEscape : Reader Char :=
  mapOption (exactly (fun c => '0' ≤ c && c ≤ '7') 3) (charOfDigits? 8)

end Reader

/-- A form of what follows the backslash of an escape. -/
inductive EscapeForm where
  | named (letter c : Char)
  | hex (letter : Char) (count : Nat)
  | octal

namespace EscapeForm

def reader : EscapeForm → Reader Char
  | .named letter c => Reader.namedEscape letter c
  | .hex letter count => Reader.hexEscape letter count
  | .octal => Reader.octalEscape

/-- The forms in the order in which they are tried. -/
def all : List EscapeForm :=
  [.named 'n' '\n', .named 't' '\t', .named 'r' '\r', .named 'a' '\x07', .named 'b' '\x08', .named 'f' '\x0c',
    .named 'v' '\x0b', .named '\\' '\\', .named '"' '"', .named '\'' '\'', .hex 'x' 2, .hex 'u' 4, .hex 'U' 8, .octal]

end EscapeForm

namespace Reader

/-- What follows the backslash of an escape: a letter or mark, two, four or eight hexadecimal digits after `x`, `u` or
`U`, or three octal digits. -/
def escape : Reader Char :=
  firstOf (EscapeForm.all.map EscapeForm.reader)

/-- A character of a string in double quotes. The string may not end with its line or with the text. -/
def stringChar : Reader Char
  | [] => .fail []
  | c :: rest =>
    if c = '\n' then .fail (c :: rest)
    else if c = '"' then .miss (c :: rest)
    else if c = '\\' then escape rest
    else .done c rest

/-- A string in double quotes. -/
def quotedString : Reader String := do
  let _ ← char '"'
  let cs ← many stringChar
  let _ ← char '"'
  return String.ofList cs

/-- A string in backquotes, taken as it stands but for carriage returns. -/
def rawString : Reader String := do
  let _ ← char '`'
  let cs ← takeWhile (· != '`')
  let _ ← char '`'
  return String.ofList (cs.filter (· != '\r'))

/-- A string of either kind. -/
def stringLiteral : Reader String :=
  firstOf [quotedString, rawString]

/-- The character of a character constant. -/
def constantChar : Reader Char :=
  firstOf [
    do let _ ← char '\\'; escape,
    satisfy fun c => c != '\\' && c != '\'' && c != '\n']

/-- A character in single quotes. -/
def charConstant : Reader Char := do
  let _ ← char '\''
  let c ← constantChar
  let _ ← char '\''
  return c

/-- At least one digit. -/
def digits : Reader (List Char) := do
  let first ← satisfy Char.isDigit
  let more ← takeWhile Char.isDigit
  return first :: more

/-- Digits that may be separated by underscores, which do not come first. -/
def separatedDigits : Reader (List Char) := do
  let first ← satisfy Char.isDigit
  let more ← takeWhile fun c => c.isDigit || c == '_'
  return first :: more

/-- An optional sign. -/
def sign : Reader (Option Char) :=
  optional (satisfy fun c => c == '+' || c == '-')

/-- An integer with a radix prefix. Any hexadecimal digits may follow, and none have to. -/
def prefixedInteger : Reader (List Char) := do
  let zero ← char '0'
  let radix ← satisfy fun c => "xXoObB".toList.contains c
  let more ← takeWhile fun c => isHexDigit c || c == '_'
  return zero :: radix :: more

/-- Digits before a point, and perhaps digits after it. -/
def wholeMantissa : Reader (List Char) := do
  let whole ← separatedDigits
  let fraction ← optional do
    let point ← char '.'
    let more ← takeWhile Char.isDigit
    return point :: more
  return whole ++ fraction.getD []

/-- Digits after a point. -/
def fractionMantissa : Reader (List Char) := do
  let point ← char '.'
  let more ← digits
  return point :: more

/-- An exponent of ten. -/
def exponentPart : Reader (List Char) := do
  let e ← satisfy fun c => c == 'e' || c == 'E'
  let s ← sign
  let more ← digits
  return e :: s.toList ++ more

/-- A decimal number. -/
def decimal : Reader (List Char) := do
  let mantissa ← firstOf [wholeMantissa, fractionMantissa]
  let exponent ← optional exponentPart
  return mantissa ++ exponent.getD []

/-- The spelling of a number. No name may continue it. -/
def numberSpelling : Reader (List Char) := do
  let s ← sign
  let magnitude ← firstOf [prefixedInteger, decimal]
  notNext isNameChar
  return s.toList ++ magnitude

end Reader

namespace Number

/-- The number that a decimal stands for: an integer if it is a whole number in the signed range, else the nearest
floating-point number. -/
def ofDecimal (d : Decimal) (negative : Bool) : Number :=
  let x := d.toBinary64 negative
  match x.toInt? with
  | some n => if Int64.minValue.toInt ≤ n ∧ n ≤ Int64.maxValue.toInt then .int (Int64.ofInt n) else .float x
  | none => .float x

/-- The number with a sign and a magnitude. Below zero it has to be a signed integer of 128 bits and then of 64 bits; otherwise
it is a signed integer of 64 bits if it fits, else an unsigned one. -/
def narrowed? (negative : Bool) (magnitude : Nat) : Option Number :=
  if negative then do
    let n ← int128? magnitude
    (int64? (-n)).map .int
  else
    match int64? magnitude with
    | some n => some (.int n)
    | none => (uint64? magnitude).map .uint

/-- The number with a sign and digits in a radix. The digits have to write an unsigned integer of 128 bits. -/
def ofDigits? (negative : Bool) (radix : Nat) (digits : List Char) : Option Number := do
  let magnitude ← uint128? (← readDigits? radix digits)
  narrowed? negative magnitude

/-- The radix that a letter after a leading zero means. -/
def prefixRadix? (c : Char) : Option Nat :=
  if c = 'x' ∨ c = 'X' then some 16
  else if c = 'o' ∨ c = 'O' then some 8
  else if c = 'b' ∨ c = 'B' then some 2
  else none

/-- The number that is written in decimal: an integer unless it has a point or an exponent. -/
def ofDecimalText? (negative : Bool) (body : List Char) : Option Number :=
  if body.any fun c => c == '.' || c == 'e' || c == 'E' then
    (Decimal.read? body).map fun d => ofDecimal d negative
  else ofDigits? negative 10 body

/-- The number that is written without underscores and after its sign. A leading zero before more digits means octal. -/
def ofMagnitude? (negative : Bool) (body : List Char) : Option Number :=
  match body with
  | zero :: c :: rest =>
    if zero = '0' then
      match prefixRadix? c with
      | some radix => ofDigits? negative radix rest
      | none =>
        if (c :: rest).all Char.isDigit then ofDigits? negative 8 (c :: rest) else ofDecimalText? negative body
    else ofDecimalText? negative body
  | _ => ofDecimalText? negative body

/-- The number that a spelling stands for. Underscores separate digits and mean nothing. -/
def ofSpelling? (spelling : List Char) : Option Number :=
  match spelling.filter (· != '_') with
  | c :: body =>
    if c = '-' then ofMagnitude? true body
    else if c = '+' then ofMagnitude? false body
    else ofMagnitude? false (c :: body)
  | [] => none

end Number

namespace Reader

/-- A number with its spelling. A spelling without a value fails. -/
def number : Reader (List Char × Number) :=
  fun s =>
    match numberSpelling s with
    | .done spelling rest =>
      match Number.ofSpelling? spelling with
      | some value => .done (spelling, value) rest
      | none => .fail s
    | .miss place => .miss place
    | .fail place => .fail place

end Reader

end QueryTemplate
