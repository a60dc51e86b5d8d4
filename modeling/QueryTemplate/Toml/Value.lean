import QueryTemplate.Number.Decimal
import QueryTemplate.Text.CodePoint
import QueryTemplate.Toml

/-!
# Values in TOML documents

Readers for the keys and values of a TOML document: strings in four forms, numbers, dates and times, arrays and inline
tables. Arrays and inline tables stand inside each other at most 79 deep, and a dotted key has at most 79 parts.
-/

namespace QueryTemplate

namespace Toml

open Reader

/-- A space or a tab. -/
def isSpace (c : Char) : Bool :=
  c == ' ' || c == '\t'

/-- A character that may stand in a comment or, unless it ends it, in a string: anything but controls, and the tab. -/
def isPlain (c : Char) : Bool :=
  c == '\t' || (32 ≤ c.toNat && c.toNat != 127)

/-- Spaces and tabs. -/
def spaces : Reader Unit := do
  let _ ← takeWhile isSpace

/-- The end of a line. -/
def newline : Reader Unit :=
  firstOf [text ['\n'], text ['\r', '\n']]

/-- A comment up to the end of its line. -/
def comment : Reader Unit := do
  let _ ← char '#'
  let _ ← takeWhile isPlain

/-- Things of one form with separators between them, at least one. -/
def separated {α : Type} (separator : Reader Unit) (p : Reader α) : Reader (List α) := do
  let first ← p
  let more ← many do
    separator
    p
  return first :: more

/-! ### Strings -/

/-- An escape. -/
def escapedChar : Reader Char := do
  let _ ← char '\\'
  firstOf [
    do let _ ← char 'b'; return '\x08',
    do let _ ← char 't'; return '\t',
    do let _ ← char 'n'; return '\n',
    do let _ ← char 'f'; return '\x0c',
    do let _ ← char 'r'; return '\r',
    char '"',
    char '\\',
    do let _ ← char 'u'; hexChar 4,
    do let _ ← char 'U'; hexChar 8]

/-- A string in double quotes on one line. -/
def basicString : Reader (List Char) := do
  let _ ← char '"'
  let cs ← many (firstOf [satisfy fun c => isPlain c && c != '"' && c != '\\', escapedChar])
  let _ ← char '"'
  return cs

/-- A string in single quotes on one line, without escapes. -/
def literalString : Reader (List Char) := do
  let _ ← char '\''
  let cs ← takeWhile fun c => isPlain c && c != '\''
  let _ ← char '\''
  return cs

/-- One or two quotes inside a string of several lines, which three would end. -/
def quotesInside (quote : Char) : Reader (List Char) :=
  fun s =>
    let quotes := s.takeWhile (· == quote)
    if quotes.length = 0 ∨ 2 < quotes.length then .miss s else .done quotes (s.dropWhile (· == quote))

/-- The end of a string of several lines: three quotes, before which up to two more belong to the string. -/
def quotesAtEnd (quote : Char) : Reader (List Char) :=
  fun s =>
    let count := (s.takeWhile (· == quote)).length
    if 3 ≤ count ∧ count ≤ 5 then .done (List.replicate (count - 3) quote) (s.dropWhile (· == quote)) else .miss s

/-- A backslash at the end of a line, with the white space that it joins. -/
def lineJoin : Reader (List Char) := do
  let _ ← char '\\'
  spaces
  newline
  let _ ← many (firstOf [do let _ ← satisfy isSpace, newline])
  return []

/-- A string of several lines between three quotes; a line end right after the first three is left out. -/
def multiline (quote : Char) (part : Reader (List Char)) : Reader (List Char) := do
  text [quote, quote, quote]
  let _ ← optional newline
  let parts ← many (firstOf [do newline; return ['\n'], part, quotesInside quote])
  let last ← quotesAtEnd quote
  return parts.flatten ++ last

/-- A string in any of the four forms. -/
def quotedText : Reader (List Char) :=
  firstOf [
    multiline '"' (firstOf [
      do let c ← satisfy fun c => isPlain c && c != '"' && c != '\\'; return [c],
      lineJoin,
      do let c ← escapedChar; return [c]]),
    basicString,
    multiline '\'' (do let c ← satisfy fun c => isPlain c && c != '\''; return [c]),
    literalString]

/-! ### Keys -/

/-- A key without dots. -/
def simpleKey : Reader String := do
  let cs ← firstOf [
    basicString,
    literalString,
    do
      let isBare := fun (c : Char) => c.isAlphanum || c == '-' || c == '_'
      let first ← satisfy isBare
      let more ← takeWhile isBare
      return first :: more]
  return String.ofList cs

/-- A key, as the parts between its dots. -/
def key : Reader (List String) := do
  let parts ← separated (do let _ ← char '.') do
    spaces
    let part ← simpleKey
    spaces
    return part
  if parts.length < 80 then return parts else fun s => .fail s

/-! ### Numbers -/

/-- Digits of a class with single underscores between them. -/
def groupedDigits (isDigit : Char → Bool) : Reader (List Char) := do
  let first ← satisfy isDigit
  let more ← many (firstOf [satisfy isDigit, do let _ ← char '_'; satisfy isDigit])
  return first :: more

/-- An optional sign: whether it is a minus. -/
def minus : Reader Bool := do
  let sign ← optional (satisfy fun c => c == '+' || c == '-')
  return sign == some '-'

/-- The digits of a decimal integer, without superfluous zeros. -/
def wholeDigits : Reader (List Char) :=
  firstOf [
    do
      let first ← satisfy fun c => c.isDigit && c != '0'
      let more ← many (firstOf [satisfy Char.isDigit, do let _ ← char '_'; satisfy Char.isDigit])
      return first :: more,
    do let c ← satisfy Char.isDigit; return [c]]

/-- A signed integer of 64 bits. -/
def signed (negative : Bool) (radix : Nat) (digits : List Char) : Option Toml := do
  let n ← readDigits? radix digits
  let value : Int := if negative then -n else n
  if Int64.minValue.toInt ≤ value ∧ value ≤ Int64.maxValue.toInt then some (.integer value) else none

/-- An integer after a radix prefix. -/
def prefixed (letter : Char) (radix : Nat) : Reader Toml := do
  text ['0', letter]
  let digits ← groupedDigits fun c => (digitBelow? radix c).isSome
  ofOption (signed false radix digits)

/-- A decimal integer. -/
def decimalInteger : Reader Toml := do
  let negative ← minus
  let digits ← wholeDigits
  ofOption (signed negative 10 digits)

/-- An exponent of ten. -/
def exponent : Reader (List Char) := do
  let e ← satisfy fun c => c == 'e' || c == 'E'
  let sign ← optional (satisfy fun c => c == '+' || c == '-')
  let digits ← groupedDigits Char.isDigit
  return e :: sign.toList ++ digits

/-- A fraction. -/
def fraction : Reader (List Char) := do
  let point ← char '.'
  let digits ← groupedDigits Char.isDigit
  return point :: digits

/-- A number with a fraction or an exponent. It may not be too large for a float. -/
def decimalFloat : Reader Toml := do
  let negative ← minus
  let whole ← wholeDigits
  let rest ← firstOf [
    exponent,
    do
      let after ← fraction
      let e ← optional exponent
      return after ++ e.getD []]
  ofOption do
    let x := (← Decimal.read? (whole ++ rest)).toBinary64 negative
    if x == .ofPattern false Binary64.infinityPattern then none else some (.float x)

/-- An infinity or a NaN. -/
def specialFloat : Reader Toml := do
  let negative ← minus
  let pattern ← firstOf [
    do text ['i', 'n', 'f']; return Binary64.infinityPattern,
    do text ['n', 'a', 'n']; return Binary64.infinityPattern + (1 <<< 51)]
  return .float (.ofPattern negative pattern)

/-! ### Dates and times -/

/-- A number of exactly `count` digits. -/
def fixedDigits (count : Nat) : Reader Nat := do
  let digits ← exactly Char.isDigit count
  ofOption (readDigits? 10 digits)

/-- A number of two digits between two bounds. -/
def twoDigits (least most : Nat) : Reader Unit := do
  let n ← fixedDigits 2
  if least ≤ n && n ≤ most then return () else fun s => .miss s

/-- The number of days of a month. -/
def daysIn (year month : Nat) : Nat :=
  if month = 2 then if year % 4 = 0 ∧ (year % 100 ≠ 0 ∨ year % 400 = 0) then 29 else 28
  else if month = 4 ∨ month = 6 ∨ month = 9 ∨ month = 11 then 30
  else 31

/-- A date of the calendar. -/
def date : Reader Unit := do
  let year ← fixedDigits 4
  let _ ← char '-'
  let month ← fixedDigits 2
  let _ ← char '-'
  let day ← fixedDigits 2
  if 1 ≤ month && month ≤ 12 && 1 ≤ day && day ≤ daysIn year month then return () else fun s => .miss s

/-- A time of day, with seconds. -/
def time : Reader Unit := do
  twoDigits 0 23
  let _ ← char ':'
  twoDigits 0 59
  let _ ← char ':'
  twoDigits 0 60
  let _ ← optional do
    let _ ← char '.'
    let _ ← satisfy Char.isDigit
    takeWhile Char.isDigit

/-- The offset of a time zone. -/
def zone : Reader Unit :=
  firstOf [
    do let _ ← satisfy fun c => c == 'Z' || c == 'z',
    do
      let _ ← satisfy fun c => c == '+' || c == '-'
      twoDigits 0 23
      let _ ← char ':'
      twoDigits 0 59]

/-- A date, a date with a time, or a time. -/
def dateOrTime : Reader Toml := do
  let (_, spelling) ← withSpelling (firstOf [
    do
      date
      let _ ← optional do
        let _ ← satisfy fun c => c == 'T' || c == 't' || c == ' '
        time
        optional zone,
    time])
  return .moment (String.ofList spelling)

/-! ### Values -/

/-- What may stand between the elements of an array: white space, line ends and comments. -/
def arraySpace : Reader Unit := do
  let _ ← many (firstOf [do let _ ← satisfy isSpace, newline, do comment; newline])

/-- An array of values. -/
def arrayOf (value : Reader Toml) : Reader Toml := do
  let _ ← char '['
  arraySpace
  let items ← optional do
    let items ← separated (do let _ ← char ',') do
      arraySpace
      let item ← value
      arraySpace
      return item
    let _ ← optional (char ',')
    return items
  arraySpace
  let _ ← char ']'
  return .array (items.getD [])

/-- A table in braces. -/
def inlineTableOf (value : Reader Toml) : Reader Toml := do
  let _ ← char '{'
  spaces
  let pairs ← optional (separated (do let _ ← char ',') do
    let path ← key
    let _ ← char '='
    spaces
    let item ← value
    spaces
    return (path, item))
  spaces
  let _ ← char '}'
  ofOption ((pairs.getD []).foldlM (fun t (path, item) => assignPath path item t) (.table .inline []))

/-- A value that is no array or table. -/
def scalar : Reader Toml :=
  firstOf [
    do let s ← quotedText; return .string (String.ofList s),
    do text ['t', 'r', 'u', 'e']; return .boolean true,
    do text ['f', 'a', 'l', 's', 'e']; return .boolean false,
    dateOrTime,
    decimalFloat,
    specialFloat,
    prefixed 'x' 16,
    prefixed 'o' 8,
    prefixed 'b' 2,
    decimalInteger]

/-- A value with arrays and tables inside each other up to a depth. -/
def valueWithin : Nat → Reader Toml
  | 0 => scalar
  | depth + 1 => fun s =>
    firstOf [scalar, arrayOf fun inner => valueWithin depth inner, inlineTableOf fun inner => valueWithin depth inner] s

/-- A value. -/
def value : Reader Toml :=
  valueWithin 79

end Toml

end QueryTemplate
