import Worksheet.Json.Basic
import Worksheet.Json.Numeral

/- Worksheet JSON Tokens — brackets, separators, strings and scalars.

   `JsonToken.scanAll` splits a text into tokens, with a given way of reading
   numerals, and `JsonToken.write` gives a token its text. Only blanks, tabs and line
   ends may stand between tokens. -/
namespace Worksheet

inductive JsonToken where
  | arrayOpen | arrayClose | objectOpen | objectClose | comma | colon
  /-- A string, or `none` if it holds half of a surrogate pair. -/
  | string (s : Option String)
  /-- A number, a truth value or nothing. -/
  | scalar (value : Json)
  deriving Repr, Inhabited

namespace JsonToken

/-! ## Strings -/

/-- A part of a string: a character as it stands, or the number of an escape. -/
inductive Piece where
  | char (c : Char)
  | code (n : Nat)
  deriving Repr

/-- The character that a letter stands for after a backslash. -/
def escape? : Char → Option Char
  | '"' => some '"'
  | '\\' => some '\\'
  | '/' => some '/'
  | 'b' => some '\x08'
  | 'f' => some '\x0c'
  | 'n' => some '\n'
  | 'r' => some '\r'
  | 't' => some '\t'
  | _ => none

def hexDigit? (c : Char) : Option Nat :=
  if Token.isDigit c then some (c.toNat - 48)
  else if 'a' ≤ c && c ≤ 'f' then some (c.toNat - 87)
  else if 'A' ≤ c && c ≤ 'F' then some (c.toNat - 55)
  else none

/-- The number that four hexadecimal digits denote. -/
def hexCode? (a b c d : Char) : Option Nat := do
  return (((← hexDigit? a) * 16 + (← hexDigit? b)) * 16 + (← hexDigit? c)) * 16 + (← hexDigit? d)

/-- The pieces of a string after its opening quote, and how many characters they
take up with the closing quote. -/
def scanPieces : List Char → Option (List Piece × Nat)
  | [] => none
  | '\\' :: 'u' :: a :: b :: c :: d :: cs => do
    let n ← hexCode? a b c d
    let (ps, count) ← scanPieces cs
    return (.code n :: ps, count + 6)
  | '\\' :: c :: cs => do
    let e ← escape? c
    let (ps, count) ← scanPieces cs
    return (.char e :: ps, count + 2)
  | c :: cs =>
    if c = '"' then some ([], 1)
    else if c = '\\' || c.toNat < 32 then none
    else do
      let (ps, count) ← scanPieces cs
      return (.char c :: ps, count + 1)

def isHighSurrogate (n : Nat) : Bool := 0xD800 ≤ n && n < 0xDC00

def isLowSurrogate (n : Nat) : Bool := 0xDC00 ≤ n && n < 0xE000

/-- The characters of a string; a surrogate has to be half of a pair. -/
def join? : List Piece → Option (List Char)
  | [] => some []
  | .char c :: ps => (join? ps).map (c :: ·)
  | .code n :: ps =>
    if isHighSurrogate n then
      match ps with
      | .code m :: ps =>
        if isLowSurrogate m then
          (join? ps).map (Char.ofNat (0x10000 + (n - 0xD800) * 0x400 + (m - 0xDC00)) :: ·)
        else none
      | _ => none
    else if isLowSurrogate n then none
    else (join? ps).map (Char.ofNat n :: ·)

/-! ## Numbers -/

/-- The integers that are kept as such: those of 64 bits, with or without sign.
A zero with a minus sign is not an integer. -/
def integerRange (negative : Bool) (n : Nat) : Bool :=
  if negative then 0 < n && n ≤ UInt64.size / 2 else n < UInt64.size

/-- The tree of a number that was read, with its sign. A number beyond all numbers
is unreadable. -/
def ofMagnitude (negative : Bool) : Option Float → Json
  | none => .unreadable
  | some x => if x.isFinite then .decimal (if negative then -x else x) else .unreadable

/-- The digits after a point at the start of a text, what follows, and how many
characters they take up with the point. Without a point there are none. -/
def scanFraction : List Char → Option (List Char × List Char × Nat)
  | '.' :: cs =>
    let part := cs.takeWhile Token.isDigit
    if part.isEmpty then none else some (part, cs.dropWhile Token.isDigit, part.length + 1)
  | cs => some ([], cs, 0)

/-- Whether a text starts with a minus sign, what follows its sign, and the length of
the sign. -/
def scanSign : List Char → Bool × List Char × Nat
  | '-' :: cs => (true, cs, 1)
  | '+' :: cs => (false, cs, 1)
  | cs => (false, cs, 0)

/-- The exponent at the start of a text and its length. -/
def scanExponent : List Char → Option (Int × Nat)
  | [] => some (0, 0)
  | c :: cs =>
    if c = 'e' || c = 'E' then
      let (negative, cs, signLength) := scanSign cs
      let digits := cs.takeWhile Token.isDigit
      let n : Int := Token.digitsValue digits
      if digits.isEmpty then none
      else some (if negative then -n else n, digits.length + signLength + 1)
    else some (0, 0)

/-- A number at the start of a text, whose sign is read, and its length: whole
digits without a leading zero, then perhaps a point with digits, then perhaps an
exponent. -/
def scanNumber (reading : NumeralReading) (negative : Bool) (cs : List Char) :
    Option (Json × Nat) := do
  let whole := cs.takeWhile Token.isDigit
  guard (whole = ['0'] || whole.head?.any (· != '0'))
  let (part, rest, partLength) ← scanFraction (cs.dropWhile Token.isDigit)
  let (exponent, exponentLength) ← scanExponent rest
  let n := Token.digitsValue (whole ++ part)
  let length := whole.length + partLength + exponentLength
  if partLength = 0 && exponentLength = 0 && integerRange negative n then
    return (.integer (if negative then -n else n), length)
  else return (ofMagnitude negative (reading ⟨whole, part, exponent⟩), length)

/-! ## Tokens -/

/-- The token at the start of a text and its length. -/
def scan (reading : NumeralReading) (c : Char) (cs : List Char) : Option (JsonToken × Nat) :=
  match c, cs with
  | '[', _ => some (.arrayOpen, 1)
  | ']', _ => some (.arrayClose, 1)
  | '\x7b', _ => some (.objectOpen, 1)
  | '\x7d', _ => some (.objectClose, 1)
  | ',', _ => some (.comma, 1)
  | ':', _ => some (.colon, 1)
  | '"', _ => (scanPieces cs).map fun (ps, n) => (.string ((join? ps).map String.ofList), n + 1)
  | 'n', 'u' :: 'l' :: 'l' :: _ => some (.scalar .null, 4)
  | 't', 'r' :: 'u' :: 'e' :: _ => some (.scalar (.bool true), 4)
  | 'f', 'a' :: 'l' :: 's' :: 'e' :: _ => some (.scalar (.bool false), 5)
  | '-', _ => (scanNumber reading true cs).map fun (v, n) => (.scalar v, n + 1)
  | _, _ => (scanNumber reading false (c :: cs)).map fun (v, n) => (.scalar v, n)

/-- The characters that may stand between tokens. -/
def isSeparator (c : Char) : Bool := c == ' ' || c == '\t' || c == '\n' || c == '\r'

/-- The tokens of a text after its first `skip` characters, which belong to a
token already read. -/
def scanAll (reading : NumeralReading) : Nat → List Char → Option (List JsonToken)
  | _, [] => some []
  | skip + 1, _ :: cs => scanAll reading skip cs
  | 0, c :: cs =>
    if isSeparator c then scanAll reading 0 cs
    else
      match scan reading c cs with
      | none => none
      | some (token, length) => (scanAll reading (length - 1) cs).map (token :: ·)

/-! ## Writing -/

def hexChar (n : Nat) : Char := Nat.digitChar n

/-- A character as it is written inside a string. -/
def escapeChar (c : Char) : List Char :=
  if c = '"' then ['\\', '"']
  else if c = '\\' then ['\\', '\\']
  else if c = '\x08' then ['\\', 'b']
  else if c = '\x0c' then ['\\', 'f']
  else if c = '\n' then ['\\', 'n']
  else if c = '\r' then ['\\', 'r']
  else if c = '\t' then ['\\', 't']
  else if c.toNat < 32 then ['\\', 'u', '0', '0', hexChar (c.toNat / 16), hexChar (c.toNat % 16)]
  else [c]

def writeString (s : String) : List Char := '"' :: s.toList.flatMap escapeChar ++ ['"']

/-- A scalar as it is written. Numbers that are not finite are written `null`,
and so is all that is no scalar. -/
def writeScalar : Json → List Char
  | .bool b => (if b then "true" else "false").toList
  | .integer n => (toString n).toList
  | .decimal x => if x.isFinite then (Layout.interchange.text x).toList else "null".toList
  | _ => "null".toList

/-- A token as it is written. -/
def write : JsonToken → List Char
  | arrayOpen => ['[']
  | arrayClose => [']']
  | objectOpen => ['\x7b']
  | objectClose => ['\x7d']
  | comma => [',']
  | colon => [':']
  | string s => writeString (s.getD "")
  | scalar v => writeScalar v

end JsonToken

end Worksheet
