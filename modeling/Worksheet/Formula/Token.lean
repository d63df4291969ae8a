import Worksheet.Number.Layout
import Worksheet.Unicode.Blank

/- Worksheet Tokens — the words of a formula's text.

   A text is split from left to right into tokens, each as long as possible,
   with white space between them. Positions count bytes from the start of the
   whole text. Where no token can be read the stream ends in a fault, which
   matters only to a reader that gets that far. -/
namespace Worksheet

/-- The comparison operators. They are recognised so that they can be refused
by name. -/
inductive Comparison where
  | equal | notEqual | less | lessEqual | greater | greaterEqual
  deriving DecidableEq, Repr

def Comparison.symbol : Comparison → String
  | equal => "="
  | notEqual => "<>"
  | less => "<"
  | lessEqual => "<="
  | greater => ">"
  | greaterEqual => ">="

/-- A token. A word is the name of a function or a cell, or a truth value. -/
inductive Token where
  | number (x : Float)
  | text (s : String)
  | word (name : String)
  | plus | minus | star | slash | caret | percent | comma
  | comparison (op : Comparison)
  | parenOpen | parenClose
  deriving Repr, Inhabited

/-- Why no token can be read. -/
inductive TokenFault where
  | unexpectedChar (c : Char)
  | unterminatedText
  | secondPoint
  deriving DecidableEq, Repr

/-- A text as a stream of tokens with their positions. -/
inductive Tokens where
  | finish (position : Nat)
  | fault (cause : TokenFault) (position : Nat)
  | next (token : Token) (position : Nat) (rest : Tokens)
  deriving Repr, Inhabited

/-- How many tokens a stream holds. -/
def Tokens.length : Tokens → Nat
  | finish _ | fault _ _ => 0
  | next _ _ rest => rest.length + 1

namespace Token

def isDigit (c : Char) : Bool := '0' ≤ c && c ≤ '9'

def isLetter (c : Char) : Bool := ('A' ≤ c && c ≤ 'Z') || ('a' ≤ c && c ≤ 'z')

/-- The characters that words start with. -/
def startsWord (c : Char) : Bool := isLetter c || c == '_'

/-- The characters that words go on with. -/
def continuesWord (c : Char) : Bool := isLetter c || isDigit c || c == '_' || c == '.'

/-- The number that decimal digits denote. -/
def digitsValue (cs : List Char) : Nat := cs.foldl (fun n c => n * 10 + (c.toNat - 48)) 0

/-- The number with the given digits before and after its point. -/
def decimalValue (whole part : List Char) : Float :=
  Decimal.toFloat ⟨digitsValue (whole ++ part), -part.length⟩

/-- A number at the start of a text and its length: digits with at most one
point among them. A second point is a fault at its own place. -/
def scanNumber (cs : List Char) : Except (TokenFault × Nat) (Token × Nat) :=
  let whole := cs.takeWhile isDigit
  match cs.dropWhile isDigit with
  | '.' :: rest =>
    let part := rest.takeWhile isDigit
    let length := whole.length + 1 + part.length
    match rest.dropWhile isDigit with
    | '.' :: _ => .error (.secondPoint, length)
    | _ => .ok (.number (decimalValue whole part), length)
  | _ => .ok (.number (decimalValue whole []), whole.length)

/-- The characters of a string literal after its opening quote, and how many
characters they take up with the closing quote. A backslash stands for the
character after it. -/
def scanText : List Char → Option (List Char × Nat)
  | [] => none
  | ['\\'] => none
  | '\\' :: c :: cs => (scanText cs).map fun (s, n) => (c :: s, n + 2)
  | c :: cs => if c = '"' then some ([], 1) else (scanText cs).map fun (s, n) => (c :: s, n + 1)

/-- The token at the start of a text that does not start with white space, and
its length. A fault comes with the number of characters before it. -/
def scan (c : Char) (cs : List Char) : Except (TokenFault × Nat) (Token × Nat) :=
  match c, cs with
  | '+', _ => .ok (.plus, 1)
  | '-', _ => .ok (.minus, 1)
  | '*', _ => .ok (.star, 1)
  | '/', _ => .ok (.slash, 1)
  | '^', _ => .ok (.caret, 1)
  | '%', _ => .ok (.percent, 1)
  | ',', _ => .ok (.comma, 1)
  | '(', _ => .ok (.parenOpen, 1)
  | ')', _ => .ok (.parenClose, 1)
  | '=', _ => .ok (.comparison .equal, 1)
  | '<', '=' :: _ => .ok (.comparison .lessEqual, 2)
  | '<', '>' :: _ => .ok (.comparison .notEqual, 2)
  | '<', _ => .ok (.comparison .less, 1)
  | '>', '=' :: _ => .ok (.comparison .greaterEqual, 2)
  | '>', _ => .ok (.comparison .greater, 1)
  | '"', _ =>
    match scanText cs with
    | some (s, n) => .ok (.text (String.ofList s), n + 1)
    | none => .error (.unterminatedText, 0)
  | _, _ =>
    if isDigit c || (c == '.' && cs.head?.any isDigit) then scanNumber (c :: cs)
    else if startsWord c then
      let name := (c :: cs).takeWhile continuesWord
      .ok (.word (String.ofList name), name.length)
    else .error (.unexpectedChar c, 0)

end Token

/-- The number of bytes of a text. -/
def byteLength : List Char → Nat
  | [] => 0
  | c :: cs => c.utf8Size + byteLength cs

/-- The tokens of a text that starts at `position`, after its first `skip`
characters, which belong to a token already read. -/
def Tokens.scan : Nat → Nat → List Char → Tokens
  | position, _, [] => .finish position
  | position, skip + 1, c :: cs => scan (position + c.utf8Size) skip cs
  | position, 0, c :: cs =>
    if Unicode.isBlank c then scan (position + c.utf8Size) 0 cs
    else
      match Token.scan c cs with
      | .error (cause, before) => .fault cause (position + byteLength ((c :: cs).take before))
      | .ok (token, length) =>
        .next token position (scan (position + c.utf8Size) (length - 1) cs)

end Worksheet
