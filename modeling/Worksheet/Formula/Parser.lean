import Worksheet.Formula.Expr
import Worksheet.Formula.Token
import Worksheet.Unicode.Case

/- Worksheet Formulas — reading an expression from text.

   The grammar, loosest first:

     expression := term (('+' | '-') term)*
     term       := factor (('*' | '/') factor)*
     factor     := unary ('^' unary)*
     unary      := ('-' | '+') unary | postfix
     postfix    := primary ['%']
     primary    := number | string | truth value | name
                 | name '(' [expression (',' expression)*] ')'
                 | '(' expression ')'

   All three chains group to the left. A text is refused when its tree is
   taller than `depthLimit`, or when more than `depthLimit` expressions and
   signs are open at once. Only `unary` is recursive, on the depth that is
   left; the chains and argument lists are loops over the tokens. -/
namespace Worksheet

/-- How deep expressions may nest, and how tall trees may be. -/
def depthLimit : Nat := 256

/-- What stands where something else was expected. -/
inductive Found where
  | token (t : Token)
  | finish
  deriving Repr

/-- Where a token is not expected. -/
inductive Place where
  | afterExpression
  | valueExpected
  | closeExpected
  | argumentExpected
  | afterArgument
  deriving DecidableEq, Repr

/-- What is wrong with a text. -/
inductive Problem where
  | empty
  | token (cause : TokenFault)
  | comparison (op : Comparison)
  | unexpected (found : Found) (place : Place)
  | unclosedCall (name : String)
  deriving Repr

/-- Why a text is not an expression. -/
inductive ParseError where
  | malformed (problem : Problem) (position : Nat)
  | tooDeep
  deriving Repr

def Found.describe : Found → String
  | token (.number x) => "number " ++ Layout.display.text x
  | token (.text s) => "string \"" ++ s ++ "\""
  | token (.word name) => "identifier '" ++ name ++ "'"
  | token .plus => "'+'"
  | token .minus => "'-'"
  | token .star => "'*'"
  | token .slash => "'/'"
  | token .caret => "'^'"
  | token .percent => "'%'"
  | token .comma => "','"
  | token (.comparison op) => "'" ++ op.symbol ++ "'"
  | token .parenOpen => "'('"
  | token .parenClose => "')'"
  | finish => "end of expression"

def Place.describe : Place → String
  | afterExpression => "after expression"
  | valueExpected => "where a value was expected"
  | closeExpected => "where ')' was expected"
  | argumentExpected => "in argument list of function"
  | afterArgument => "in argument list, expected ',' or ')'"

def TokenFault.message : TokenFault → String
  | unexpectedChar c => "Unexpected character '" ++ c.toString ++ "'"
  | unterminatedText => "Unterminated string literal"
  | secondPoint => "Malformed number: more than one decimal point"

def Problem.message : Problem → String
  | empty => "Empty expression"
  | token cause => cause.message
  | comparison op => "Comparison operator '" ++ op.symbol ++ "' is not supported"
  | unexpected found place => "Unexpected " ++ found.describe ++ " " ++ place.describe
  | unclosedCall name => "Missing ')' after arguments to " ++ name

/-- The full text of a parse error. -/
def ParseError.display : ParseError → String
  | malformed problem position =>
    "Parse error at position " ++ toString position ++ ": " ++ problem.message
  | tooDeep => "Expression nested deeper than " ++ toString depthLimit ++ " levels"

namespace Formula

/-- An expression that has been read, with its height. -/
structure Parsed where
  expr : Expr
  height : Nat

/-- Reads something from the front of a stream and gives the rest. -/
abbrev Reader (α : Type) := Tokens → Except ParseError (α × Tokens)

/-- The error for a token that is not expected where it stands. -/
def unexpected (place : Place) : Tokens → ParseError
  | .finish position => .malformed (.unexpected .finish place) position
  | .fault cause position => .malformed (.token cause) position
  | .next (.comparison op) position _ => .malformed (.comparison op) position
  | .next token position _ => .malformed (.unexpected (.token token) place) position

/-- A stream whose first token can be looked at: a fault in its place ends the
reading. -/
def ready : Tokens → Except ParseError Tokens
  | .fault cause position => .error (.malformed (.token cause) position)
  | tokens => .ok tokens

def leaf (e : Expr) : Parsed := ⟨e, 1⟩

/-- A node of the given height, unless it is too tall. -/
def node (e : Expr) (height : Nat) : Except ParseError Parsed :=
  if depthLimit < height then .error .tooDeep else .ok ⟨e, height⟩

def binary (op : BinaryOp) (l r : Parsed) : Except ParseError Parsed :=
  node (.binary op l.expr r.expr) (max l.height r.height + 1)

/-- Goes on with a chain whose first operands are read, grouping to the left.
`links` bounds how many more operators are read. -/
def chainFrom (operand : Reader Parsed) (op? : Token → Option BinaryOp) :
    Nat → Parsed → Reader Parsed
  | 0, left, tokens => .ok (left, tokens)
  | links + 1, left, tokens =>
    match tokens with
    | .next token _ rest =>
      match op? token with
      | none => .ok (left, tokens)
      | some op => do
        let (right, rest) ← operand (← ready rest)
        chainFrom operand op? links (← binary op left right) rest
    | _ => .ok (left, tokens)

/-- Operands with operators of one precedence between them. -/
def chain (operand : Reader Parsed) (op? : Token → Option BinaryOp) : Reader Parsed :=
  fun tokens => do
    let (left, rest) ← operand tokens
    chainFrom operand op? rest.length left rest

def powerOp? : Token → Option BinaryOp
  | .caret => some .pow
  | _ => none

def productOp? : Token → Option BinaryOp
  | .star => some .mul
  | .slash => some .div
  | _ => none

def sumOp? : Token → Option BinaryOp
  | .plus => some .add
  | .minus => some .sub
  | _ => none

/-- An expression whose unary operands are read by `unary`. -/
def expression (unary : Reader Parsed) : Reader Parsed :=
  chain (chain (chain unary powerOp?) productOp?) sumOp?

/-- The arguments of a call up to its closing parenthesis, which is left. `more`
bounds how many more arguments are read. -/
def argumentsFrom (nested : Reader Parsed) (name : String) :
    Nat → Reader (List Parsed)
  | 0, tokens => .error (unexpected .argumentExpected tokens)
  | more + 1, tokens =>
    match tokens with
    | .next .comma _ _ | .next .parenClose _ _ => .error (unexpected .argumentExpected tokens)
    | _ => do
      let (arg, rest) ← nested tokens
      match rest with
      | .next .comma _ rest => do
        let (args, rest) ← argumentsFrom nested name more (← ready rest)
        .ok (arg :: args, rest)
      | .next .parenClose _ _ => .ok ([arg], rest)
      | .finish position => .error (.malformed (.unclosedCall name) position)
      | _ => .error (unexpected .afterArgument rest)

/-- The arguments of a call; there are none if it closes at once. -/
def arguments (nested : Reader Parsed) (name : String) : Reader (List Parsed) := fun tokens =>
  match tokens with
  | .next .parenClose _ _ => .ok ([], tokens)
  | _ => argumentsFrom nested name (tokens.length + 1) tokens

/-- A call whose name and opening parenthesis have been read. -/
def call (nested : Reader Parsed) (name : String) : Reader Parsed := fun tokens => do
  let (args, rest) ← arguments nested name tokens
  match rest with
  | .next .parenClose _ rest => do
    let rest ← ready rest
    let height := (args.map Parsed.height).foldl max 0
    .ok (← node (.call (Unicode.upper name) (args.map Parsed.expr)) (height + 1), rest)
  | _ => .error (unexpected .afterArgument rest)

/-- A word that is not called: a truth value in any case, or a name. -/
def wordExpr (name : String) : Expr :=
  if Unicode.upper name = "TRUE" then .bool true
  else if Unicode.upper name = "FALSE" then .bool false
  else .ref name

/-- A literal, a name, a call or an expression in parentheses, whose inner
expressions are read by `nested`. -/
def primary (nested : Reader Parsed) : Reader Parsed := fun tokens =>
  match tokens with
  | .next (.number x) _ rest => do .ok (leaf (.number x), ← ready rest)
  | .next (.text s) _ rest => do .ok (leaf (.text s), ← ready rest)
  | .next .parenOpen _ rest => do
    let (inner, rest) ← nested (← ready rest)
    match rest with
    | .next .parenClose _ rest => .ok (inner, ← ready rest)
    | _ => .error (unexpected .closeExpected rest)
  | .next (.word name) _ rest => do
    match ← ready rest with
    | .next .parenOpen _ rest => call nested name (← ready rest)
    | rest => .ok (leaf (wordExpr name), rest)
  | _ => .error (unexpected .valueExpected tokens)

/-- A primary with at most one percent sign. -/
def postfixed (nested : Reader Parsed) : Reader Parsed := fun tokens => do
  let (operand, rest) ← primary nested tokens
  match rest with
  | .next .percent _ rest => do
    let rest ← ready rest
    .ok (← node (.percent operand.expr) (operand.height + 1), rest)
  | _ => .ok (operand, rest)

/-- The sign that a token is. -/
def sign? : Token → Option PrefixOp
  | .minus => some .negate
  | .plus => some .plus
  | _ => none

/-- An operand with its signs. What follows a sign is read by `signed`, and
inner expressions by `nested`. -/
def unaryWith (signed nested : Reader Parsed) : Reader Parsed := fun tokens =>
  match tokens with
  | .next token _ rest =>
    match sign? token with
    | some op => do
      let (operand, rest) ← signed (← ready rest)
      .ok (← node (.unary op operand.expr) (operand.height + 1), rest)
    | none => postfixed nested tokens
  | _ => postfixed nested tokens

/-- An operand within which `depth` more expressions and signs may be open. -/
def unary : Nat → Reader Parsed
  | 0 => unaryWith (fun _ => .error .tooDeep) (fun _ => .error .tooDeep)
  | depth + 1 => unaryWith (unary depth) (expression (unary depth))

/-- The characters of a text that hold its expression, and the number of bytes
before them: white space and one equals sign in front are left out. -/
def body (cs : List Char) : Nat × List Char :=
  let trimmed := Unicode.trimStart cs
  let offset := byteLength (cs.takeWhile Unicode.isBlank)
  match trimmed with
  | '=' :: rest => (offset + 1, rest)
  | _ => (offset, trimmed)

/-- Reads the expression of a formula's text. -/
def parse (text : String) : Except ParseError Expr := do
  let (offset, cs) := body text.toList
  let tokens ← ready (Tokens.scan offset 0 cs)
  match tokens with
  | .finish _ => .error (.malformed .empty offset)
  | _ =>
    let (parsed, rest) ← expression (unary (depthLimit - 1)) tokens
    match rest with
    | .finish _ => .ok parsed.expr
    | _ => .error (unexpected .afterExpression rest)

end Formula

end Worksheet
