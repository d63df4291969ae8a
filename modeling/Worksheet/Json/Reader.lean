import Worksheet.Json.Token

/- Worksheet JSON Reader — from text to trees.

   The reader goes over the tokens once and keeps the containers that are open.
   What it has read so far is a state, and each token leads to the next state or
   to none. -/
namespace Worksheet

/-- A container that is open. What it holds is kept last first. -/
inductive JsonFrame where
  | array (items : List Json)
  /-- The members so far and the name of the one being read. -/
  | object (members : List (Option String × Json)) (name : Option String)
  deriving Repr

/-- What the next token has to be. -/
inductive JsonWant where
  | value
  | valueOrClose
  | name
  | nameOrClose
  | colon
  | separator
  deriving DecidableEq, Repr

/-- How far the reader has come. -/
inductive JsonState where
  | reading (want : JsonWant) (frames : List JsonFrame)
  | complete (value : Json)
  deriving Repr

namespace JsonState

def start : JsonState := reading .value []

/-- The state after a value that stands in the innermost open container. -/
def put (v : Json) : List JsonFrame → JsonState
  | [] => complete v
  | .array items :: rest => reading .separator (.array (v :: items) :: rest)
  | .object members name :: rest =>
    reading .separator (.object ((name, v) :: members) none :: rest)

/-- The tree of a container that is closed, with all its names. -/
def closed : JsonFrame → Json
  | .array items => .array items.reverse
  | .object members _ =>
    match members.reverse.mapM fun m => m.1.map (·, m.2) with
    | some members => .object members
    | none => .unreadable

/-- The state after the innermost container is closed. -/
def close (frame : JsonFrame) (rest : List JsonFrame) : JsonState :=
  put (if Json.nestingLimit ≤ rest.length then .unreadable else closed frame) rest

/-- The state after a token. -/
def step : JsonState → JsonToken → Option JsonState
  | complete _, _ => none
  | reading .colon frames, .colon => some (reading .value frames)
  | reading .separator (.array items :: rest), .comma =>
    some (reading .value (.array items :: rest))
  | reading .separator (.object members name :: rest), .comma =>
    some (reading .name (.object members name :: rest))
  | reading want (.array items :: rest), .arrayClose =>
    if want = .separator || want = .valueOrClose then some (close (.array items) rest) else none
  | reading want (.object members name :: rest), .objectClose =>
    if want = .separator || want = .nameOrClose then some (close (.object members name) rest)
    else none
  | reading .name (.object members _ :: rest), .string s =>
    some (reading .colon (.object members s :: rest))
  | reading .nameOrClose (.object members _ :: rest), .string s =>
    some (reading .colon (.object members s :: rest))
  | reading want frames, token =>
    if want = .value || want = .valueOrClose then
      match token with
      | .arrayOpen => some (reading .valueOrClose (.array [] :: frames))
      | .objectOpen => some (reading .nameOrClose (.object [] none :: frames))
      | .string s => some (put ((s.map Json.text).getD .unreadable) frames)
      | .scalar v => some (put v frames)
      | _ => none
    else none

end JsonState

namespace Json

/-- The tree that tokens spell out. -/
def ofTokens? (tokens : List JsonToken) : Option Json :=
  match tokens.foldlM JsonState.step JsonState.start with
  | some (.complete v) => some v
  | _ => none

/-- The tree that a text spells out, with a given way of reading numerals. -/
def readWith (reading : NumeralReading) (text : String) : Option Json :=
  (JsonToken.scanAll reading 0 text.toList).bind ofTokens?

end Json

end Worksheet
