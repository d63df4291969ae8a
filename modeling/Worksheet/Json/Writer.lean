import Worksheet.Json.Token

/- Worksheet JSON Writer — from trees to text.

   A tree is written as its tokens, one after the other, or over several lines
   with two blanks of indentation for each container that is open. -/
namespace Worksheet.Json

mutual
/-- The tokens of a tree. -/
def tokens : Json → List JsonToken
  | text s => [.string (some s)]
  | array items => .arrayOpen :: (itemTokens items ++ [.arrayClose])
  | object members => .objectOpen :: (memberTokens members ++ [.objectClose])
  | v => [.scalar v]

/-- The tokens of items with commas between them. -/
def itemTokens : List Json → List JsonToken
  | [] => []
  | [j] => j.tokens
  | j :: js => j.tokens ++ .comma :: itemTokens js

/-- The tokens of members with commas between them. -/
def memberTokens : List (String × Json) → List JsonToken
  | [] => []
  | [(name, j)] => .string (some name) :: .colon :: j.tokens
  | (name, j) :: ms => .string (some name) :: .colon :: (j.tokens ++ .comma :: memberTokens ms)
end

/-- The text of a tree without any space. -/
def compact (j : Json) : String := String.ofList (j.tokens.flatMap JsonToken.write)

/-- The start of a new line at a depth of nesting. -/
def newLine (depth : Nat) : List Char := '\n' :: List.replicate (2 * depth) ' '

mutual
/-- The characters of a tree over several lines. Empty containers stay on one. -/
def lines (depth : Nat) : Json → List Char
  | text s => JsonToken.writeString s
  | array [] => ['[', ']']
  | array items => '[' :: (itemLines (depth + 1) items ++ newLine depth ++ [']'])
  | object [] => ['\x7b', '\x7d']
  | object members => '\x7b' :: (memberLines (depth + 1) members ++ newLine depth ++ ['\x7d'])
  | v => JsonToken.writeScalar v

/-- The characters of items, each on a new line. -/
def itemLines (depth : Nat) : List Json → List Char
  | [] => []
  | [j] => newLine depth ++ j.lines depth
  | j :: js => newLine depth ++ j.lines depth ++ ',' :: itemLines depth js

/-- The characters of members, each on a new line. -/
def memberLines (depth : Nat) : List (String × Json) → List Char
  | [] => []
  | [(name, j)] => newLine depth ++ JsonToken.writeString name ++ ':' :: ' ' :: j.lines depth
  | (name, j) :: ms =>
    newLine depth ++ JsonToken.writeString name ++ ':' :: ' ' :: (j.lines depth ++
      ',' :: memberLines depth ms)
end

/-- The text of a tree over several lines. -/
def pretty (j : Json) : String := String.ofList (j.lines 0)

end Worksheet.Json
