import Worksheet.Json.Token
import Worksheet.Pattern.CharSet
import Worksheet.Pattern.Tree
import Worksheet.Unicode.Letter

/- Worksheet Pattern Reader — from text to pattern trees.

   A pattern is a sequence of characters, classes, anchors and groups, each
   perhaps repeated, with `|` between branches. Backslashes take special
   characters literally or name classes and anchors. There is no look-around and
   there are no references back. A group may turn flags on and off; with
   `ignoreBlanks` on, blanks and comments between the parts are skipped. -/
namespace Worksheet.PatternTree

open Unicode (isBlank)

/-! ## Blanks -/

/-- A text after the blanks and comments at its start. A comment goes from `#` to
the end of the line. -/
def skipBlanks (inComment : Bool) : List Char → List Char
  | [] => []
  | c :: cs =>
    if inComment then skipBlanks (c != '\n') cs
    else if isBlank c then skipBlanks false cs
    else if c = '#' then skipBlanks true cs
    else c :: cs

/-- A text after what is skipped when blanks are ignored. -/
def skip (blanks : Bool) (cs : List Char) : List Char := if blanks then skipBlanks false cs else cs

/-- The characters that satisfy a condition at the start of a text, and the text after
them. If blanks are ignored, they are skipped with the comments between and after the
characters. -/
def spread (blanks : Bool) (goes : Char → Bool) (inComment : Bool) :
    List Char → List Char × List Char
  | [] => ([], [])
  | c :: cs =>
    if inComment then spread blanks goes (c != '\n') cs
    else if blanks && isBlank c then spread blanks goes false cs
    else if blanks && c == '#' then spread blanks goes true cs
    else if goes c then
      let (taken, rest) := spread blanks goes false cs
      (c :: taken, rest)
    else ([], c :: cs)

/-! ## Escapes -/

/-- The characters that mean something in patterns. -/
def isSpecial (c : Char) : Bool := "\\.+*?()|[]\x7b\x7d^$#&-~".toList.contains c

/-- The characters that a backslash makes literal: all of ASCII but letters,
digits and angle brackets. -/
def isEscapable (c : Char) : Bool :=
  isSpecial c || (c.toNat < 128 && !c.isAlphanum && c != '<' && c != '>')

/-- The number of so many hexadecimal digits. -/
def hexDigits (blanks : Bool) : Nat → Nat → List Char → Option (Nat × List Char)
  | 0, n, cs => some (n, cs)
  | _ + 1, _, [] => none
  | k + 1, n, c :: cs => do
    let d ← JsonToken.hexDigit? c
    hexDigits blanks k (n * 16 + d) (skip blanks cs)

/-- The digits up to a closing brace. -/
def bracedHex (blanks : Bool) (cs : List Char) : Option (List Nat × List Char) :=
  match spread blanks (· != '\x7d') false cs with
  | (digits, _ :: rest) => (digits.mapM JsonToken.hexDigit?).map fun ds => (ds, rest)
  | (_, []) => none

/-- The character with a number. -/
def charOf? (n : Nat) : Option Char := if n.isValidChar then some (Char.ofNat n) else none

/-- A hexadecimal escape after its letter: some digits, or any number in braces. -/
def hexEscape (blanks : Bool) (digits : Nat) (cs : List Char) :
    Option (PatternTree × List Char) :=
  match skip blanks cs with
  | '\x7b' :: cs => do
    let (ds, rest) ← bracedHex blanks cs
    guard !ds.isEmpty
    let c ← charOf? (ds.foldl (fun n d => n * 16 + d) 0)
    return (.literal ⟨c, false⟩, skip blanks rest)
  | cs => do
    let (n, rest) ← hexDigits blanks digits 0 cs
    return (.literal ⟨← charOf? n, digits = 2⟩, rest)

/-- A class by property after its letter: one letter, or a text in braces. -/
def propertyEscape (blanks negated : Bool) (cs : List Char) : Option (PatternTree × List Char) :=
  match skip blanks cs with
  | [] => none
  | '\x7b' :: cs =>
    match spread blanks (· != '\x7d') false cs with
    | (text, _ :: rest) => some (.property (String.ofList text) negated, rest)
    | (_, []) => none
  | c :: cs => if c = '\\' then none else some (.property c.toString negated, cs)

/-- The anchor that a name in braces makes of a word boundary. -/
def boundary? : String → Option Anchor
  | "start" => some .wordStart
  | "end" => some .wordEnd
  | "start-half" => some .wordStartHalf
  | "end-half" => some .wordEndHalf
  | _ => none

/-- A word boundary after its letter. A brace that is not followed by a name
belongs to a repetition. -/
def boundaryEscape (blanks : Bool) (cs : List Char) : Option (PatternTree × List Char) :=
  let isName (c : Char) : Bool := Token.isLetter c || c == '-'
  match cs with
  | '\x7b' :: inside =>
    match skip blanks inside with
    | [] => none
    | c :: rest =>
      if !isName c then some (.anchor .wordBoundary, cs)
      else
        match spread blanks isName false (c :: rest) with
        | (name, '\x7d' :: rest) => (boundary? (String.ofList name)).map fun a => (.anchor a, rest)
        | _ => none
  | _ => some (.anchor .wordBoundary, cs)

/-- What a backslash stands for with the text after it. -/
def escape (blanks : Bool) : List Char → Option (PatternTree × List Char)
  | [] => none
  | c :: cs =>
    let plain (c : Char) : Option (PatternTree × List Char) := some (.literal ⟨c, false⟩, cs)
    match c with
    | 'x' => hexEscape blanks 2 cs
    | 'u' => hexEscape blanks 4 cs
    | 'U' => hexEscape blanks 8 cs
    | 'p' => propertyEscape blanks false cs
    | 'P' => propertyEscape blanks true cs
    | 'd' => some (.letter .digit false, cs)
    | 'D' => some (.letter .digit true, cs)
    | 's' => some (.letter .space false, cs)
    | 'S' => some (.letter .space true, cs)
    | 'w' => some (.letter .word false, cs)
    | 'W' => some (.letter .word true, cs)
    | 'a' => plain '\x07'
    | 'f' => plain '\x0c'
    | 't' => plain '\t'
    | 'n' => plain '\n'
    | 'r' => plain '\r'
    | 'v' => plain '\x0b'
    | 'A' => some (.anchor .textStart, cs)
    | 'z' => some (.anchor .textEnd, cs)
    | 'b' => boundaryEscape blanks cs
    | 'B' => some (.anchor .notWordBoundary, cs)
    | '<' => some (.anchor .wordStart, cs)
    | '>' => some (.anchor .wordEnd, cs)
    | c => if isEscapable c then plain c else none

/-! ## Brackets -/

/-- A class named between colons after an opening bracket. -/
def posixClass? : List Char → Option (ClassTree × List Char)
  | ':' :: cs =>
    let (negated, cs) := match cs with
      | '^' :: cs => (true, cs)
      | _ => (false, cs)
    let name := String.ofList (cs.takeWhile (· != ':'))
    match cs.dropWhile (· != ':') with
    | ':' :: ']' :: rest =>
      if (CharSet.posix? name).isSome then some (.posix name negated, rest) else none
    | _ => none
  | _ => none

/-- The start of a class after its bracket: whether it is negated, and the
characters that are literal only there. -/
def openClass (blanks : Bool) (cs : List Char) : Bool × List ClassTree × List Char :=
  let (negated, cs) := match skip blanks cs with
    | '^' :: cs => (true, skip blanks cs)
    | cs => (false, cs)
  match spread blanks (· == '-') false cs with
  | ([], ']' :: rest) => (negated, [.literal ⟨']', false⟩], rest)
  | (dashes, rest) => (negated, dashes.map fun c => .literal ⟨c, false⟩, rest)

/-- One end of a range, or an item of a class. -/
def classPart (blanks : Bool) : List Char → Option (PatternTree × List Char)
  | [] => none
  | '\\' :: cs => escape blanks cs
  | c :: cs => some (.literal ⟨c, false⟩, cs)

/-- The item that a part is inside brackets. -/
def classItem? : PatternTree → Option ClassTree
  | .literal c => some (.literal c)
  | .letter c negated => some (.letter c negated)
  | .property text negated => some (.property text negated)
  | _ => none

/-- The next character, beyond blanks that are ignored. A comment is not passed over,
only its mark is, with the blanks behind it. -/
def peekChar (blanks : Bool) (cs : List Char) : Option Char :=
  if blanks then
    match cs.dropWhile isBlank with
    | '#' :: cs => (cs.dropWhile isBlank).head?
    | cs => cs.head?
  else cs.head?

/-- A character, a class or a range. A dash before a bracket or another dash is left
for later. -/
def classRange (blanks : Bool) (cs : List Char) : Option (ClassTree × List Char) := do
  let (first, rest) ← classPart blanks cs
  match skip blanks rest with
  | [] => none
  | '-' :: after =>
    if (peekChar blanks after).any fun c => c == ']' || c == '-' then
      return (← classItem? first, '-' :: after)
    else
      let (last, rest) ← classPart blanks (skip blanks after)
      match first, last with
      | .literal a, .literal b =>
        if a.char ≤ b.char then return (.range a b, rest) else none
      | _, _ => none
  | rest => return (← classItem? first, rest)

/-- The operation before what has been read of a class, applied to it. -/
def applyOp (pending : Option (ClassOp × ClassTree)) (items : List ClassTree) : ClassTree :=
  let right := ClassTree.ofItems items.reverse
  match pending with
  | none => right
  | some (o, left) => .op o left right

/-- The inside of a class up to its bracket. `items` are the items since the last
operation, last first. -/
def classBody (blanks : Bool) :
    Nat → Option (ClassOp × ClassTree) → List ClassTree → List Char →
      Option (ClassTree × List Char)
  | 0, _, _, _ => none
  | fuel + 1, pending, items, cs =>
    match skip blanks cs with
    | [] => none
    | ']' :: rest => some (applyOp pending items, rest)
    | '[' :: rest =>
      match posixClass? rest with
      | some (item, rest) => classBody blanks fuel pending (item :: items) rest
      | none => do
        let (negated, start, rest) := openClass blanks rest
        let (inside, rest) ← classBody blanks fuel none start.reverse rest
        classBody blanks fuel pending (.bracket negated inside :: items) rest
    | '&' :: '&' :: rest =>
      classBody blanks fuel (some (.intersection, applyOp pending items)) [] rest
    | '-' :: '-' :: rest =>
      classBody blanks fuel (some (.difference, applyOp pending items)) [] rest
    | '~' :: '~' :: rest =>
      classBody blanks fuel (some (.symmetricDifference, applyOp pending items)) [] rest
    | cs => do
      let (item, rest) ← classRange blanks cs
      classBody blanks fuel pending (item :: items) rest

/-- A class after its opening bracket. -/
def bracketed (blanks : Bool) (cs : List Char) : Option (PatternTree × List Char) := do
  let (negated, start, rest) := openClass blanks cs
  let (inside, rest) ← classBody blanks (cs.length + 1) none start.reverse rest
  return (.bracket negated inside, rest)

/-! ## Repetitions -/

/-- A number with blanks around it. -/
def countOf (blanks : Bool) (cs : List Char) : Option (Nat × List Char) :=
  let (digits, rest) := spread blanks Token.isDigit false (cs.dropWhile isBlank)
  let n := Token.digitsValue digits
  if digits.isEmpty || UInt32.size ≤ n then none else some (n, rest.dropWhile isBlank)

/-- The counts of a repetition after its opening brace: a number, a least number,
or a least and a greatest one. -/
def counts (blanks : Bool) (cs : List Char) : Option ((Nat × Option Nat) × List Char) := do
  let (least, rest) ← countOf blanks (skip blanks cs)
  let (most, rest) ← match rest with
    | '\x7d' :: rest => some (some least, rest)
    | ',' :: rest =>
      match skip blanks rest with
      | '\x7d' :: rest => some (none, rest)
      | rest =>
        match countOf blanks rest with
        | some (most, '\x7d' :: rest) => some (some most, rest)
        | _ => none
    | _ => none
  guard (most.all (least ≤ ·))
  return ((least, most), skip blanks rest)

/-- A text after the question mark that makes a repetition lazy. -/
def skipLazy : List Char → List Char
  | '?' :: cs => cs
  | cs => cs

/-- The parts with the last one repeated. Flags cannot be repeated. -/
def repeatLast (least : Nat) (most : Option Nat) : List PatternTree → Option (List PatternTree)
  | [] => none
  | .flags _ :: _ => none
  | part :: parts => some (.repetition part least most :: parts)

/-! ## Groups -/

def flagOf? : Char → Option PatternFlag
  | 'i' => some .ignoreCase
  | 'm' => some .multiLine
  | 's' => some .dotAll
  | 'U' => some .swapGreed
  | 'u' => some .unicode
  | 'R' => some .carriageReturn
  | 'x' => some .ignoreBlanks
  | _ => none

/-- The flags that are turned on, and after a dash those that are turned off. No
flag is named twice, and a dash comes before a flag. -/
def flagsOf? (cs : List Char) : Option FlagChange := do
  let on ← (cs.takeWhile (· != '-')).mapM flagOf?
  let off ← match cs.dropWhile (· != '-') with
    | [] => some []
    | [_] => none
    | _ :: cs => cs.mapM flagOf?
  guard (on ++ off).Nodup
  return ⟨on, off⟩

/-- Whether a character may stand in the name of a group. -/
def namesGroup (first : Bool) (c : Char) : Bool :=
  c == '_' || Unicode.isAlphabetic c ||
    (!first && (['.', '[', ']'].contains c || Unicode.isNumeric c))

/-- The name of a group up to its angle bracket. -/
def groupName (cs : List Char) : Option (String × List Char) :=
  let name := cs.takeWhile (· != '>')
  match name, cs.dropWhile (· != '>') with
  | c :: more, _ :: rest =>
    if namesGroup true c && more.all (namesGroup false) then some (String.ofList name, rest)
    else none
  | _, _ => none

/-- What an opening parenthesis starts. -/
inductive Opening where
  /-- No group, but flags for the rest of the group around it. -/
  | flags (change : FlagChange)
  | group (change : FlagChange) (name : Option String)

/-- What is started by the text after a parenthesis. -/
def openGroup (blanks : Bool) (cs : List Char) : Option (Opening × List Char) :=
  let named (cs : List Char) : Option (Opening × List Char) :=
    (groupName cs).map fun (name, rest) => (.group ⟨[], []⟩ (some name), rest)
  match skip blanks cs with
  | '?' :: '=' :: _ | '?' :: '!' :: _ | '?' :: '<' :: '=' :: _ | '?' :: '<' :: '!' :: _ => none
  | '?' :: 'P' :: '<' :: cs => named cs
  | '?' :: '<' :: cs => named cs
  | '?' :: cs =>
    let isFlag (c : Char) : Bool := c != ':' && c != ')'
    match cs.dropWhile isFlag with
    | ')' :: rest => do
      let change ← flagsOf? (cs.takeWhile isFlag)
      guard !(change.turnedOn ++ change.turnedOff).isEmpty
      return (.flags change, rest)
    | _ :: rest => (flagsOf? (cs.takeWhile isFlag)).map fun change => (.group change none, rest)
    | [] => none
  | cs => some (.group ⟨[], []⟩ none, cs)

/-! ## Patterns -/

/-- The tree of the branches and parts that have been read, last first. -/
def finish (branches parts : List PatternTree) : PatternTree :=
  ofBranches (ofParts parts.reverse :: branches).reverse

/-- The inside of a group up to its parenthesis, or a whole pattern up to its
end, with the names of groups so far. -/
def content :
    Nat → Bool → List String → List PatternTree → List PatternTree → List Char →
      Option (PatternTree × List String × List Char)
  | 0, _, _, _, _, _ => none
  | fuel + 1, blanks, names, branches, parts, cs =>
    let part (t : PatternTree) (rest : List Char) :=
      content fuel blanks names branches (t :: parts) rest
    let repeated (least : Nat) (most : Option Nat) (rest : List Char) := do
      let parts ← repeatLast least most parts
      content fuel blanks names branches parts (skipLazy rest)
    match skip blanks cs with
    | [] => some (finish branches parts, names, [])
    | ')' :: rest => some (finish branches parts, names, ')' :: rest)
    | '|' :: rest => content fuel blanks names (ofParts parts.reverse :: branches) [] rest
    | '(' :: rest => do
      let (opening, rest) ← openGroup blanks rest
      match opening with
      | .flags change =>
        content fuel ((change.state? .ignoreBlanks).getD blanks) names branches
          (.flags change :: parts) rest
      | .group change name =>
        guard !(name.any names.contains)
        let (inner, names, rest) ←
          content fuel ((change.state? .ignoreBlanks).getD blanks) (name.toList ++ names) [] [] rest
        match rest with
        | ')' :: rest => content fuel blanks names branches (.group change inner :: parts) rest
        | _ => none
    | '[' :: rest => do
      let (t, rest) ← bracketed blanks rest
      part t rest
    | '?' :: rest => repeated 0 (some 1) rest
    | '*' :: rest => repeated 0 none rest
    | '+' :: rest => repeated 1 none rest
    | '\x7b' :: rest => do
      let ((least, most), rest) ← counts blanks rest
      repeated least most rest
    | '\\' :: rest => do
      let (t, rest) ← escape blanks rest
      part t rest
    | '.' :: rest => part .dot rest
    | '^' :: rest => part (.anchor .lineStart) rest
    | '$' :: rest => part (.anchor .lineEnd) rest
    | c :: rest => part (.literal ⟨c, false⟩) rest

/-- How deep the parts of a pattern may nest. -/
def nestingLimit : Nat := 250

/-- The tree of a pattern. -/
def parse? (cs : List Char) : Option PatternTree :=
  match content (cs.length + 1) false [] [] [] cs with
  | some (t, _, []) => if t.depth ≤ nestingLimit then some t else none
  | _ => none

end Worksheet.PatternTree
