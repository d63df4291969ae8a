import Worksheet.Function.Basic
import Worksheet.Unicode.Blank
import Worksheet.Unicode.Case

/- Worksheet Text Functions — joining, measuring and changing text. -/
namespace Worksheet.Function

/-- The displayed scalars one after the other. -/
def concat (args : List Value) : Entry :=
  .ok (.text (String.join ((Value.scalarsOf args).map Value.display)))

/-- The displayed text of the first argument. -/
def displayArg (args : List Value) : Except CellError String :=
  match args with
  | v :: _ => .ok v.display
  | [] => .error .generic

/-- The number of characters of the displayed value. -/
def len (args : List Value) : Entry := do
  return .number (ofCount (← displayArg args).length)

def text (args : List Value) : Entry := do
  return .text (← displayArg args)

def upper (args : List Value) : Entry := do
  return .text (Unicode.upper (← textArg args))

def lower (args : List Value) : Entry := do
  return .text (Unicode.lower (← textArg args))

/-- The words of the text with one space between them. -/
def trim (args : List Value) : Entry := do
  let words := Unicode.words (← textArg args).toList
  return .text (String.intercalate " " (words.map String.ofList))

end Worksheet.Function
