import BoundedStream.Text.Escaped
import BoundedStream.Numeral

/-!
# Quoted and structural text

Texts written between quotation marks, and values written by their structure: a
name alone, a name around one value, or a name with labelled fields.
-/

namespace BoundedStream

namespace Text

/-- Which quotation marks a quoted text escapes besides the double one. -/
inductive QuoteStyle where
  /-- Apostrophes stand as they are. -/
  | plain
  /-- Apostrophes are escaped too. -/
  | strict
deriving DecidableEq, Repr

/-- The written form of one character inside quotation marks. -/
def quoteChar (style : QuoteStyle) (character : Char) : List Char :=
  let code := character.toNat
  if code = 0 then ['\\', '0']
  else if code = 9 then ['\\', 't']
  else if code = 10 then ['\\', 'n']
  else if code = 13 then ['\\', 'r']
  else if code = 34 ∨ code = 92 then ['\\', character]
  else if code = 39 ∧ style = .strict then ['\\', character]
  else if isEscaped character then
    ['\\', 'u', '\x7b'] ++ Nat.toDigits 16 code ++ ['\x7d']
  else [character]

def quoteWith (style : QuoteStyle) (text : String) : String :=
  String.ofList ('"' :: text.toList.flatMap (quoteChar style) ++ ['"'])

/-- A text between double quotation marks, apostrophes unescaped. -/
def quote (text : String) : String := quoteWith .plain text

/-- A path between double quotation marks, apostrophes escaped. -/
def quotePath (path : String) : String := quoteWith .strict path

def wrapped (name inner : String) : String :=
  name ++ "(" ++ inner ++ ")"

def labelled (name : String) (fields : List (String × String)) : String :=
  let body := fields.map fun field => field.1 ++ ": " ++ field.2
  name ++ " \x7b " ++ ", ".intercalate body ++ " \x7d"

def optional : Option String → String
  | none => "None"
  | some inner => wrapped "Some" inner

end Text

end BoundedStream
