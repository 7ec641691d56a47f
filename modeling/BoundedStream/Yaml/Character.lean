/-!
# Characters of a document

The characters a document may hold, and the classes that its lexical rules speak of.
The end of the document counts with the blanks and line breaks wherever a rule asks
for a separation.
-/

namespace BoundedStream

namespace Yaml

def isReadable (character : Char) : Bool :=
  let code := character.toNat
  code == 0x09 || code == 0x0A || code == 0x0D || (0x20 ≤ code && code ≤ 0x7E) ||
    code == 0x85 || (0xA0 ≤ code && code ≤ 0xD7FF) ||
    (0xE000 ≤ code && code ≤ 0xFFFD) || (0x10000 ≤ code && code ≤ 0x10FFFF)

/-- A byte order mark. -/
def byteOrderMark : Char := '\uFEFF'

def isSpacing (character : Char) : Bool :=
  character == ' ' || character == '\t'

/-- Line feed, carriage return, next line, and the two Unicode separators. -/
def isBreak (character : Char) : Bool :=
  let code := character.toNat
  code == 0x0A || code == 0x0D || code == 0x85 || code == 0x2028 || code == 0x2029

/-- A blank, a line break, or the end of the document. -/
def isSeparation : Option Char → Bool
  | none => true
  | some character => isSpacing character || isBreak character

def isLineEnd : Option Char → Bool
  | none => true
  | some character => isBreak character

/-- Letters, digits, the hyphen and the underscore. -/
def isWordCharacter (character : Char) : Bool :=
  character.isAlphanum || character == '-' || character == '_'

/-- Characters of a tag besides word characters and flow punctuation. -/
def isTagPunctuation (character : Char) : Bool :=
  [';', '/', '?', ':', '@', '&', '=', '+', '$', '.', '%', '!', '~', '*',
    Char.ofNat 39, '(', ')'].contains character

/-- Characters of a tag; a verbatim tag may hold commas and brackets too. -/
def isTagCharacter (verbatim : Bool) (character : Char) : Bool :=
  isWordCharacter character || isTagPunctuation character ||
    (verbatim && [',', '[', ']'].contains character)

def isFlowPunctuation (character : Char) : Bool :=
  [',', '[', ']', '\x7b', '\x7d'].contains character

/-- Characters that cannot start a plain scalar on their own. -/
def isIndicator (character : Char) : Bool :=
  ['-', '?', ':', ',', '[', ']', '\x7b', '\x7d', '#', '&', '*', '!', '|', '>',
    Char.ofNat 39, '"', '%', '@', '\x60'].contains character

end Yaml

end BoundedStream
