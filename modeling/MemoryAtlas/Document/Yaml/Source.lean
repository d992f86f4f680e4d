import MemoryAtlas.Moment
import MemoryAtlas.Numeral.Integer

/-!
The characters of a YAML text with the places where they stand, and the classes of them that matter.
-/

namespace MemoryAtlas.Yaml

/-- Why a text is no document. Tags can ask for a number or a moment where the text holds none. -/
inductive Fault where
  | malformed
  | noChar (code : Nat)
  | noNumber
  | noMoment
  | badInt (why : Integer.Misspelling)
  | badFloat (text : List Char)
  | badBool (text : List Char)
  | badMoment (why : Moment.Fault)
  | tooDeep

structure Spot where
  char : Char
  line : Nat
  column : Nat
  index : Nat

/-- The last character is a NUL, which no text may hold. -/
abbrev Source := List Spot

def isBreak (c : Char) : Bool := c == '\n' || c == '\x85' || c == '\u2028' || c == '\u2029'

/-- A line break or the end of the text. -/
def endsLine (c : Char) : Bool := c == '\x00' || isBreak c

def isSpace (c : Char) : Bool := c == ' ' || c == '\t'

def isBlank (c : Char) : Bool := isSpace c || endsLine c

/-- Letters and digits of ASCII, hyphen and low line. -/
def isNameChar (c : Char) : Bool := c.isAlphanum || c == '-' || c == '_'

/-- A byte-order mark takes no column. -/
def located (line column index : Nat) : List Char → Source
  | [] => [⟨'\x00', line, column, index⟩]
  | c :: rest =>
    ⟨c, line, column, index⟩ ::
      if isBreak c then located (line + 1) 0 (index + 1) rest
      else located line (if c = '\ufeff' then column else column + 1) (index + 1) rest

namespace Source

def next (s : Source) : Source := s.tail

def ahead (k : Nat) (s : Source) : Source := s.drop k

/-- The character some places ahead. -/
def peek (s : Source) (k : Nat) : Char := (s[k]?.map Spot.char).getD '\x00'

def char (s : Source) : Char := s.peek 0

def column (s : Source) : Nat := (s.head?.map Spot.column).getD 0

def line (s : Source) : Nat := (s.head?.map Spot.line).getD 0

def index (s : Source) : Nat := (s.head?.map Spot.index).getD 0

def skip (p : Char → Bool) (s : Source) : Source := s.dropWhile fun spot => p spot.char

def run (p : Char → Bool) (s : Source) : List Char := (s.takeWhile fun spot => p spot.char).map Spot.char

def skipSpaces (s : Source) : Source := s.skip (· == ' ')

/-- `---` or `...` in front of a blank. -/
def atMarker (s : Source) : Bool :=
  let three := (s.take 3).map Spot.char
  (three == ['-', '-', '-'] || three == ['.', '.', '.']) && isBlank (s.peek 3)

/-- What a line break reads as: only the separators of lines and of paragraphs are kept. -/
def breakChar (s : Source) : Char :=
  if s.char = '\u2028' || s.char = '\u2029' then s.char else '\n'

/-- The comment up to the end of the line, if there is one. -/
def skipComment (s : Source) : Source := if s.char = '#' then s.skip fun c => !endsLine c else s

end Source

/-- One line break between words is a space; of several the first one does not count. -/
def folded (first : Char) (others : List Char) : List Char :=
  if first != '\n' then first :: others else if others.isEmpty then [' '] else others

end MemoryAtlas.Yaml
