import MemoryAtlas.Document.Yaml.Source
import MemoryAtlas.Text.Characters

/-!
The texts of scalars in the three styles that may go over several lines: plain, in quotes, and in a
block of their own.
-/

namespace MemoryAtlas.Yaml

/-! Plain texts -/

/-- A colon ends a word before a blank or, inside brackets, before one of their marks. -/
def atColon (flow : Bool) (s : Source) : Bool :=
  s.char == ':' && (isBlank (s.peek 1) || flow && [',', '[', ']', '{', '}'].contains (s.peek 1))

def word (flow : Bool) : Source → List Char × Source
  | [] => ([], [])
  | spot :: rest =>
    if isBlank spot.char || atColon flow (spot :: rest)
        || flow && [',', '?', '[', ']', '{', '}'].contains spot.char then ([], spot :: rest)
    else
      let (others, behind) := word flow rest
      (spot.char :: others, behind)

/-- The line breaks up to the next word, and whether a marker stands in front of it. -/
def breaksBefore : Nat → Source → List Char × Source × Bool
  | 0, s => ([], s, true)
  | fuel + 1, s =>
    let s := s.skipSpaces
    if isBreak s.char then
      if Source.atMarker s.tail then ([], s.tail, true)
      else
        let (others, rest, marked) := breaksBefore fuel s.tail
        (s.breakChar :: others, rest, marked)
    else ([], s, false)

/-- What a gap between two words reads as, and whether it holds a line break. A gap in front of a marker
reads as nothing. -/
def gap (s : Source) : List Char × Source × Bool :=
  let rest := s.skipSpaces
  if isBreak rest.char then
    if Source.atMarker rest.tail then ([], rest.tail, true)
    else
      let (others, behind, marked) := breaksBefore rest.length rest.tail
      (if marked then [] else folded rest.breakChar others, behind, true)
  else (s.run (· == ' '), rest, false)

/-- A plain text, from a gap on, with what follows it and whether that is on another line. Outside of
brackets, words on further lines stand in the column `least` or behind it. -/
def plainFrom (flow : Bool) (least : Nat) : Nat → (between : List Char) → (newLine : Bool) → Source →
    List Char × Source × Bool
  | 0, _, newLine, s => ([], s, newLine)
  | fuel + 1, between, newLine, s =>
    let (first, rest) := if s.char = '#' then ([], s) else word flow s
    if first.isEmpty then ([], s, newLine)
    else
      let (next, behind, newLine) := gap rest
      if next.isEmpty || behind.char == '#' || !flow && behind.column < least then
        (between ++ first, behind, newLine)
      else
        let (others, behind, newLine) := plainFrom flow least fuel next newLine behind
        (between ++ first ++ others, behind, newLine)

def plain (flow : Bool) (least : Nat) (s : Source) : List Char × Source × Bool :=
  plainFrom flow least s.length [] false s

/-- A plain text does not begin with a mark; `-`, `?` and `:` are marks only before a blank, and the
last two also inside brackets. -/
def startsPlain (flow : Bool) (s : Source) : Bool :=
  let c := s.char
  if c = '-' then !isBlank (s.peek 1)
  else if c = '?' ∨ c = ':' then !flow && !isBlank (s.peek 1)
  else
    !(isBlank c || [',', '[', ']', '{', '}', '#', '&', '*', '!', '|', '>', '\x27', '"', '%', '@',
      '\x60'].contains c)

/-! Texts in quotes -/

/-- The line breaks up to the next character; no line may begin with a marker. -/
def quotedBreaks : Nat → Source → Except Fault (List Char × Source)
  | 0, _ => .error .malformed
  | fuel + 1, s =>
    if s.atMarker then .error .malformed
    else
      let s := s.skip isSpace
      if isBreak s.char then do
        let (others, rest) ← quotedBreaks fuel s.tail
        return (s.breakChar :: others, rest)
      else return ([], s)

/-- Blanks in quotes are kept, unless there is a line break among them. -/
def quotedGap (s : Source) : Except Fault (List Char × Source) := do
  let rest := s.skip isSpace
  if rest.char = '\x00' then throw .malformed
  if isBreak rest.char then
    let (others, behind) ← quotedBreaks rest.length rest.tail
    return (folded rest.breakChar others, behind)
  else return (s.run isSpace, rest)

def escape? : Char → Option Char
  | '0' => some '\x00'
  | 'a' => some '\x07'
  | 'b' => some '\x08'
  | 't' => some '\t'
  | '\t' => some '\t'
  | 'n' => some '\n'
  | 'v' => some '\x0b'
  | 'f' => some '\x0c'
  | 'r' => some '\r'
  | 'e' => some '\x1b'
  | ' ' => some ' '
  | '"' => some '"'
  | '/' => some '/'
  | '\\' => some '\\'
  | 'N' => some '\x85'
  | '_' => some '\xa0'
  | 'L' => some '\u2028'
  | 'P' => some '\u2029'
  | _ => none

/-- How many hexadecimal digits follow the letter. -/
def codeWidth? : Char → Option Nat
  | 'x' => some 2
  | 'u' => some 4
  | 'U' => some 8
  | _ => none

/-- The codes that an escape stands for, from behind the backslash. A line break is taken away. -/
def escape (s : Source) : Except Fault (List Nat × Source) := do
  match escape? s.char, codeWidth? s.char with
  | some c, _ => return ([c.toNat], s.tail)
  | none, some width =>
    match ((s.tail.take width).map Spot.char).mapM Hex.digit? with
    | some digits =>
      let code := Hex.value digits
      if digits.length < width then throw .malformed
      if 0x110000 ≤ code then throw (.noChar code)
      return ([code], s.tail.drop width)
    | none => throw .malformed
  | none, none =>
    if isBreak s.char then
      let (breaks, rest) ← quotedBreaks s.length s.tail
      return (breaks.map Char.toNat, rest)
    else throw .malformed

/-- From behind an opening apostrophe or, if `double`, quotation mark. -/
def quotedCodes (double : Bool) : Nat → Source → Except Fault (List Nat × Source)
  | 0, _ => .error .malformed
  | fuel + 1, s => do
    let c := s.char
    if double && c == '"' || !double && c == '\x27' && s.peek 1 != '\x27' then return ([], s.tail)
    let (piece, rest) ←
      if isBlank c then do
        let (blanks, rest) ← quotedGap s
        pure (blanks.map Char.toNat, rest)
      else if double && c == '\\' then escape s.tail
      else if !double && c == '\x27' then pure ([c.toNat], s.drop 2)
      else pure ([c.toNat], s.tail)
    let (others, rest) ← quotedCodes double fuel rest
    return (piece ++ others, rest)

def quoted (double : Bool) (s : Source) : Except Fault (List Char × Source) := do
  let (codes, rest) ← quotedCodes double s.length s.tail
  return (Text.joinHalves codes, rest)

/-! Texts in blocks -/

/-- What becomes of the line breaks at the end of a block. -/
inductive Chomping where
  | strip | clip | keep
deriving DecidableEq

def chomping? (c : Char) : Option Chomping :=
  if c = '+' then some .keep else if c = '-' then some .strip else none

/-- A digit that is not zero, if there is one. -/
def indentation (s : Source) : Except Fault (Option Nat × Source) :=
  if s.char.isDigit then
    if s.char = '0' then .error .malformed else .ok (some (s.char.toNat - 48), s.tail)
  else .ok (none, s)

/-- The marks behind `|` or `>`, in either order, and the rest of the line. -/
def blockHeader (s : Source) : Except Fault (Chomping × Option Nat × Source) := do
  let (chomping, increment, rest) ← match chomping? s.char with
    | some chomping => do
      let (increment, rest) ← indentation s.tail
      pure (chomping, increment, rest)
    | none => do
      let (increment, rest) ← indentation s
      match increment, chomping? rest.char with
      | some _, some chomping => pure (chomping, increment, rest.tail)
      | _, _ => pure (.clip, increment, rest)
  if !(rest.char == ' ' || endsLine rest.char) then throw .malformed
  let rest := rest.skipSpaces.skipComment
  if isBreak rest.char then return (chomping, increment, rest.tail)
  else if rest.char = '\x00' then return (chomping, increment, rest)
  else throw .malformed

/-- The line breaks in front of the first line, and the widest indentation on the way. -/
def leadingBreaks : Nat → (widest : Nat) → Source → List Char × Nat × Source
  | 0, widest, s => ([], widest, s)
  | fuel + 1, widest, s =>
    let rest := s.skipSpaces
    let widest := if s.char = ' ' then max widest rest.column else widest
    if isBreak rest.char then
      let (others, widest, behind) := leadingBreaks fuel widest rest.tail
      (rest.breakChar :: others, widest, behind)
    else ([], widest, rest)

/-- Goes over spaces up to a column. -/
def indentTo (column : Nat) : Source → Source
  | [] => []
  | spot :: rest =>
    if spot.char = ' ' ∧ spot.column < column then indentTo column rest else spot :: rest

/-- Empty lines in a block of the given indentation. -/
def blockBreaks (column : Nat) : Nat → Source → List Char × Source
  | 0, s => ([], s)
  | fuel + 1, s =>
    let rest := indentTo column s
    if isBreak rest.char then
      let (others, behind) := blockBreaks column fuel rest.tail
      (rest.breakChar :: others, behind)
    else ([], rest)

/-- The lines of a block, with the last line break and the empty lines behind it. In a folded block a
line break between two lines that begin with no blank is a space. -/
def blockLines (fold : Bool) (column : Nat) : Nat → (breaks : List Char) → Source →
    List Char × List Char × List Char × Source
  | 0, breaks, s => ([], [], breaks, s)
  | fuel + 1, breaks, s =>
    if s.column = column ∧ s.char ≠ '\x00' then
      let text := s.run fun c => !endsLine c
      let rest := s.skip fun c => !endsLine c
      let ending := if isBreak rest.char then [rest.breakChar] else []
      let (empty, behind) := blockBreaks column rest.length (if isBreak rest.char then rest.tail else rest)
      if behind.column = column ∧ behind.char ≠ '\x00' then
        let joint :=
          if fold && ending == ['\n'] && !isSpace s.char && !isSpace behind.char then
            (if empty.isEmpty then [' '] else [])
          else ending
        let (others, last, trailing, behind) := blockLines fold column fuel empty behind
        (breaks ++ text ++ joint ++ others, last, trailing, behind)
      else (breaks ++ text, ending, empty, behind)
    else ([], [], breaks, s)

/-- From the mark on; `least` is the smallest indentation that a block may have here. -/
def block (fold : Bool) (least : Nat) (s : Source) : Except Fault (List Char × Source) := do
  let (chomping, increment, rest) ← blockHeader s.tail
  let least := max least 1
  let (column, breaks, rest) := match increment with
    | none =>
      let (breaks, widest, rest) := leadingBreaks rest.length 0 rest
      (max least widest, breaks, rest)
    | some n =>
      let (breaks, rest) := blockBreaks (least + n - 1) rest.length rest
      (least + n - 1, breaks, rest)
  let (text, last, trailing, rest) := blockLines fold column rest.length breaks rest
  return (text ++ (if chomping = .strip then [] else last) ++ (if chomping = .keep then trailing else []), rest)

end MemoryAtlas.Yaml
