import MemoryAtlas.Document.Yaml.Text
import MemoryAtlas.Document.Yaml.Token

/-!
From characters to tokens. Outside of brackets the indentation opens and closes collections. A key is
only known by the colon behind it, which has to come on the same line and within 1024 characters; the
token in front of the key is put in then.
-/

namespace MemoryAtlas.Yaml

/-- A place where a key may begin: how many tokens stand in front of it, and whether it has to be one. -/
structure Candidate where
  token : Nat
  required : Bool
  line : Nat
  column : Nat
  index : Nat

/-- `depth` counts open brackets; candidates come with the depth they stand in, one for each. -/
structure Scan where
  rest : Source
  tokens : Array Token
  depth : Nat
  indent : Option Nat
  outer : List (Option Nat)
  mayKey : Bool
  candidates : List (Nat × Candidate)

namespace Scan

def start (s : Source) : Scan := ⟨s, #[], 0, none, [], true, []⟩

def push (t : Token) (s : Scan) : Scan := { s with tokens := s.tokens.push t }

/-- How far a key may reach up to its colon. -/
def longestKey : Nat := 1024

def isStale (rest : Source) (c : Candidate) : Bool :=
  c.line != rest.line || longestKey < rest.index - c.index

/-- Candidates that are too far back are keys no more. -/
def dropStale (s : Scan) : Except Fault Scan :=
  if s.candidates.any fun c => isStale s.rest c.2 && c.2.required then .error .malformed
  else .ok { s with candidates := s.candidates.filter fun c => !isStale s.rest c.2 }

def dropCandidate (s : Scan) : Except Fault Scan :=
  match s.candidates.lookup s.depth with
  | none => .ok s
  | some c =>
    if c.required then .error .malformed
    else .ok { s with candidates := s.candidates.filter fun c => c.1 != s.depth }

/-- Something begins here that may be a key. -/
def saveCandidate (s : Scan) : Except Fault Scan := do
  if !s.mayKey then return s
  let s ← s.dropCandidate
  let place := s.rest
  let required := s.depth = 0 && s.indent = some place.column
  let c : Candidate := ⟨s.tokens.size, required, place.line, place.column, place.index⟩
  return { s with candidates := (s.depth, c) :: s.candidates }

/-- How many collections end at a column, and the indentations that are left. -/
def closed (column : Option Nat) : (indent : Option Nat) → (outer : List (Option Nat)) →
    Nat × Option Nat × List (Option Nat)
  | some i, next :: outer =>
    if column.any (i ≤ ·) then (0, some i, next :: outer)
    else
      let (n, rest) := closed column next outer
      (n + 1, rest)
  | indent, outer => (0, indent, outer)

/-- Ends the collections to the right of a column; without a column, all of them. -/
def unwind (column : Option Nat) (s : Scan) : Scan :=
  if s.depth = 0 then
    let (n, indent, outer) := closed column s.indent s.outer
    { s with indent, outer, tokens := s.tokens ++ Array.replicate n .blockEnd }
  else s

/-- Opens a collection at a column further right. -/
def opens (column : Nat) (s : Scan) : Bool := s.depth = 0 && s.indent.all (· < column)

def indented (column : Nat) (s : Scan) : Scan :=
  { s with indent := some column, outer := s.indent :: s.outer }

/-- Opens a collection here, if it is not open yet. -/
def openHere (t : Token) (s : Scan) : Scan :=
  let column := s.rest.column
  if s.opens column then (s.indented column).push t else s

/-- Over blanks, comments and line breaks, behind which there may be a key. -/
def blanks (depth : Nat) : Nat → (mayKey : Bool) → Source → Source × Bool
  | 0, mayKey, s => (s, mayKey)
  | fuel + 1, mayKey, s =>
    let s := s.skipSpaces.skipComment
    if isBreak s.char then blanks depth fuel (mayKey || depth = 0) s.next else (s, mayKey)

def toNext (s : Scan) : Scan :=
  let rest := if s.rest.index = 0 ∧ s.rest.char = '\ufeff' then s.rest.next else s.rest
  let (rest, mayKey) := blanks s.depth rest.length s.mayKey rest
  { s with rest, mayKey }

/-- A token that is no part of any collection. -/
def outside (t : Token) (rest : Source) (s : Scan) : Except Fault Scan := do
  let s ← (s.unwind none).dropCandidate
  return { s.push t with rest, mayKey := false }

def opening (t : Token) (s : Scan) : Except Fault Scan := do
  let s ← s.saveCandidate
  return { s.push t with rest := s.rest.next, depth := s.depth + 1, mayKey := true }

def closing (t : Token) (s : Scan) : Except Fault Scan := do
  let s ← s.dropCandidate
  return { s.push t with rest := s.rest.next, depth := s.depth - 1, mayKey := false }

def comma (s : Scan) : Except Fault Scan := do
  let s ← s.dropCandidate
  return { s.push .comma with rest := s.rest.next, mayKey := true }

/-- Inside brackets the mark is a token all the same. -/
def dash (s : Scan) : Except Fault Scan := do
  if s.depth = 0 ∧ !s.mayKey then throw .malformed
  let s ← (s.openHere .blockList).dropCandidate
  return { s.push .dash with rest := s.rest.next, mayKey := true }

def question (s : Scan) : Except Fault Scan := do
  if s.depth = 0 ∧ !s.mayKey then throw .malformed
  let s ← (s.openHere .blockRecord).dropCandidate
  return { s.push .key with rest := s.rest.next, mayKey := s.depth = 0 }

/-- Puts tokens in front of the candidate, which turns out to be a key. -/
def confirmed (c : Candidate) (s : Scan) : Scan :=
  let s := { s with
    candidates := s.candidates.filter fun c => c.1 != s.depth
    tokens := s.tokens.insertIdxIfInBounds c.token .key }
  if s.opens c.column then
    { s.indented c.column with tokens := s.tokens.insertIdxIfInBounds c.token .blockRecord }
  else s

def colon (s : Scan) : Except Fault Scan := do
  match s.candidates.lookup s.depth with
  | some c => return { (s.confirmed c).push .value with rest := s.rest.next, mayKey := false }
  | none =>
    if s.depth = 0 ∧ !s.mayKey then throw .malformed
    let s := s.openHere .blockRecord
    return { s.push .value with rest := s.rest.next, mayKey := s.depth = 0 }

def anchor (make : List Char → Token) (s : Scan) : Except Fault Scan := do
  let s ← s.saveCandidate
  let (name, rest) ← s.rest.name
  return { s.push (make name) with rest, mayKey := false }

def tag (s : Scan) : Except Fault Scan := do
  let s ← s.saveCandidate
  let (token, rest) ← s.rest.tag
  return { s.push token with rest, mayKey := false }

def quoted (double : Bool) (s : Scan) : Except Fault Scan := do
  let s ← s.saveCandidate
  let (text, rest) ← Yaml.quoted double s.rest
  return { s.push (.scalar false text) with rest, mayKey := false }

/-- The column of the innermost collection, counted from one. -/
def least (s : Scan) : Nat := s.indent.elim 0 (· + 1)

def block (fold : Bool) (s : Scan) : Except Fault Scan := do
  let s ← s.dropCandidate
  let (text, rest) ← Yaml.block fold s.least s.rest
  return { s.push (.scalar false text) with rest, mayKey := true }

/-- Behind a plain text that ends with its line there may be a key. -/
def plain (s : Scan) : Except Fault Scan := do
  let s ← s.saveCandidate
  let (text, rest, newLine) := Yaml.plain (0 < s.depth) s.least s.rest
  return { s.push (.scalar true text) with rest, mayKey := newLine }

/-- The next token of a text that goes on. -/
def step (s : Scan) : Except Fault Scan :=
  let flow := 0 < s.depth
  let c := s.rest.char
  let atStart := s.rest.column = 0
  let beforeBlank := isBlank (s.rest.peek 1)
  if c = '%' ∧ atStart then do
    let (token, rest) ← s.rest.directive
    s.outside token rest
  else if atStart ∧ s.rest.atMarker then
    s.outside (if c = '-' then .documentStart else .documentEnd) (s.rest.ahead 3)
  else if c = '[' then s.opening .openList
  else if c = '{' then s.opening .openRecord
  else if c = ']' then s.closing .closeList
  else if c = '}' then s.closing .closeRecord
  else if c = ',' then s.comma
  else if c = '-' ∧ beforeBlank then s.dash
  else if c = '?' ∧ (flow ∨ beforeBlank) then s.question
  else if c = ':' ∧ (flow ∨ beforeBlank) then s.colon
  else if c = '*' then s.anchor .alias
  else if c = '&' then s.anchor .anchor
  else if c = '!' then s.tag
  else if (c = '|' ∨ c = '>') ∧ !flow then s.block (c = '>')
  else if c = '\x27' ∨ c = '"' then s.quoted (c = '"')
  else if startsPlain flow s.rest then s.plain
  else .error .malformed

/-- Goes up to the next token; a column further left ends collections. -/
def advance (s : Scan) : Except Fault Scan := do
  let s ← s.toNext.dropStale
  return s.unwind (some s.rest.column)

def finish (s : Scan) : Except Fault (Array Token) := do
  return ((← (s.unwind none).dropCandidate).push .finish).tokens

/-- What goes wrong while something may still become a key is noticed in its place. -/
def broken (why : Fault) (s : Scan) : Array Token :=
  let sure := s.candidates.foldl (fun n c => min n c.2.token) s.tokens.size
  (s.tokens.extract 0 sure).push (.fault why)

/-- Every step takes at least one character. -/
def run : Nat → Scan → Array Token
  | 0, s => (s.push (.fault .malformed)).tokens
  | fuel + 1, s =>
    match s.advance with
    | .error why => (s.push (.fault why)).tokens
    | .ok s =>
      if s.rest.char = '\x00' then
        match s.finish with
        | .ok tokens => tokens
        | .error why => (s.push (.fault why)).tokens
      else
        match s.step with
        | .ok next => run fuel next
        | .error why => s.broken why

end Scan

def tokens (s : List Char) : List Token :=
  let source := located 0 0 0 s
  (Scan.run (source.length + 1) (.start source)).toList

end MemoryAtlas.Yaml
