import MemoryAtlas.Document.Yaml.Source

/-!
Tokens of YAML, and the short ones among them: anchors, tags and directives.
-/

namespace MemoryAtlas.Yaml

/-- `fault` stands at the end of a text that cannot be read any further. -/
inductive Token where
  | version (major : Nat)
  | handle (name start : List Char)
  | directive
  | documentStart
  | documentEnd
  | blockList
  | blockRecord
  | blockEnd
  | openList
  | closeList
  | openRecord
  | closeRecord
  | dash
  | comma
  | key
  | value
  | alias (name : List Char)
  | anchor (name : List Char)
  | tag (handle : Option (List Char)) (suffix : List Char)
  | scalar (isPlain : Bool) (text : List Char)
  | fault (why : Fault)
  | finish

namespace Source

/-- The rest of the text, if what was read may end here. -/
def endingIn (p : Char → Bool) (s : Source) : Except Fault Source :=
  if p s.char then .ok s else .error .malformed

def isWordEnd (c : Char) : Bool := c == ' ' || endsLine c

/-- A name from behind its mark. -/
def name (s : Source) : Except Fault (List Char × Source) := do
  let found := s.next.run isNameChar
  if found.isEmpty then throw .malformed
  let rest ← (s.next.skip isNameChar).endingIn fun c =>
    isBlank c || ['?', ':', ',', ']', '}', '%', '@', '\x60'].contains c
  return (found, rest)

def isUriChar (c : Char) : Bool :=
  isNameChar c || [';', '/', '?', ':', '@', '&', '=', '+', '$', ',', '.', '!', '~', '*', '\x27', '(', ')', '[',
    ']'].contains c

/-- The byte that two hexadecimal digits behind a percent sign stand for. -/
def uriByte (s : Source) : Except Fault UInt8 :=
  match ((s.tail.take 2).map Spot.char).mapM Hex.digit? with
  | some [a, b] => .ok (UInt8.ofNat (16 * a + b))
  | _ => .error .malformed

def uriBytes : Nat → Source → Except Fault (List UInt8 × Source)
  | 0, s => .ok ([], s)
  | fuel + 1, s => do
    if s.char ≠ '%' then return ([], s)
    let byte ← s.uriByte
    let (others, rest) ← uriBytes fuel (s.ahead 3)
    return (byte :: others, rest)

/-- The characters of a tag; a run of escapes is one text in UTF-8. -/
def uriFrom : Nat → Source → Except Fault (List Char × Source)
  | 0, s => .ok ([], s)
  | fuel + 1, s => do
    if s.char = '%' then
      let (bytes, rest) ← uriBytes fuel s
      match String.fromUTF8? ⟨bytes.toArray⟩ with
      | some text =>
        let (others, rest) ← uriFrom fuel rest
        return (text.toList ++ others, rest)
      | none => throw .malformed
    else if isUriChar s.char then
      let (others, rest) ← uriFrom fuel s.next
      return (s.char :: others, rest)
    else return ([], s)

def uri (s : Source) : Except Fault (List Char × Source) := do
  let (text, rest) ← uriFrom s.length s
  if text.isEmpty then throw .malformed
  return (text, rest)

/-- An exclamation mark alone, or a name between two of them. -/
def tagHandle (s : Source) : Except Fault (List Char × Source) := do
  let rest ← s.endingIn (· == '!')
  if rest.peek 1 = ' ' then return (['!'], rest.next)
  let behind ← (rest.next.skip isNameChar).endingIn (· == '!')
  return ('!' :: rest.next.run isNameChar ++ ['!'], behind.next)

/-- Some other exclamation mark follows in the same word. -/
def hasSecondMark (s : Source) : Bool := (s.run fun c => !isWordEnd c).contains '!'

/-- A tag: in full between angles, by a handle, or nothing but the mark. -/
def tag (s : Source) : Except Fault (Token × Source) := do
  let (handle, suffix, rest) ←
    if s.peek 1 = '<' then do
      let (text, rest) ← uri (s.ahead 2)
      let rest ← rest.endingIn (· == '>')
      pure (none, text, rest.next)
    else if isBlank (s.peek 1) then pure (none, ['!'], s.next)
    else do
      let (handle, rest) ← if hasSecondMark s.next then s.tagHandle else pure (['!'], s.next)
      let (text, rest) ← rest.uri
      pure (some handle, text, rest)
  return (.tag handle suffix, ← rest.endingIn isWordEnd)

def number (s : Source) : Except Fault (Nat × Source) := do
  let digits := s.run Char.isDigit
  if digits.isEmpty then throw .malformed
  return (Integer.value 10 (digits.filterMap Hex.digit?), s.skip Char.isDigit)

def versionDirective (s : Source) : Except Fault (Token × Source) := do
  let (major, rest) ← s.skipSpaces.number
  let (_, rest) ← (← rest.endingIn (· == '.')).next.number
  return (.version major, ← rest.endingIn isWordEnd)

def handleDirective (s : Source) : Except Fault (Token × Source) := do
  let (name, rest) ← s.skipSpaces.tagHandle
  let (start, rest) ← (← rest.endingIn (· == ' ')).skipSpaces.uri
  return (.handle name start, ← rest.endingIn isWordEnd)

/-- A directive takes up the rest of its line. Those with other names have no meaning. -/
def directive (s : Source) : Except Fault (Token × Source) := do
  let name := s.next.run isNameChar
  if name.isEmpty then throw .malformed
  let rest ← (s.next.skip isNameChar).endingIn isWordEnd
  let (token, rest) ←
    if name = "YAML".toList then rest.versionDirective
    else if name = "TAG".toList then rest.handleDirective
    else pure (.directive, rest.skip fun c => !endsLine c)
  let rest ← rest.skipSpaces.skipComment.endingIn endsLine
  return (token, if isBreak rest.char then rest.next else rest)

end Source

end MemoryAtlas.Yaml
