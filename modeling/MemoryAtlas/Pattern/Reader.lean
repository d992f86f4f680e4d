import MemoryAtlas.Checked
import MemoryAtlas.Numeral.Integer
import MemoryAtlas.Pattern.Piece
import MemoryAtlas.Pattern.Remark
import MemoryAtlas.Text.Identifier

/-!
Reading a regular expression. What is refused: brackets that do not match, quantifiers with nothing
to repeat, ranges that run backwards, references to groups that are not there, looking behind by an
unknown width, settings in the wrong place, and escapes that mean nothing.
-/

namespace MemoryAtlas.Pattern

/-- Why an expression is refused. A bound can be too large, or have more digits than a numeral may have;
settings can call for two alphabets at once; looking behind can go too far back; groups can lie too deep. -/
inductive Flaw where
  | malformed
  | overflow
  | tooLong (digits : Nat)
  | clash
  | tooFar
  | tooDeep
deriving DecidableEq

/-- What is left to read, and what is known of the part already read. Groups count from one; a group
without width is still open. `behind` is the number of the next group when looking behind began, `letters`
are the settings of the whole expression. What is `broken` or looks `far` behind is only refused when all
is read. The latest remark comes first. -/
structure Scan where
  rest : List Token
  size : Nat := span rest
  groups : List (Option Width) := []
  names : List (List Char × Nat) := []
  behind : Option Nat := none
  conditions : List Nat := []
  letters : List Char := []
  broken : Bool := false
  far : Bool := false
  remarks : List Remark := []
  flags : Flags

/-- The place of what is left. -/
def Scan.place (s : Scan) : Nat := s.size - span s.rest

/-- What has been remarked stays when the expression is refused. -/
abbrev Reader := ExceptT Flaw (StateM Scan)

def fail {α : Type} : Reader α := throw .malformed

def peek : Reader (Option Token) := do return (← get).rest.head?

/-- A backslash with nothing behind it is refused as soon as it comes next. -/
def goOn (rest : List Token) : Reader Unit := do
  if rest.head? = some .dangling then fail
  modify fun s => { s with rest }

def advance : Reader Unit := do goOn (← get).rest.tail

/-- Takes the next token if it is this character. -/
def accept (c : Char) : Reader Bool := do
  if (← peek) = some (.plain c) then
    advance
    return true
  else return false

def expect (c : Char) : Reader Unit := do
  unless ← accept c do fail

def nextToken : Reader Token := do
  match ← peek with
  | some t => advance; return t
  | none => fail

def nextPlain : Reader Char := do
  match ← nextToken with
  | .plain c => return c
  | _ => fail

/-- Runs a function that takes tokens from the front. -/
def taking {α : Type} (f : List Token → Option (α × List Token)) : Reader α := do
  match f (← get).rest with
  | some (a, rest) => goOn rest; return a
  | none => fail

def openGroup (name : Option (List Char)) : Reader Nat := do
  let s ← get
  let number := s.groups.length + 1
  let names ← match name with
    | none => pure s.names
    | some name => if (s.names.lookup name).isSome then fail else pure ((name, number) :: s.names)
  set { s with groups := s.groups ++ [none], names }
  return number

def closeGroup (number : Nat) (width : Width) : Reader Unit :=
  modify fun s => { s with groups := s.groups.set (number - 1) (some width) }

/-- The width of a group that is closed. -/
def closedWidth (number : Nat) : Reader Width := do
  if number = 0 then fail
  match (← get).groups[number - 1]? with
  | some (some width) => return width
  | _ => fail

/-- While looking behind, only groups that were closed before may be referred to. -/
def checkBehind (number : Nat) : Reader Unit := do
  match (← get).behind with
  | none => return
  | some first =>
    let _ ← closedWidth number
    if first ≤ number then fail

def markBroken (broken : Bool) : Reader Unit :=
  modify fun s => { s with broken := s.broken || broken }

def markFar (far : Bool) : Reader Unit := modify fun s => { s with far := s.far || far }

/-- Remarks on what stands at a place, which is given the place of what is left. -/
def remark (f : Nat → Remark) : Reader Unit :=
  modify fun s => { s with remarks := f s.place :: s.remarks }

def groupName (closing : Char) : Reader (List Char) := do
  match ← taking (takeUntil closing) with
  | some name => if Text.isIdentifier name then return name else fail
  | none => fail

def reference (f : Flags) (number : Nat) : Reader Item := do
  let width ← closedWidth number
  checkBehind number
  return { pieces := [.ofAtom f width (.reference number)] }

def place (f : Flags) (a : Anchor) : Item where
  pieces := [.ofAtom f (.exactly 0) (.anchor a)]
  role := .anchor

def single (f : Flags) : Single → Reader Item
  | .anchor a => return place f a
  | .member m => return { pieces := [.ofMembers f false [m]] }
  | .reference number => reference f number

def literal (f : Flags) (c : Char) : Item where
  pieces := [.ofMembers f false [.code c.toNat]]

/-- One member of a set, without the range that may follow. -/
def setMember (f : Flags) : Token → Reader Member
  | .plain c => return .code c.toNat
  | .escaped c => taking (setEscape f c)
  | .dangling => fail

/-- A doubled character may become an operation on what is in front of it. -/
def remarkDoubled : Token → Reader Unit
  | .plain c => do
    if let some operation := SetOperation.ofChar? c then
      if (← peek) = some (.plain c) then remark fun place => .setOperation operation (place - 1)
  | _ => return

/-- The members of a set up to its closing bracket, which is a member if it comes first; `found` are
those in front, latest first. -/
def setMembers (f : Flags) : Nat → List Member → Reader (List Member)
  | 0, _ => fail
  | fuel + 1, found => do
    let t ← nextToken
    if t = .plain ']' ∧ !found.isEmpty then return found
    unless found.isEmpty do remarkDoubled t
    let low ← setMember f t
    if ← accept '-' then
      let u ← nextToken
      if u = .plain ']' then return .code '-'.toNat :: low :: found
      if u = .plain '-' then remark fun place => .setOperation .difference (place - 2)
      match low, ← setMember f u with
      | .code a, .code b => if a ≤ b then setMembers f fuel (.range a b :: found) else fail
      | _, _ => fail
    else setMembers f fuel (low :: found)

def charSet (f : Flags) : Reader Item := do
  if (← peek) = some (.plain '[') then remark .nestedSet
  let negated ← accept '^'
  let members ← setMembers f ((← get).rest.length + 1) []
  return { pieces := [.ofMembers f negated members.reverse] }

/-- The digits of the bounds in braces; one bound without a comma is both. Other braces stand for
themselves. -/
def bounds (s : List Token) : Option ((List Char × List Char) × List Token) :=
  if s.head? = some (.plain '}') then none
  else
    let (low, rest) := takePlain isDecimal s.length s
    let (comma, rest) := takePlain (· == ',') 1 rest
    let (high, rest) := if comma.isEmpty then (low, rest) else takePlain isDecimal rest.length rest
    match rest with
    | .plain '}' :: rest => some ((low, high), rest)
    | _ => none

/-- No bound reaches this number. -/
def boundLimit : Nat := 4294967295

def readBound (digits : List Char) : Reader (Option Nat) := do
  if digits.isEmpty then return none
  if Integer.longest < digits.length then throw (.tooLong digits.length)
  let n := decimalValue digits
  if boundLimit ≤ n then throw .overflow
  return some n

/-- The repetition that a quantifier asks for: as little as possible with `?` behind it, and with `+`
every step keeps what it has matched. -/
def repetition (least : Nat) (most : Option Nat) (body : Pattern) : Reader Pattern := do
  if ← accept '?' then return .repeated least most .lazy body
  if ← accept '+' then return .committed (.repeated least most .greedy (.committed body))
  return .repeated least most .greedy body

/-- A quantifier takes the item in front of it. -/
def quantify (least : Nat) (most : Option Nat) : List Item → Reader (List Item)
  | [] => fail
  | item :: front => do
    if item.role ≠ .plain then fail
    markBroken (← get).flags.once
    let body := joined item.pieces
    let pattern ← repetition least most body.pattern
    return { pieces := [{ pattern, width := body.width.times least most }], role := .repeated } :: front

def quantifyBounds (low high : List Char) (done : List Item) : Reader (List Item) := do
  let least := (← readBound low).getD 0
  let most ← readBound high
  if most.any (· < least) then fail
  quantify least most done

/-- The letters of settings that are turned on, the character that ends them, and what follows. -/
def lettersOn (on : List Char) (c : Char) : List Token → Option ((List Char × Char) × List Token)
  | .plain d :: rest =>
    if !"imsxatu".toList.contains c then none
    else if c = 'a' ∧ on.contains 'u' ∨ c = 'u' ∧ on.contains 'a' then none
    else if d = ')' ∨ d = '-' ∨ d = ':' then some ((c :: on, d), rest)
    else lettersOn (c :: on) d rest
  | _ => none

/-- The letters of settings that are turned off, up to a colon. -/
def lettersOff (off : List Char) (c : Char) : List Token → Option (List Char × List Token)
  | .plain d :: rest =>
    if !"imsx".toList.contains c then none
    else if d = ':' then some (c :: off, rest)
    else lettersOff (c :: off) d rest
  | _ => none

def Flags.set (f : Flags) (value : Bool) : Char → Flags
  | 'i' => { f with ignoreCase := value }
  | 'm' => { f with multiLine := value }
  | 's' => { f with dotAll := value }
  | 'x' => { f with verbose := value }
  | 'a' => { f with ascii := true }
  | 'u' => { f with ascii := false }
  | 't' => { f with once := true }
  | _ => f

def Flags.change (f : Flags) (on off : List Char) : Flags :=
  off.foldl (fun f c => f.set false c) (on.foldl (fun f c => f.set true c) f)

/-- What the characters behind `(?` begin. -/
inductive Opening where
  | capture (name : Option (List Char))
  | plain
  | within (flags : Flags)
  | commit
  | ahead (negated : Bool)
  | behind (negated : Bool)
  | condition (number : Nat)
  | reference (number : Nat)
  | comment
  | settings (flags : Flags)

/-- Settings at the start hold for the whole expression, and settings with a colon for one group. -/
def settings (f : Flags) (c : Char) : Reader Opening := do
  let (on, ending) ←
    if c = '-' then pure ([], '-') else taking (lettersOn [] c)
  if ending = ')' then
    let s ← get
    let flags := s.flags.change on []
    set { s with flags, letters := on ++ s.letters }
    return .settings flags
  if on.contains 't' then fail
  let off ← if ending = '-' then do taking (lettersOff [] (← nextPlain)) else pure []
  if on.any off.contains then fail
  return .within (f.change on off)

/-- Groups are numbered below this. -/
def groupLimit : Nat := 1073741823

/-- A condition names a group or gives its number; a number is checked when all groups are known. -/
def condition : Reader Opening := do
  match ← taking (takeUntil ')') with
  | none => fail
  | some name =>
    let number ←
      if Text.isIdentifier name then
        match (← get).names.lookup name with
        | some number => pure number
        | none => fail
      else
        match Integer.readDecimal (Text.strip name) with
        | .ok n =>
          if 0 < n ∧ n < groupLimit then
            modify fun s => { s with conditions := n.toNat :: s.conditions }
            unless name.all isDecimal do remark fun place => .groupNumber name (place - name.length - 1)
            pure n.toNat
          else fail
        | .error _ => fail
    checkBehind number
    return .condition number

def named : Reader Opening := do
  if ← accept '<' then return .capture (some (← groupName '>'))
  if ← accept '=' then
    match (← get).names.lookup (← groupName ')') with
    | some number => return .reference number
    | none => fail
  fail

def opening (f : Flags) : Reader Opening := do
  unless ← accept '?' do return .capture none
  let c ← nextPlain
  match c with
  | 'P' => named
  | ':' => return .plain
  | '#' =>
    let _ ← taking (takeUntil ')')
    return .comment
  | '=' => return .ahead false
  | '!' => return .ahead true
  | '<' =>
    if ← accept '=' then return .behind false
    if ← accept '!' then return .behind true
    fail
  | '(' => condition
  | '>' => return .commit
  | _ => settings f c

def isVerboseBlank (c : Char) : Bool := c == ' ' || '\t' ≤ c && c ≤ '\r'

/-- A comment goes on to the end of its line. -/
def skipLine : Reader Unit := do
  goOn ((← get).rest.dropWhile fun t => t ≠ .plain '\n' ∧ t ≠ .dangling)
  let _ ← accept '\n'

mutual

/-- Alternatives up to a closing bracket or the end. Only the first of the whole expression may begin
with settings, which hold for the others as well. -/
def alternatives : (fuel room : Nat) → Flags → (whole : Bool) → Reader (List Piece)
  | 0, _, _, _ => fail
  | fuel + 1, room, f, whole => do
    let first ← sequence fuel room f whole []
    let scan ← get
    let f := if whole then scan.flags else f
    let others ← otherAlternatives fuel room f
    return ofAlternatives f first others

def otherAlternatives : (fuel room : Nat) → Flags → Reader (List (List Piece))
  | 0, _, _ => fail
  | fuel + 1, room, f => do
    if ← accept '|' then
      let next ← sequence fuel room f false []
      return next :: (← otherAlternatives fuel room f)
    else return []

/-- The pieces up to a bar, a closing bracket or the end; `done` are the items in front, latest first. -/
def sequence : (fuel room : Nat) → Flags → (whole : Bool) → List Item → Reader (List Piece)
  | 0, _, _, _, _ => fail
  | fuel + 1, room, f, whole, done => do
    match ← peek with
    | none | some (.plain '|') | some (.plain ')') => return done.reverse.flatMap (·.pieces)
    | some .dangling => fail
    | some (.escaped c) =>
      advance
      sequence fuel room f whole ((← single f (← taking (escape f c))) :: done)
    | some (.plain c) =>
      advance
      if f.verbose ∧ isVerboseBlank c then sequence fuel room f whole done
      else if f.verbose ∧ c = '#' then
        skipLine
        sequence fuel room f whole done
      else
        match c with
        | '[' => do sequence fuel room f whole ((← charSet f) :: done)
        | '*' => do sequence fuel room f whole (← quantify 0 none done)
        | '+' => do sequence fuel room f whole (← quantify 1 none done)
        | '?' => do sequence fuel room f whole (← quantify 0 (some 1) done)
        | '{' => do
          match bounds (← get).rest with
          | some ((low, high), rest) =>
            goOn rest
            sequence fuel room f whole (← quantifyBounds low high done)
          | none => sequence fuel room f whole (literal f c :: done)
        | '.' => sequence fuel room f whole ({ pieces := [.ofAtom f (.exactly 1) .anyChar] } :: done)
        | '^' => sequence fuel room f whole (place f (if f.multiLine then .lineStart else .start) :: done)
        | '$' => sequence fuel room f whole (place f (if f.multiLine then .lineFinish else .finish) :: done)
        | '(' => do
          match ← opening f with
          | .comment => sequence fuel room f whole done
          | .settings flags => if whole ∧ done.isEmpty then sequence fuel room flags whole done else fail
          | .reference number => sequence fuel room f whole ((← reference f number) :: done)
          | o => sequence fuel room f whole ((← bracketed fuel room f o) :: done)
        | _ => sequence fuel room f whole (literal f c :: done)

/-- The contents of a group, and its closing bracket. A group takes two steps of room, and a branch of a
condition one. -/
def bracketed : (fuel room : Nat) → Flags → Opening → Reader Item
  | 0, _, _, _ => fail
  | fuel + 1, room, f, o => do
    let inside (flags : Flags) : Reader (List Piece) :=
      if room < 2 then throw .tooDeep else alternatives fuel (room - 2) flags false
    match o with
    | .capture name =>
      let number ← openGroup name
      let body := joined (← inside f)
      expect ')'
      closeGroup number body.width
      return { pieces := [{ body with pattern := .group number body.pattern }] }
    | .plain =>
      let pieces ← inside f
      expect ')'
      return { pieces }
    | .within flags =>
      let body := joined (← inside flags)
      expect ')'
      return { pieces := [body] }
    | .commit =>
      let body := joined (← inside f)
      expect ')'
      return { pieces := [{ body with pattern := .committed body.pattern }] }
    | .ahead negated =>
      let body := joined (← inside f)
      expect ')'
      return { pieces := [{ pattern := .ahead negated body.pattern, width := .exactly 0 }] }
    | .behind negated =>
      let outer := (← get).behind
      modify fun s => { s with behind := outer <|> some (s.groups.length + 1) }
      let body := joined (← inside f)
      modify fun s => { s with behind := outer }
      expect ')'
      markBroken !body.width.isFixed
      markFar (Width.reach ≤ body.width.least)
      return { pieces := [{ pattern := .behind negated body.width.least body.pattern, width := .exactly 0 }] }
    | .condition number =>
      let branch : Reader Piece := do
        if room < 1 then throw .tooDeep
        return joined (← sequence fuel (room - 1) f false [])
      let yes ← branch
      let no ← if ← accept '|' then branch else pure (joined [])
      expect ')'
      let pattern := .ifGroup number yes.pattern no.pattern
      return { pieces := [{ pattern, width := yes.width.join no.width }] }
    | .reference _ | .comment | .settings _ => fail

end

/-- The room for groups inside each other. -/
def depth : Nat := 984

/-- Reads a whole expression; nothing may be left, and every condition needs its group. -/
def whole (flags : Flags) : Reader Pattern := do
  let ts := (← get).rest
  goOn ts
  let pieces ← alternatives (3 * ts.length + 3) depth flags true
  let s ← get
  if s.letters.contains 'a' && s.letters.contains 'u' then throw .clash
  if !s.rest.isEmpty || s.conditions.any (s.groups.length < ·) || s.broken then fail
  if s.far then throw .tooFar
  return (joined pieces).pattern

/-- Reads an expression with remarks on the part that was read, also if it is refused. -/
def readWith (flags : Flags) (s : List Char) : Checked Remark Flaw Pattern :=
  let (result, scan) := (whole flags).run { rest := tokens s, flags }
  ⟨scan.remarks.reverse, result⟩

/-- An expression ignores case unless it says otherwise. -/
def examine (s : List Char) : Checked Remark Flaw Pattern := readWith { ignoreCase := true } s

def read (s : List Char) : Except Flaw Pattern := (examine s).result

end MemoryAtlas.Pattern
