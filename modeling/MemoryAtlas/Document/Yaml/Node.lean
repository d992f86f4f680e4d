import MemoryAtlas.Document.Yaml.Kind
import MemoryAtlas.Document.Yaml.Token

/-!
Nodes: scalars and collections as they are written, with their kinds. A name given to a node stands for
that node further on; it cannot be used within the node itself.
-/

namespace MemoryAtlas.Yaml

inductive Node where
  | scalar (kind : Kind) (text : List Char)
  | list (kind : Kind) (items : List Node)
  | record (kind : Kind) (fields : List (Node × Node))

/-- What is still to be read, what names stand for, and how tags are abbreviated. -/
structure Pending where
  tokens : List Token
  names : List (List Char × Option Node)
  handles : List (List Char × List Char)

abbrev NodeReader := StateT Pending (Except Fault)

namespace NodeReader

def peek : NodeReader Token := return ((← get).tokens.head?).getD .finish

def next : NodeReader Unit := modify fun p => { p with tokens := p.tokens.tail }

def fail {α : Type} : NodeReader α := do
  match ← peek with
  | .fault why => throw why
  | _ => throw .malformed

/-- What is left out is a plain scalar without text. -/
def nothing : Node := .scalar .null []

def anchor? : NodeReader (Option (List Char)) := do
  match ← peek with
  | .anchor name =>
    next
    return some name
  | _ => return none

def tag? : NodeReader (Option (Option (List Char) × List Char)) := do
  match ← peek with
  | .tag handle suffix =>
    next
    return some (handle, suffix)
  | _ => return none

/-- The tag in full. -/
def resolved (tag : Option (List Char) × List Char) : NodeReader (List Char) := do
  match tag.1 with
  | none => return tag.2
  | some handle =>
    match (← get).handles.lookup handle with
    | some start => return start ++ tag.2
    | none => throw .malformed

/-- A name and a tag in either order. -/
def properties : NodeReader (Option (List Char) × Option (List Char)) := do
  let first ← anchor?
  let tag ← tag?
  let name ← if first.isSome ∨ tag.isNone then pure first else anchor?
  match tag with
  | none => return (name, none)
  | some tag => return (name, some (← resolved tag))

def nodeOf (name : List Char) : NodeReader Node := do
  match (← get).names.lookup name with
  | some (some node) => return node
  | _ => throw .malformed

/-- A name is given once. -/
def reserve (name : Option (List Char)) : NodeReader Unit := do
  match name with
  | none => return
  | some name =>
    if ((← get).names.lookup name).isSome then throw .malformed
    modify fun p => { p with names := (name, none) :: p.names }

def define (name : Option (List Char)) (node : Node) : NodeReader Node := do
  match name with
  | none => return node
  | some name =>
    modify fun p => { p with names := (name, some node) :: p.names }
    return node

/-- The kind that a tag tells; the mark alone tells nothing. -/
def kindOr (tag : Option (List Char)) (kind : Kind) : Kind :=
  match tag with
  | none | some ['!'] => kind
  | some tag => .ofTag tag

/-- Only a plain scalar, or one with the mark alone, shows its kind by its text. -/
def scalarKind (tag : Option (List Char)) (isPlain : Bool) (text : List Char) : Kind :=
  if isPlain || tag.isSome then kindOr tag (.ofPlain text) else .text

/-- How a collection is written. A bare list stands in the column of the record around it and has no
mark of its own. -/
inductive Style where
  | flowList | flowRecord | blockList | blockRecord | bareList
deriving DecidableEq

/-- The collection that a token begins, where collections without brackets or bare lists are allowed. -/
def style? (block bare : Bool) : Token → Option Style
  | .openList => some .flowList
  | .openRecord => some .flowRecord
  | .blockList => if block then some .blockList else none
  | .blockRecord => if block then some .blockRecord else none
  | .dash => if bare then some .bareList else none
  | _ => none

def endsItem : Token → Bool
  | .comma | .closeList => true
  | _ => false

def endsField : Token → Bool
  | .comma | .closeRecord => true
  | _ => false

def endsLineItem : Token → Bool
  | .dash | .blockEnd => true
  | _ => false

def endsLineField : Token → Bool
  | .key | .value | .blockEnd => true
  | _ => false

def isColon : Token → Bool
  | .value => true
  | _ => false

def optional (stop : Token → Bool) (read : NodeReader Node) : NodeReader Node := do
  if stop (← peek) then return nothing else read

/-- A key that is left out before its colon or with it, and what stands behind the colon. -/
def pair (stop : Token → Bool) (read : NodeReader Node) : NodeReader (Node × Node) := do
  let key ← optional (fun t => isColon t || stop t) read
  if isColon (← peek) then
    next
    return (key, ← optional stop read)
  else return (key, nothing)

/-- Goes over the comma in front of an item that is not the first one. -/
def separate (first : Bool) : NodeReader Unit := do
  if first then return
  match ← peek with
  | .comma => next
  | _ => fail

mutual

/-- `room` is how many more levels of collections there may be. -/
def node (block bare : Bool) (room : Nat) : (fuel : Nat) → NodeReader Node
  | 0 => throw .malformed
  | fuel + 1 => do
    if let .alias name ← peek then
      next
      return ← nodeOf name
    let (name, tag) ← properties
    let token ← peek
    match style? block bare token, room with
    | some style, room + 1 =>
      reserve name
      if style ≠ .bareList then next
      let found ← match style with
        | .flowList => do pure (Node.list (kindOr tag .list) (← flowItems true room fuel))
        | .flowRecord => do pure (Node.record (kindOr tag .record) (← flowFields true room fuel))
        | .blockList => do pure (Node.list (kindOr tag .list) (← blockItems room fuel))
        | .blockRecord => do pure (Node.record (kindOr tag .record) (← blockFields room fuel))
        | .bareList => do pure (Node.list (kindOr tag .list) (← bareItems room fuel))
      define name found
    | some _, 0 => throw .tooDeep
    | none, _ =>
      match token with
      | .scalar isPlain text =>
        reserve name
        next
        define name (.scalar (scalarKind tag isPlain text) text)
      | _ =>
        if name.isNone ∧ tag.isNone then fail
        reserve name
        define name (.scalar (kindOr tag .null) [])
termination_by structural fuel => fuel

/-- A pair among the items is a record of its own. -/
def flowItems (first : Bool) (room : Nat) : (fuel : Nat) → NodeReader (List Node)
  | 0 => throw .malformed
  | fuel + 1 => do
    if let .closeList ← peek then
      next
      return []
    separate first
    match ← peek with
    | .closeList =>
      next
      return []
    | .key =>
      next
      if room = 0 then throw .tooDeep
      let item := Node.record .record [← pair endsItem (node false false (room - 1) fuel)]
      return item :: (← flowItems false room fuel)
    | _ =>
      let item ← node false false room fuel
      return item :: (← flowItems false room fuel)
termination_by structural fuel => fuel

/-- A field without a colon has no value. -/
def flowFields (first : Bool) (room : Nat) : (fuel : Nat) → NodeReader (List (Node × Node))
  | 0 => throw .malformed
  | fuel + 1 => do
    if let .closeRecord ← peek then
      next
      return []
    separate first
    match ← peek with
    | .closeRecord =>
      next
      return []
    | .key =>
      next
      let field ← pair endsField (node false false room fuel)
      return field :: (← flowFields false room fuel)
    | _ =>
      let key ← node false false room fuel
      return (key, nothing) :: (← flowFields false room fuel)
termination_by structural fuel => fuel

def blockItems (room : Nat) : (fuel : Nat) → NodeReader (List Node)
  | 0 => throw .malformed
  | fuel + 1 => do
    match ← peek with
    | .dash =>
      next
      let item ← optional endsLineItem (node true false room fuel)
      return item :: (← blockItems room fuel)
    | .blockEnd =>
      next
      return []
    | _ => fail
termination_by structural fuel => fuel

def bareItems (room : Nat) : (fuel : Nat) → NodeReader (List Node)
  | 0 => throw .malformed
  | fuel + 1 => do
    match ← peek with
    | .dash =>
      next
      let item ← optional (fun t => endsLineItem t || endsLineField t) (node true false room fuel)
      return item :: (← bareItems room fuel)
    | _ => return []
termination_by structural fuel => fuel

def blockFields (room : Nat) : (fuel : Nat) → NodeReader (List (Node × Node))
  | 0 => throw .malformed
  | fuel + 1 => do
    match ← peek with
    | .key =>
      next
      let field ← pair endsLineField (node true true room fuel)
      return field :: (← blockFields room fuel)
    | .blockEnd =>
      next
      return []
    | _ => fail
termination_by structural fuel => fuel

end

/-- Collections are not nested deeper than this. -/
def deepest : Nat := 488

def usualHandles : List (List Char × List Char) :=
  [(['!'], ['!']), (['!', '!'], "tag:yaml.org,2002:".toList)]

/-- The directives in front of a document: at most one version, which begins with one, and every handle
at most once. -/
def directives : (fuel : Nat) → (versioned : Bool) → List (List Char × List Char) →
    NodeReader (List (List Char × List Char))
  | 0, _, _ => throw .malformed
  | fuel + 1, versioned, handles => do
    match ← peek with
    | .directive =>
      next
      directives fuel versioned handles
    | .version major =>
      next
      if versioned ∨ major ≠ 1 then throw .malformed
      directives fuel true handles
    | .handle name start =>
      next
      if (handles.lookup name).isSome then throw .malformed
      directives fuel versioned (handles ++ [(name, start)])
    | _ => return handles

def isDirective : Token → Bool
  | .directive | .version _ | .handle _ _ => true
  | _ => false

def atStart : Token → Bool
  | .documentStart => true
  | t => isDirective t

def atFinish : Token → Bool
  | .finish => true
  | _ => false

def atEnd : Token → Bool
  | .documentEnd => true
  | _ => false

def skipEnds : (fuel : Nat) → NodeReader Unit
  | 0 => return
  | fuel + 1 => do
    if atEnd (← peek) then
      next
      skipEnds fuel

/-- The only document of a text; a text may also hold none. -/
def document (fuel : Nat) : NodeReader Node := do
  let token ← peek
  if atFinish token then return nothing
  let found ←
    if atStart token then do
      let handles ← directives fuel false []
      match ← peek with
      | .documentStart => next
      | _ => fail
      modify fun p => { p with handles := handles ++ usualHandles }
      optional (fun t => atStart t || atEnd t || atFinish t) (node true false deepest fuel)
    else node true false deepest fuel
  skipEnds fuel
  if atFinish (← peek) then return found else fail

end NodeReader

/-- The node of a text without line breaks other than those of YAML. -/
def Node.read (tokens : List Token) : Except Fault Node := do
  let fuel := 4 * tokens.length + 8
  let (found, _) ← (NodeReader.document fuel).run ⟨tokens, [], NodeReader.usualHandles⟩
  return found

end MemoryAtlas.Yaml
