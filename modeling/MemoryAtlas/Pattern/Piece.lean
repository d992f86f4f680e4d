import MemoryAtlas.Pattern.Escape

/-!
The pieces of a sequence, and how alternatives are put together: what all of them begin with is taken out,
and what is left is one set of characters if each of them is a character or a set.
-/

namespace MemoryAtlas.Pattern

/-- How many characters a part can match. -/
structure Width where
  least : Nat
  most : Option Nat
deriving DecidableEq

namespace Width

def exactly (n : Nat) : Width := ⟨n, some n⟩

def add (v w : Width) : Width :=
  ⟨v.least + w.least, do return (← v.most) + (← w.most)⟩

def join (v w : Width) : Width :=
  ⟨min v.least w.least, do return max (← v.most) (← w.most)⟩

def times (w : Width) (least : Nat) (most : Option Nat) : Width :=
  ⟨w.least * least,
    if w.most = some 0 ∨ most = some 0 then some 0 else do return (← w.most) * (← most)⟩

/-- Widths are told apart below this. -/
def limit : Nat := Nat.pow 2 32 - 1

/-- Looking behind goes back by one number of characters. -/
def isFixed (w : Width) : Bool := w.most = some w.least && w.least < limit

/-- It goes back by less than this. -/
def reach : Nat := Nat.pow 2 31

end Width

/-- The smallest parts, which are equal if they are written alike. -/
inductive Atom where
  | literal (negated : Bool) (n : Nat)
  | set (negated : Bool) (members : List Member)
  | anyChar
  | anchor (place : Anchor)
  | reference (number : Nat)
deriving DecidableEq

/-- Members of a set fold only up to the last code point that sets fold, and a character alone folds always. -/
def Atom.pattern (f : Flags) : Atom → Pattern
  | .literal negated n => .char ⟨f.folding, negated, [.code n]⟩
  | .set negated members => .char ⟨f.folding, negated, members.flatMap (·.inSet f.folding)⟩
  | .anyChar => .anyChar f.dotAll
  | .anchor place => .anchor place
  | .reference number => .sameAs f.folding number

/-- The members of the set that an atom is. -/
def Atom.members? : Atom → Option (List Member)
  | .literal false n => some [.code n]
  | .set false members => some members
  | _ => none

/-- Only atoms are ever equal to each other. -/
structure Piece where
  pattern : Pattern
  width : Width
  atom : Option Atom := none

def Piece.ofAtom (f : Flags) (width : Width) (atom : Atom) : Piece := ⟨atom.pattern f, width, some atom⟩

/-- One character out of a set; a set of one character is this character. -/
def Piece.ofMembers (f : Flags) (negated : Bool) (members : List Member) : Piece :=
  .ofAtom f (.exactly 1) <|
    match members.eraseDups with
    | [.code n] => .literal negated n
    | members => .set negated members

/-- A sequence as one piece. -/
def joined (pieces : List Piece) : Piece :=
  pieces.foldr
    (fun piece rest =>
      { pattern := match rest.pattern with
          | .empty => piece.pattern
          | others => .seq piece.pattern others
        width := piece.width.add rest.width })
    { pattern := .empty, width := .exactly 0 }

/-- What a sequence and all others begin with, and what is left of each. -/
def splitCommon : List Piece → List (List Piece) → List Piece × List Piece × List (List Piece)
  | [], others => ([], [], others)
  | piece :: rest, others =>
    if piece.atom.isSome && others.all (fun s => (s.head?.bind (·.atom)) = piece.atom) then
      let (front, first, others) := splitCommon rest (others.map List.tail)
      (piece :: front, first, others)
    else ([], piece :: rest, others)

/-- The set that stands for alternatives of one character each. -/
def asSet? (sequences : List (List Piece)) : Option (List Member) := do
  let found ← sequences.mapM fun
    | [piece] => piece.atom.bind Atom.members?
    | _ => none
  return found.flatten.eraseDups

def eitherOf (first : List Piece) (others : List (List Piece)) : Piece :=
  match others with
  | [] => joined first
  | next :: others =>
    let one := joined first
    let other := eitherOf next others
    { pattern := .either one.pattern other.pattern, width := one.width.join other.width }

/-- A sequence and the alternatives to it as one sequence. -/
def ofAlternatives (f : Flags) (first : List Piece) (others : List (List Piece)) : List Piece :=
  if others.isEmpty then first
  else
    let (front, first, others) := splitCommon first others
    match asSet? (first :: others) with
    | some members => front ++ [.ofAtom f (.exactly 1) (.set false members)]
    | none => front ++ [eitherOf first others]

/-- What a quantifier may follow: not an anchor, and not another quantifier. -/
inductive Role where
  | plain | anchor | repeated
deriving DecidableEq

/-- What a quantifier takes as a whole. -/
structure Item where
  pieces : List Piece
  role : Role := .plain

end MemoryAtlas.Pattern
