import MemoryAtlas.Pattern.Syntax

/-!
Searching a text for a regular expression: alternatives in order, repetitions by their greed, and
the first way that leads to the end of the expression wins.
-/

namespace MemoryAtlas.Pattern

/-- A place in a text, and the groups matched so far, latest first. -/
structure Place where
  before : List Char
  after : List Char
  groups : List (Nat × List Char)

namespace Place

def start (s : List Char) : Place := ⟨[], s, []⟩

/-- One character further. -/
def next? (p : Place) : Option (Char × Place) :=
  match p.after with
  | [] => none
  | c :: rest => some (c, { p with before := c :: p.before, after := rest })

/-- `width` characters back, if there are so many. -/
def back? (p : Place) (width : Nat) : Option Place :=
  if width ≤ p.before.length then
    some { p with before := p.before.drop width, after := (p.before.take width).reverse ++ p.after }
  else none

/-- The text between two places of one text. -/
def between (p q : Place) : List Char := p.after.take (q.before.length - p.before.length)

end Place

/-- A matcher goes on with what comes next in the expression at each place it can reach, in order,
until one succeeds. -/
abbrev Matcher := Place → (Place → Option Place) → Option Place

def wordNext (kind : Kind) (s : List Char) : Bool := (s.head?.map kind.has).getD false

/-- In an empty text there is neither a word boundary nor its opposite. -/
def Anchor.holds (p : Place) : Anchor → Bool
  | .start => p.before.isEmpty
  | .lineStart => p.before.isEmpty || p.before.head? == some '\n'
  | .finish => p.after.isEmpty || p.after == ['\n']
  | .lineFinish => p.after.isEmpty || p.after.head? == some '\n'
  | .absoluteFinish => p.after.isEmpty
  | .boundary kind =>
    !(p.before.isEmpty && p.after.isEmpty) && wordNext kind p.before != wordNext kind p.after
  | .noBoundary kind =>
    !(p.before.isEmpty && p.after.isEmpty) && wordNext kind p.before == wordNext kind p.after

/-- Steps over `text` where it comes next. -/
def stepOver (folding : Folding) : List Char → Place → Option Place
  | [], p => some p
  | c :: rest, p =>
    match p.next? with
    | some (d, q) => if folding.apply c = folding.apply d then stepOver folding rest q else none
    | none => none

/-- Repeats a step: `least` times in any case, then up to `most` times in all, by greed. A step that
went nowhere is the last one; `last` is where the one before it began. -/
def iterate (step : Matcher) (greed : Greed) :
    (fuel least : Nat) → (most : Option Nat) → (last : Option Nat) → Matcher
  | 0, _, _, _, p, k => k p
  | fuel + 1, least + 1, most, last, p, k =>
    step p fun q => iterate step greed fuel least (most.map (· - 1)) last q k
  | fuel + 1, 0, most, last, p, k =>
    let here := p.before.length
    let again := fun (_ : Unit) =>
      if most = some 0 ∨ last = some here then none
      else step p fun q => iterate step greed fuel 0 (most.map (· - 1)) (some here) q k
    match greed with
    | .greedy => again () <|> k p
    | .lazy => k p <|> again ()

def run : Pattern → Matcher
  | .empty, p, k => k p
  | .char test, p, k =>
    match p.next? with
    | some (c, q) => if test.accepts c then k q else none
    | none => none
  | .anyChar withNewline, p, k =>
    match p.next? with
    | some (c, q) => if withNewline || c != '\n' then k q else none
    | none => none
  | .anchor place, p, k => if place.holds p then k p else none
  | .seq first second, p, k => run first p fun q => run second q k
  | .either first second, p, k => run first p k <|> run second p k
  | .repeated least most greed body, p, k =>
    iterate (run body) greed (least + p.after.length + 2) least most none p k
  | .group number body, p, k =>
    run body p fun q => k { q with groups := (number, p.between q) :: q.groups }
  | .sameAs folding number, p, k => do
    let text ← p.groups.lookup number
    let q ← stepOver folding text p
    k q
  | .ahead false body, p, k => do
    let q ← run body p some
    k { p with groups := q.groups }
  | .ahead true body, p, k =>
    match run body p some with
    | some _ => none
    | none => k p
  | .behind false width body, p, k => do
    let origin ← p.back? width
    let q ← run body origin some
    k { p with groups := q.groups }
  | .behind true width body, p, k =>
    match (p.back? width).bind fun origin => run body origin some with
    | some _ => none
    | none => k p
  | .committed body, p, k => do
    let q ← run body p some
    k q
  | .ifGroup number yes no, p, k =>
    match p.groups.lookup number with
    | some _ => run yes p k
    | none => run no p k

/-- Tries the places of a text from left to right. -/
def foundFrom (pattern : Pattern) (before : List Char) : List Char → Bool
  | [] => (run pattern ⟨before, [], []⟩ some).isSome
  | c :: rest =>
    (run pattern ⟨before, c :: rest, []⟩ some).isSome || foundFrom pattern (c :: before) rest

/-- Some part of the text matches. -/
def foundIn (pattern : Pattern) (s : List Char) : Bool := foundFrom pattern [] s

end MemoryAtlas.Pattern
