import MemoryAtlas.Text.Case
import MemoryAtlas.Text.Characters
import MemoryAtlas.Text.Word

/-!
Regular expressions as trees, down to the test of one character. Case is ignored at the leaves: two
characters agree if their lower-case forms do, or if these are variants of one letter.
-/

namespace MemoryAtlas

namespace Pattern

/-- Named classes of characters; the ASCII ones are what their names mean in that alphabet. -/
inductive Kind where
  | digit | blank | word
  | asciiDigit | asciiBlank | asciiWord
deriving DecidableEq

def Kind.has : Kind → Char → Bool
  | .digit, c => Text.isDigit c
  | .blank, c => Text.isBlank c
  | .word, c => Text.isWordChar c
  | .asciiDigit, c => c.isDigit
  | .asciiBlank, c => c == ' ' || '\t' ≤ c && c ≤ '\r'
  | .asciiWord, c => c.isAlphanum || c == '_'

/-- What a set of characters is made of. A code point need not be that of a character. `exact` is a code
point that is not folded, and `wide` a range that is not folded but meets either case of a character. -/
inductive Member where
  | code (n : Nat)
  | range (low high : Nat)
  | kind (k : Kind) (negated : Bool)
  | exact (n : Nat)
  | wide (low high : Nat)
deriving DecidableEq

/-- How far case is ignored. -/
inductive Folding where
  | none | ascii | full
deriving DecidableEq

def Folding.apply : Folding → Char → Char
  | .none, c => c
  | .ascii, c => c.toLower
  | .full, c => Text.Case.fold c

/-- The lower-case characters that are variants of one letter, `n` among them. -/
def kin (n : Nat) : List Nat := (Text.Case.kinGroups.find? fun group => group.contains n).getD [n]

/-- The code points below and above whose lower-case form is `n`. -/
def preimages (n : Nat) : List Nat :=
  let shifted := Text.Case.lowerRuns.filterMap fun run =>
    let m := (n - run.shift : Int).toNat
    if run.first ≤ m ∧ m ≤ run.last ∧ (m - run.first) % run.stride = 0 then some m else none
  let sequences := Text.Case.lowerSequences.filterMap fun (m, codes) =>
    if codes.head? = some n then some m else none
  n :: shifted ++ sequences

/-- Some code point of the range counts as the folded character `n`. -/
def Folding.meets (low high : Nat) : Folding → Nat → Bool
  | .none, n => low ≤ n && n ≤ high
  | .ascii, n =>
    low ≤ n && n ≤ high || 97 ≤ n && n ≤ 122 && low ≤ n - 32 && n - 32 ≤ high
  | .full, n => ((kin n).flatMap preimages).any fun m => low ≤ m && m ≤ high

/-- A set of characters, or all others. -/
structure CharTest where
  folding : Folding
  negated : Bool
  members : List Member
deriving DecidableEq

/-- `c` is folded already. -/
def Member.has (folding : Folding) (c : Char) : Member → Bool
  | .code n => folding.meets n n c.toNat
  | .range low high => folding.meets low high c.toNat
  | .kind k negated => k.has c != negated
  | .exact n => c.toNat = n
  | .wide low high =>
    let n := c.toNat
    let m := (Text.Case.unfold c).toNat
    low ≤ n && n ≤ high || low ≤ m && m ≤ high

/-- The last code point of those that sets fold. -/
def lastFolded : Nat := 0xFFFF

/-- What a member is among others: beyond the last code point that sets fold, only the text is folded. -/
def Member.inSet (folding : Folding) : Member → List Member
  | .code n => if folding ≠ .none ∧ lastFolded < n then [.exact n] else [.code n]
  | .range low high =>
    if folding ≠ .none ∧ lastFolded < high then [.range low lastFolded, .wide low high]
    else [.range low high]
  | m => [m]

def CharTest.accepts (t : CharTest) (c : Char) : Bool :=
  (t.members.any fun m => m.has t.folding (t.folding.apply c)) != t.negated

/-- Places in a text. -/
inductive Anchor where
  | start | lineStart | finish | lineFinish | absoluteFinish
  | boundary (kind : Kind) | noBoundary (kind : Kind)
deriving DecidableEq

/-- Whether repetition takes as much as it can first, or as little. -/
inductive Greed where
  | greedy | lazy
deriving DecidableEq

end Pattern

/-- A regular expression. -/
inductive Pattern where
  | empty
  | char (test : Pattern.CharTest)
  | anyChar (withNewline : Bool)
  | anchor (place : Pattern.Anchor)
  | seq (first second : Pattern)
  | either (first second : Pattern)
  | repeated (least : Nat) (most : Option Nat) (greed : Pattern.Greed) (body : Pattern)
  | group (number : Nat) (body : Pattern)
  | sameAs (folding : Pattern.Folding) (number : Nat)
  | ahead (negated : Bool) (body : Pattern)
  | behind (negated : Bool) (width : Nat) (body : Pattern)
  | committed (body : Pattern)
  | ifGroup (number : Nat) (yes no : Pattern)
deriving DecidableEq

end MemoryAtlas
