import MemoryAtlas.Document.Yaml.Node
import MemoryAtlas.Document.Yaml.Token.Scan

/-!
Documents read from YAML 1.1. A text holds at most one document; one without any is null. Keys are
scalars. Names given to nodes are followed, but not within the nodes themselves; of the tags only those
of scalars, lists and records are known. Of several faults in the values the one that lies least deep
counts.
-/

namespace MemoryAtlas.Yaml

/-- A fault and how many collections it lies in. -/
structure Misvalue where
  depth : Nat
  why : Fault

/-- What nodes stand for, or what is wrong in them. -/
abbrev Valued (α : Type) := Except Misvalue α

namespace Valued

variable {α β γ : Type}

/-- Both values; of two faults the one that lies less deep, and of those at one depth the first. -/
def both (f : α → β → γ) : Valued α → Valued β → Valued γ
  | .ok a, .ok b => .ok (f a b)
  | .error m, .error n => .error (if n.depth < m.depth then n else m)
  | .error m, .ok _ => .error m
  | .ok _, .error n => .error n

def all : List (Valued α) → Valued (List α)
  | [] => .ok []
  | v :: rest => both List.cons v (all rest)

def fault (why : Fault) : Valued α := .error ⟨0, why⟩

def ofExcept (result : Except Fault α) : Valued α := result.mapError fun why => ⟨0, why⟩

/-- Seen from around a collection, its faults lie one deeper. -/
def within (v : Valued α) : Valued α := v.mapError fun m => { m with depth := m.depth + 1 }

end Valued

/-- A mark for a value of its own is a text where a key stands. -/
def Node.key : Node → Valued Scalar
  | .scalar .default text => .ok (.text (String.ofList text))
  | .scalar kind text => .ofExcept (kind.read text)
  | .list .. | .record .. => .fault .malformed

def Node.isMerge : Node → Bool
  | .scalar .merge _ => true
  | _ => false

namespace Node

/-- Fields with their values, in order. -/
abbrev Fields := List (Valued (Scalar × Document))

mutual

/-- Of fields with one key the last one gives the value; those that are taken over from other records
come first. A tag for the other kind of collection is only noticed inside. -/
def document : Node → Valued Document
  | .scalar kind text => .ofExcept (return .scalar (← kind.read text))
  | .list kind items =>
    if kind = .list then Valued.within do return .list (← Valued.all (documents items))
    else if kind = .record then (Valued.fault .malformed).within
    else .fault .malformed
  | .record kind fields =>
    if kind = .record then
      Valued.within do
        let (taken, own) ← Valued.ofExcept (pairs fields)
        return .ofFields (← Valued.all (taken ++ own))
    else if kind = .list then (Valued.fault .malformed).within
    else .fault .malformed

def documents : List Node → List (Valued Document)
  | [] => []
  | item :: rest => document item :: documents rest

/-- The fields that are taken over from elsewhere, and the other ones. -/
def pairs : List (Node × Node) → Except Fault (Fields × Fields)
  | [] => .ok ([], [])
  | (key, value) :: rest =>
    if key.isMerge then do
      let found ← merged value
      let (taken, own) ← pairs rest
      return (found ++ taken, own)
    else do
      let field : Valued (Scalar × Document) := do return (← key.key, ← document value)
      let (taken, own) ← pairs rest
      return (taken, field :: own)

/-- All the fields of a record, or of a list of records with the last one in front. -/
def merged : Node → Except Fault Fields
  | .scalar .. => .error .malformed
  | .record _ fields => do
    let (taken, own) ← pairs fields
    return taken ++ own
  | .list _ items => mergedItems items

def mergedItems : List Node → Except Fault Fields
  | [] => .ok []
  | .record _ fields :: rest => do
    let (taken, own) ← pairs fields
    return (← mergedItems rest) ++ taken ++ own
  | _ :: _ => .error .malformed

end

end Node

/-- Characters that may stand in a file. -/
def isAllowed (c : Char) : Bool :=
  let n := c.toNat
  c == '\t' || c == '\n' || c == '\r' || 0x20 ≤ n && n ≤ 0x7E || n == 0x85
    || 0xA0 ≤ n && n ≤ 0xFFFD || 0x10000 ≤ n

/-- A carriage return ends a line as a line feed does, and the two together end only one. -/
def lines : List Char → List Char
  | [] => []
  | '\r' :: '\n' :: rest => '\n' :: lines rest
  | '\r' :: rest => '\n' :: lines rest
  | c :: rest => c :: lines rest

def read (s : String) : Except Fault Document := do
  if !s.toList.all isAllowed then throw .malformed
  (← Node.read (tokens (lines s.toList))).document.mapError Misvalue.why

def Fault.message : Fault → String
  | .malformed => "Not a YAML document"
  | .noChar _ => "chr() arg not in range(0x110000)"
  | .noNumber => "string index out of range"
  | .noMoment => "Not a moment"
  | .badInt why => why.message
  | .badFloat text => "could not convert string to float: " ++ String.ofList (Text.quoted text)
  | .badBool text => String.ofList (Text.quoted text)
  | .badMoment why => why.message
  | .tooDeep => "Nested too deeply"

end MemoryAtlas.Yaml
