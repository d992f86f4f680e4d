import MemoryAtlas.Search.Scope

/-!
Searching: clause after clause narrows a list of entries. Addresses compare with the sort values of
entries, and a clause near an address keeps a window around it; entries without a sort value match no
address, whether the clause excludes or not.
-/

namespace MemoryAtlas.Search

/-- How far an entry reaches from its start; a variable without a known length reaches nowhere. -/
def entryLength (structs : StructTable) (e : Entry) : Except UnknownStruct Int :=
  match e with
  | .code c => .ok c.size
  | e =>
    match e.var? with
    | some v => do return (← Layout.totalLength structs v).getD 0
    | none => .ok 1

/-- The entry reaches over the target; an entry of no length still covers its start. -/
def covers (structs : StructTable) (target : Int) (e : Entry) (start : Int) : Except UnknownStruct Bool := do
  let length ← entryLength structs e
  return start ≤ target && target < start + max length 1

def valued (entries : List Entry) : List (Entry × Int) :=
  entries.filterMap fun e => e.sortValue.map fun value => (e, value)

/-- Bisection between two places: how many of the values, in ascending order, are at most the target, if
all in front of `low` are and none from `high` on is. -/
def bisect (values : List Int) (target : Int) (low high : Nat) : Nat :=
  if low < high then
    let middle := (low + high) / 2
    if target < values.getD middle 0 then bisect values target low middle
    else bisect values target (middle + 1) high
  else low
termination_by high - low

/-- The last entry up to the target, the first one beyond it and, if the former covers the target, the
one in front of it too. -/
def window (structs : StructTable) (target : Int) (upTo beyond : List (Entry × Int)) :
    Except UnknownStruct (List Entry) := do
  let left ← match upTo.reverse with
    | [] => pure []
    | (e, start) :: others =>
      if ← covers structs target e start then pure ((others.take 1).map Prod.fst ++ [e]) else pure [e]
  return left ++ (beyond.take 1).map Prod.fst

/-- The window around the target, of entries in ascending order. -/
def near (structs : StructTable) (target : Int) (entries : List Entry) :
    Except UnknownStruct (List Entry) :=
  let starts := valued entries
  let cut := bisect (starts.map Prod.snd) target 0 starts.length
  window structs target (starts.take cut) (starts.drop cut)

def compares (c : Comparison) (addr : Int) (exclude : Bool) (e : Entry) : Bool :=
  match e.sortValue with
  | none => false
  | some value => c.holds value addr != exclude

/-- An address that is missing is equal to none, and no other comparison can be made with it. A missing
expression cannot even be looked for. -/
def keepUnfinished (gap : Query.Gap) (exclude : Bool) (entries : List Entry) :
    Except Scope.Fault (List Entry) :=
  match gap with
  | .address (.compare .eq) => .ok (entries.filter fun e => e.sortValue.isSome && exclude)
  | .address _ => if (valued entries).isEmpty then .ok [] else .error (.unfinished gap)
  | .pattern => if entries.isEmpty then .ok [] else .error (.unfinished gap)

/-- The entries that one clause keeps, in their order. -/
def keep (scope : Scope) (clause : Query.Clause) (entries : List Entry) :
    Except Scope.Fault (List Entry) :=
  match clause.test with
  | .address .near _ target => (near scope.structs target entries).mapError .struct
  | .address (.compare c) _ addr => .ok (entries.filter (compares c addr clause.exclude))
  | .unfinished gap => keepUnfinished gap clause.exclude entries
  | test => entries.filterM fun e => do return (← scope.hits test e) != clause.exclude

def apply (scope : Scope) (clauses : List Query.Clause) (entries : List Entry) :
    Except Scope.Fault (List Entry) :=
  clauses.foldlM (fun kept clause => keep scope clause kept) entries

end MemoryAtlas.Search
