import MemoryAtlas.Browser
import MemoryAtlas.Query.Parse

/-!
What a user can do with a browser. Every action has an outcome, also one that fails: the state behind it,
and the states in which a listener was told of a change.
-/

namespace MemoryAtlas

namespace Browser

inductive Action where
  | load (keepFilter : Bool)
  | setGame (game : String)
  | setRegion (region : String)
  | setMap (map : String)
  | setSearchOptions (structs enums : Bool)
  | applyFilter (text : String)
  | resetFilter
  | setPage (index : Int)
  | toggleColumn (key : String) (visible : Bool)
deriving DecidableEq

inductive Fault where
  | load (fault : Atlas.Fault)
  | pattern (fault : Query.BadPattern)
  | search (fault : Scope.Fault)
  | page (index : Int)

def Fault.message : Fault → String
  | .load fault => fault.message
  | .pattern fault => fault.message
  | .search fault => fault.message
  | .page index => "Page " ++ toString index ++ " out of range"

structure Outcome where
  after : Browser
  notices : List Browser
  warnings : List UnknownEnum
  result : Except Fault Unit

namespace Outcome

/-- A change that a listener is told of once it is complete. -/
def changed (b : Browser) : Outcome := ⟨b, [b], [], .ok ()⟩

def quiet (b : Browser) : Outcome := ⟨b, [], [], .ok ()⟩

/-- Nothing has changed. -/
def rejected (b : Browser) (fault : Fault) : Outcome := ⟨b, [], [], .error fault⟩

end Outcome

/-- Filters everything that is loaded. -/
def narrow (b : Browser) (text : String) : Except Fault Browser := do
  let clauses ← (Query.parse text).mapError .pattern
  let entries ← (Search.apply b.scope clauses b.all).mapError .search
  return b.showing entries

/-- Shows what has been loaded and filters it as before. If the filter fails, all of it stays on view. -/
def refilter (b : Browser) : Outcome :=
  if b.settings.filter = "" then .changed b
  else
    match b.narrow b.settings.filter with
    | .ok filtered => .changed filtered
    | .error fault => { Outcome.changed b with result := .error fault }

/-- Loads what the settings select. If that fails, what was loaded before stays. -/
def load (files : Archive) (b : Browser) : Outcome :=
  let checked := Atlas.load files b.settings.mapsDir b.settings.selection
  match checked.result with
  | .error fault => { Outcome.rejected b (.load fault) with warnings := checked.warnings }
  | .ok atlas =>
    let loaded := { b with atlas, all := atlas.entries }
    { (loaded.showing loaded.all).refilter with warnings := checked.warnings }

def reset (b : Browser) : Outcome := .changed ((b.setFilter "").showing b.all)

def applyFilter (b : Browser) (text : String) : Outcome :=
  if text = "" then b.reset
  else
    match b.narrow text with
    | .ok filtered => .changed (filtered.setFilter text)
    | .error fault => .rejected b fault

def setPage (b : Browser) (index : Int) : Outcome :=
  if 0 ≤ index ∧ index < b.pageCount then
    if index = b.page then .quiet b else .changed { b with page := index.toNat }
  else .rejected b (.page index)

/-- The filter is for one map of one game; another region only moves addresses. -/
def act (files : Archive) (b : Browser) : Action → Outcome
  | .load keepFilter => (if keepFilter then b else b.setFilter "").load files
  | .setGame game => ({ b with settings := { b.settings with game } }.setFilter "").load files
  | .setRegion region => { b with settings := { b.settings with region } }.load files
  | .setMap map => ({ b with settings := { b.settings with map } }.setFilter "").load files
  | .setSearchOptions searchStructs searchEnums =>
    .quiet { b with settings := { b.settings with searchStructs, searchEnums } }
  | .applyFilter text => b.applyFilter text
  | .resetFilter => b.reset
  | .setPage index => b.setPage index
  | .toggleColumn key visible => .changed (if visible then b.unhide key else b.hide key)

/-- The state behind a series of actions, failed ones included. -/
def run (files : Archive) (b : Browser) (actions : List Action) : Browser :=
  actions.foldl (fun b action => (b.act files action).after) b

end Browser

end MemoryAtlas
