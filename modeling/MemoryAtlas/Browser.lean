import MemoryAtlas.Atlas
import MemoryAtlas.Search
import MemoryAtlas.Settings
import MemoryAtlas.View.Expansion
import MemoryAtlas.View.Row

/-!
The state of a browser: the settings as they are now, what is loaded, all entries that a filter chooses
from, those that it has left, and which page of them is on view.
-/

namespace MemoryAtlas

structure Browser where
  settings : Settings
  atlas : Atlas
  all : List Entry
  shown : List Entry
  page : Nat
  hidden : List String

namespace Settings

def selection (s : Settings) : Selection := ⟨s.game, s.map, s.region⟩

def searchOptions (s : Settings) : SearchOptions := ⟨s.searchStructs, s.searchEnums⟩

end Settings

namespace Browser

/-- Nothing is loaded at first. -/
def start (settings : Settings) : Browser where
  settings := settings
  atlas := ⟨.empty, .empty, []⟩
  all := []
  shown := []
  page := 0
  hidden := settings.hiddenColumns.eraseDups

def scope (b : Browser) : Scope := ⟨b.atlas.structs, b.atlas.enums, b.settings.searchOptions⟩

def tableKind (b : Browser) : TableKind := .ofMapKey b.settings.map

def setFilter (b : Browser) (text : String) : Browser :=
  { b with settings := { b.settings with filter := text } }

/-- Shows other entries, from the first page on. -/
def showing (b : Browser) (entries : List Entry) : Browser := { b with shown := entries, page := 0 }

/-- The keys of the hidden columns in order. -/
def hiddenKeys (b : Browser) : List String := b.hidden.mergeSort fun a c => a ≤ c

def hide (b : Browser) (key : String) : Browser :=
  if b.hidden.contains key then b else { b with hidden := b.hidden ++ [key] }

def unhide (b : Browser) (key : String) : Browser := { b with hidden := b.hidden.filter (· != key) }

/-! Pages -/

def pageSize (b : Browser) : Nat := b.settings.pageSize

/-- There is always a page, though it may be empty. -/
def pageCount (b : Browser) : Nat := max ((b.shown.length + (b.pageSize - 1)) / b.pageSize) 1

def pageAt (b : Browser) (index : Nat) : List Entry := (b.shown.drop (index * b.pageSize)).take b.pageSize

def pageEntries (b : Browser) : List Entry := b.pageAt b.page

/-- Which of the entries are on view. -/
def rowsText (b : Browser) : String :=
  let count := b.shown.length
  if count = 0 then "No results"
  else
    let first := b.page * b.pageSize + 1
    let last := min (first + b.pageSize - 1) count
    toString first ++ "-" ++ toString last ++ " of " ++ toString count

/-! Tables -/

def visibleColumns (b : Browser) : List Column := b.tableKind.columns.filter fun c => !b.hidden.contains c.key

/-- What stands in one row; a cell that the entry does not have is empty. -/
def cells (b : Browser) (e : Entry) : List Document :=
  b.visibleColumns.map fun c => (e.cell? b.atlas.structs c).getD (.text "")

def expansion (b : Browser) (parent : Option Int) (e : Entry) : Option Expansion :=
  e.expansion b.atlas.structs b.atlas.enums parent

def canExpand (b : Browser) (e : Entry) : Bool := (b.expansion none e).isSome

def rowAt? (entries : List Entry) (index : Int) : Option Entry :=
  if index < 0 then none else entries[index.toNat]?

/-- Opens a row of a table, then a row of the table behind it, and so on, as long as there are such
rows and tables. -/
def drill (b : Browser) (entries : List Entry) (parent : Option Int) : List Int → List (Option Expansion)
  | [] => []
  | index :: path =>
    match rowAt? entries index with
    | none => []
    | some e =>
      match b.expansion parent e with
      | none => [none]
      | some x => some x :: b.drill x.entries x.parent path

/-- Begins with the rows of the page. -/
def drillPage (b : Browser) (path : List Int) : List (Option Expansion) := b.drill b.pageEntries none path

end Browser

end MemoryAtlas
