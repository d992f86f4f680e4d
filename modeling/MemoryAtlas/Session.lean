import MemoryAtlas.Browser.Action

/-!
A browser in use. It answers every action with all the warnings, among them remarks on the expressions
that it has not met before.
-/

namespace MemoryAtlas

structure Session where
  browser : Browser
  known : Query.Known

namespace Session

inductive Warning where
  | unknownEnum (warning : UnknownEnum)
  | noted (remark : Pattern.Remark)
deriving DecidableEq

def Warning.message : Warning → String
  | .unknownEnum warning => warning.message
  | .noted remark => remark.message

def start (settings : Settings) : Session := ⟨.start settings, []⟩

/-- The query that an action has read. What cannot be loaded is not filtered. -/
def queryRead (outcome : Browser.Outcome) : Browser.Action → String
  | .applyFilter text => text
  | .load _ | .setGame _ | .setRegion _ | .setMap _ =>
    match outcome.result with
    | .error (.load _) => ""
    | _ => outcome.after.settings.filter
  | _ => ""

structure Reply where
  warnings : List Warning
  outcome : Browser.Outcome

def act (files : Archive) (s : Session) (action : Browser.Action) : Reply × Session :=
  let outcome := s.browser.act files action
  let (remarks, known) := Query.remarks s.known (queryRead outcome action)
  (⟨outcome.warnings.map .unknownEnum ++ remarks.map .noted, outcome⟩, ⟨outcome.after, known⟩)

end Session

end MemoryAtlas
