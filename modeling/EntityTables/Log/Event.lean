import EntityTables.Model.Graphs

/-!
# Log events

A log is a list of events beside a result.  It is computed from the same drafts and reports as
the result and never influences it.
-/

namespace EntityTables.Log

/-- How important an event is. -/
inductive Level where
  | warn
  | info
  | debug
  | trace
deriving DecidableEq, Repr

def Level.name : Level → String
  | .warn => "WARN"
  | .info => "INFO"
  | .debug => "DEBUG"
  | .trace => "TRACE"

/-- Something that is worth knowing about a run. -/
structure Event where
  level : Level
  text : String
deriving DecidableEq, Repr

/-- Settings are about to be read from the file of a path, whatever is found there. -/
def settingsSought (path : String) : Event :=
  ⟨.info, s!"[CONFIG] Loading generator configuration from {path}"⟩

def graphsAccepted (graphs : EntityGraphs) : Event :=
  ⟨.debug, s!"[MODEL] Indexed {graphs.entities.length} entities across {graphs.graphs.length} graphs"⟩

end EntityTables.Log
