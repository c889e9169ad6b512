import EntityTables.Model.Entity

/-!
# Reports of failed entities

An entity fails with all the errors of its members, and a run reports all entities that failed.
-/

namespace EntityTables

/-- Why a member of an entity has no column or join table. -/
inductive EmissionError where
  | idTypeNotSupported (type : ValueType)
  | propertyTypeNotSupported (type : ValueType)
  /-- A converter stores values of a type that no wrapper carries. -/
  | converterTargetNotSupported (type : ValueType)
  /-- A join table needs the id of an entity that has none. -/
  | missingId (entity : String)
  | unknownEntity (key : EntityKey)
deriving DecidableEq, Repr

def EmissionError.message : EmissionError → String
  | .idTypeNotSupported type => s!"id type not supported: {type.qualifiedName}"
  | .propertyTypeNotSupported type => s!"property type not supported: {type.qualifiedName}"
  | .converterTargetNotSupported type =>
    s!"type converter target not supported: {type.qualifiedName} (expected a String or Long carrier)"
  | .missingId entity => s!"entity `{entity}` has no id but is referenced by a join table"
  | .unknownEntity key => s!"association target `{key}` is not part of any entity graph"

/-- An entity for which nothing was emitted, with the errors of its members. -/
structure EntityFailure where
  entity : String
  errors : List EmissionError
deriving DecidableEq, Repr

def EntityFailure.message (failure : EntityFailure) : String :=
  let causes := "; ".intercalate (failure.errors.map EmissionError.message)
  s!"entity `{failure.entity}`: {causes}"

/-- The failed entities of a run. -/
structure Report where
  failures : List EntityFailure := []
deriving DecidableEq, Repr

namespace Report

def push (report : Report) (failure : EntityFailure) : Report :=
  ⟨report.failures ++ [failure]⟩

def append (first second : Report) : Report :=
  ⟨first.failures ++ second.failures⟩

def errors (report : Report) : List EmissionError :=
  report.failures.flatMap (·.errors)

/-- The message of a report: a line for each failed entity. -/
def message (report : Report) : String :=
  s!"table generation failed for {report.failures.length} entities" ++
    String.join (report.failures.map fun failure => "\n  - " ++ failure.message)

/-- A value, unless something failed. -/
def toExcept {α : Type} (report : Report) (value : α) : Except Report α :=
  if report.failures.isEmpty then .ok value else .error report

end Report
end EntityTables
