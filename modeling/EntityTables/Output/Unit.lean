import EntityTables.Ordered
import EntityTables.Output.Declaration
import EntityTables.Wrapper.Naming

/-!
# Output units

An output unit is everything that is generated for one package.  It only grows: what an entity
contributes is staged first, and a stage is committed to the unit as a whole or dropped.
-/

namespace EntityTables

structure ExternalTable where
  package : String
  tableObject : String
deriving DecidableEq, Repr

/-- External tables are ordered by package and then by name. -/
instance : Ord ExternalTable where
  compare := compareLex (compareOn (·.package)) (compareOn (·.tableObject))

instance : Std.TransOrd ExternalTable :=
  inferInstanceAs
    (Std.TransCmp (compareLex (compareOn ExternalTable.package) (compareOn (·.tableObject))))

instance : Std.LawfulEqOrd ExternalTable where
  compare_self {a} := by
    show (compare a.package a.package).then (compare a.tableObject a.tableObject) = .eq
    simp
  eq_of_compare {a b} h := by
    have h : (compare a.package b.package).then (compare a.tableObject b.tableObject) = .eq := h
    rw [Ordering.then_eq_eq] at h
    cases a
    cases b
    simp_all

/-- What an entity contributes, as long as it is not certain that nothing fails. -/
structure Stage where
  declarations : List Declaration := []
  wrappers : List Wrapper := []
  /-- External tables that are referred to, as an ordered set. -/
  externals : List ExternalTable := []
deriving DecidableEq, Repr

/-- Everything generated for a package. -/
structure OutputUnit where
  package : String
  declarations : List Declaration := []
  wrappers : List Wrapper := []
  /-- External tables that are referred to, as an ordered set. -/
  externals : List ExternalTable := []
deriving DecidableEq, Repr

def Stage.wrapper? (stage : Stage) (name : String) : Option Wrapper :=
  stage.wrappers.find? (·.name = name)

namespace OutputUnit

/-- The unit with a stage added to it. -/
def commit (unit : OutputUnit) (stage : Stage) : OutputUnit where
  package := unit.package
  declarations := unit.declarations ++ stage.declarations
  wrappers := unit.wrappers ++ stage.wrappers
  externals := Ordered.insertAll unit.externals stage.externals

def tables (unit : OutputUnit) : List Table :=
  unit.declarations.filterMap Declaration.table?

def joinTables (unit : OutputUnit) : List JoinTable :=
  unit.declarations.filterMap Declaration.joinTable?

/-- The first table with a name of its object. -/
def table? (unit : OutputUnit) (objectName : String) : Option Table :=
  unit.tables.find? (·.objectName = objectName)

def wrapper? (unit : OutputUnit) (name : String) : Option Wrapper :=
  unit.wrappers.find? (·.name = name)

def columns (unit : OutputUnit) : List ColumnSpec :=
  unit.declarations.flatMap Declaration.columns

def isEmpty (unit : OutputUnit) : Bool :=
  unit.declarations.isEmpty && unit.wrappers.isEmpty

/-- The wrappers whose names are in use while a stage is prepared. -/
def boundWrappers (unit : OutputUnit) (stage : Stage) : List Wrapper :=
  unit.wrappers ++ stage.wrappers

/-- The name for a wrapper of an entity. -/
def chooseWrapper (unit : OutputUnit) (stage : Stage) (entityName : String) (wrapper : Wrapper) :
    WrapperChoice :=
  wrapper.choose (unit.boundWrappers stage) entityName

end OutputUnit

/-- The stage with a wrapper under its chosen name, unless the name is in use for it. -/
def Stage.addWrapper (stage : Stage) (wrapper : Wrapper) : WrapperChoice → Stage
  | .reuse _ => stage
  | .fresh name => { stage with wrappers := stage.wrappers ++ [{ wrapper with name := name }] }

namespace OutputUnit

@[simp] theorem boundWrappers_empty (unit : OutputUnit) : unit.boundWrappers {} = unit.wrappers :=
  List.append_nil _

@[simp] theorem boundWrappers_addWrapper_reuse (unit : OutputUnit) (stage : Stage)
    (wrapper : Wrapper) (name : String) :
    unit.boundWrappers (stage.addWrapper wrapper (.reuse name)) = unit.boundWrappers stage := rfl

@[simp] theorem boundWrappers_addWrapper_fresh (unit : OutputUnit) (stage : Stage)
    (wrapper : Wrapper) (name : String) :
    unit.boundWrappers (stage.addWrapper wrapper (.fresh name)) =
      unit.boundWrappers stage ++ [{ wrapper with name := name }] :=
  (List.append_assoc ..).symm

end OutputUnit

end EntityTables
