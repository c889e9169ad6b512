import EntityTables.Column.Recipe
import EntityTables.Model.Entity

/-!
# Declarations of tables

What is declared for an entity: a table with its key and columns, and a join table of two
columns for each many-to-many association that the entity declares first.
-/

namespace EntityTables

structure Table where
  objectName : String
  tableName : String
  entity : EntityKey
  primaryKey : Option ColumnSpec
  columns : List ColumnSpec
deriving DecidableEq, Repr

namespace Table

/-- The columns of a table, the key first. -/
def allColumns (table : Table) : List ColumnSpec :=
  table.primaryKey.toList ++ table.columns

/-- The first column of a name. -/
def column? (table : Table) (name : String) : Option ColumnSpec :=
  table.allColumns.find? (·.name = name)

end Table

/-- The table between the two entities of a many-to-many association. -/
structure JoinTable where
  objectName : String
  tableName : String
  source : EntityKey
  target : EntityKey
  sourceColumn : ColumnSpec
  targetColumn : ColumnSpec
deriving DecidableEq, Repr

def JoinTable.columns (table : JoinTable) : List ColumnSpec :=
  [table.sourceColumn, table.targetColumn]

/-- A table object of the generated source. -/
inductive Declaration where
  | table (table : Table)
  | joinTable (table : JoinTable)
deriving DecidableEq, Repr

namespace Declaration

def table? : Declaration → Option Table
  | .table object => some object
  | .joinTable _ => none

def joinTable? : Declaration → Option JoinTable
  | .table _ => none
  | .joinTable object => some object

def objectName : Declaration → String
  | .table object => object.objectName
  | .joinTable object => object.objectName

def tableName : Declaration → String
  | .table object => object.tableName
  | .joinTable object => object.tableName

def columns : Declaration → List ColumnSpec
  | .table object => object.allColumns
  | .joinTable object => object.columns

end Declaration
end EntityTables
