import EntityTables.Model.ValueType

/-!
# Columns

A column is described by a recipe: which constructor makes it, under which name, and how it is
modified.  Turning a recipe into text is the work of the source printer.
-/

namespace EntityTables

/-- The constructors of columns. -/
inductive ColumnKind where
  | varchar (length : UInt32)
  | long
  | integer
  | short
  | bool
  | float
  | double
  | decimal (precision scale : UInt32)
  | uuid
  | dateTime
  | localDateTime
  | zonedDateTime
  /-- A column made by the wrapper function of a converter. -/
  | converted (wrapper : String)
deriving DecidableEq, Repr

namespace ColumnKind

def constructorName : ColumnKind → String
  | .varchar _ => "varchar"
  | .long => "long"
  | .integer => "integer"
  | .short => "short"
  | .bool => "bool"
  | .float => "float"
  | .double => "double"
  | .decimal _ _ => "decimal"
  | .uuid => "uuid"
  | .dateTime => "datetime"
  | .localDateTime => "localDateTime"
  | .zonedDateTime => "zonedDateTime"
  | .converted wrapper => wrapper

/-- The arguments behind the name of the column. -/
def parameters : ColumnKind → List UInt32
  | .varchar length => [length]
  | .decimal precision scale => [precision, scale]
  | _ => []

/-- Columns of whole numbers, which a database can count up by itself. -/
def isIntegral : ColumnKind → Bool
  | .long | .integer | .short => true
  | _ => false

end ColumnKind

/-- The column of another table that a foreign key refers to. -/
structure ColumnRef where
  tableObject : String
  column : String
deriving DecidableEq, Repr

structure ColumnRecipe where
  kind : ColumnKind
  columnName : String
  nullable : Bool := false
  primaryKey : Bool := false
  autoIncrement : Bool := false
  references : Option ColumnRef := none
deriving DecidableEq, Repr

/-- A column of a table object, with its name there and the type of its values. -/
structure ColumnSpec where
  name : String
  valueType : ValueType
  recipe : ColumnRecipe
deriving DecidableEq, Repr

end EntityTables
