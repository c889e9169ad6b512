import EntityTables.Kotlin.Literal
import EntityTables.Kotlin.TypeName
import EntityTables.Output.Unit

/-!
# The source of an output unit

A source file has a header, the clause of its package, the imports of what it uses, a table
object for each declaration and a function for each wrapper.
-/

namespace EntityTables.Kotlin

/-- The call that makes a column. -/
def initializer (recipe : ColumnRecipe) : String :=
  let arguments :=
    literal recipe.columnName :: recipe.kind.parameters.map fun parameter => toString parameter.toNat
  recipe.kind.constructorName ++ "(" ++ ", ".intercalate arguments ++ ")" ++
    (if recipe.primaryKey then ".primaryKey()" else "") ++
    (if recipe.autoIncrement then ".autoIncrement()" else "") ++
    (match recipe.references with
      | some target => ".references(" ++ target.tableObject ++ "." ++ target.column ++ ")"
      | none => "") ++
    (if recipe.nullable then ".nullable()" else "")

def columnLine (package : String) (column : ColumnSpec) : String :=
  "    val " ++ column.name ++ ": Column<" ++
    typeName package column.recipe.nullable column.valueType ++ "> = " ++
    initializer column.recipe ++ "\n"

def objectText (package : String) (declaration : Declaration) : String :=
  "object " ++ declaration.objectName ++ " : Table(" ++ literal declaration.tableName ++
    ") \x7b\n" ++ String.join (declaration.columns.map (columnLine package)) ++ "\x7d\n"

def wrapperText (package : String) (wrapper : Wrapper) : String :=
  let type := typeName package false wrapper.attributeType
  "fun Table." ++ wrapper.name ++ "(columnName: String): Column<" ++ type ++ "> = " ++
    wrapper.carrier.functionName ++ "<" ++ type ++ ">(columnName, \x7b " ++
    wrapper.converter ++ "().convertToEntityAttribute(it) \x7d, \x7b " ++
    wrapper.converter ++ "().convertToDatabaseColumn(it) \x7d)\n"

def qualified (package name : String) : String :=
  package ++ "." ++ name

/-- What a column needs from the packages of the settings besides tables and columns. -/
def columnImport? (settings : Settings) (column : ColumnSpec) : Option String :=
  match column.recipe.kind with
  | .dateTime => some (qualified settings.dslPackage "datetime")
  | .localDateTime => some (qualified settings.runtimePackage "localDateTime")
  | .zonedDateTime => some (qualified settings.runtimePackage "zonedDateTime")
  | _ => none

/-- Everything a unit uses from other packages, as an ordered set. -/
def imports (settings : Settings) (unit : OutputUnit) : List String :=
  Ordered.ofList <|
    (if unit.isEmpty then []
      else [qualified settings.dslPackage "Column", qualified settings.dslPackage "Table"]) ++
    unit.columns.filterMap (columnImport? settings) ++
    unit.wrappers.map (fun wrapper =>
      qualified settings.runtimePackage wrapper.carrier.functionName) ++
    unit.externals.map fun external => qualified external.package external.tableObject

/-- The comment at the top of every file. -/
def header : String :=
  "// Auto-generated by etgen (Entity Table Generator)\n" ++
    "// DO NOT EDIT - Changes will be overwritten\n\n"

/-- The clause that names the package of a file; there is none for the root package. -/
def packageClause (package : String) : String :=
  if package = "" then "" else "package " ++ package ++ "\n\n"

def source (settings : Settings) (unit : OutputUnit) : String :=
  header ++ packageClause unit.package ++
    String.join ((imports settings unit).map fun name => "import " ++ name ++ "\n") ++ "\n" ++
    String.join (unit.declarations.map fun declaration =>
      objectText unit.package declaration ++ "\n") ++
    String.join (unit.wrappers.map fun wrapper => wrapperText unit.package wrapper ++ "\n")

structure SourceFile where
  package : String
  fileName : String
  source : String
deriving DecidableEq, Repr

/-- The path of a file below the root of the sources: a directory for each part of its package. -/
def SourceFile.relativePath (file : SourceFile) : String :=
  let directory := file.package.map fun c => if c = '.' then '/' else c
  (if file.package = "" then "" else directory ++ "/") ++ file.fileName ++ ".kt"

def sourceFile (settings : Settings) (unit : OutputUnit) : SourceFile where
  package := unit.package
  fileName := settings.fileName
  source := source settings unit

end EntityTables.Kotlin
