import EntityTables.Model.ValueType

/-!
# Names of types in the source

A type of the default package or of the file's own package is called by its simple name.  A
native type is called by its own name however it was spelled, and every other type by its
qualified name.
-/

namespace EntityTables.Kotlin

/-- The package whose types need no qualification anywhere. -/
def defaultPackage : String := "kotlin"

/-- The name of a type in a file of the package. -/
def simpleTypeName (package : String) (type : ValueType) : String :=
  if type.package = defaultPackage ∨ type.package = package then
    type.simpleName
  else
    match type.native? with
    | some native =>
      if native.valueType.package = defaultPackage then native.valueType.simpleName
      else native.valueType.qualifiedName
    | none => type.qualifiedName

/-- The name of a type, marked if it admits null. -/
def typeName (package : String) (nullable : Bool) (type : ValueType) : String :=
  if nullable then simpleTypeName package type ++ "?" else simpleTypeName package type

end EntityTables.Kotlin
