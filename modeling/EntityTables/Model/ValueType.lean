/-!
# The types of values

Ids, properties and converters declare their types by package and name.  Some of these types
have a column of their own; they are the `NativeType`s, and most can be spelled in two ways.
-/

namespace EntityTables

/-- A declared type: its package and its simple name. -/
structure ValueType where
  package : String
  simpleName : String
deriving DecidableEq, Repr

namespace ValueType

/-- The package, a dot and the simple name, or only the name for a type without a package. -/
def qualifiedName (type : ValueType) : String :=
  if type.package = "" then type.simpleName else type.package ++ "." ++ type.simpleName

end ValueType

/-- The types of values that have a column constructor. -/
inductive NativeType where
  | string
  | long
  | int
  | short
  | boolean
  | float
  | double
  | bigDecimal
  | uuid
  | dateTime
  | localDateTime
  | zonedDateTime
deriving DecidableEq, Repr

namespace NativeType

def all : List NativeType :=
  [.string, .long, .int, .short, .boolean, .float, .double, .bigDecimal, .uuid, .dateTime,
    .localDateTime, .zonedDateTime]

theorem mem_all (type : NativeType) : type ∈ all := by
  cases type <;> decide

def name : NativeType → String
  | .string => "String"
  | .long => "Long"
  | .int => "Int"
  | .short => "Short"
  | .boolean => "Boolean"
  | .float => "Float"
  | .double => "Double"
  | .bigDecimal => "BigDecimal"
  | .uuid => "Uuid"
  | .dateTime => "DateTime"
  | .localDateTime => "LocalDateTime"
  | .zonedDateTime => "ZonedDateTime"

/-- The declared type that stands for a native type. -/
def valueType : NativeType → ValueType
  | .string => ⟨"kotlin", "String"⟩
  | .long => ⟨"kotlin", "Long"⟩
  | .int => ⟨"kotlin", "Int"⟩
  | .short => ⟨"kotlin", "Short"⟩
  | .boolean => ⟨"kotlin", "Boolean"⟩
  | .float => ⟨"kotlin", "Float"⟩
  | .double => ⟨"kotlin", "Double"⟩
  | .bigDecimal => ⟨"java.math", "BigDecimal"⟩
  | .uuid => ⟨"java.util", "UUID"⟩
  | .dateTime => ⟨"org.joda.time", "DateTime"⟩
  | .localDateTime => ⟨"java.time", "LocalDateTime"⟩
  | .zonedDateTime => ⟨"java.time", "ZonedDateTime"⟩

/-- The boxed spelling of a native type, for the types that have one. -/
def boxed? : NativeType → Option ValueType
  | .string => some ⟨"java.lang", "String"⟩
  | .long => some ⟨"java.lang", "Long"⟩
  | .int => some ⟨"java.lang", "Integer"⟩
  | .short => some ⟨"java.lang", "Short"⟩
  | .boolean => some ⟨"java.lang", "Boolean"⟩
  | .float => some ⟨"java.lang", "Float"⟩
  | .double => some ⟨"java.lang", "Double"⟩
  | .bigDecimal | .uuid | .dateTime | .localDateTime | .zonedDateTime => none

/-- Whether a declared type spells the native type. -/
def isSpelled (native : NativeType) (type : ValueType) : Bool :=
  type = native.valueType || some type = native.boxed?

/-- The types that a primary key, and a foreign key to it, may have. -/
def isKeyType : NativeType → Bool
  | .string | .long | .int | .short | .uuid => true
  | _ => false

/-- The types of whole numbers that a database can count up by itself. -/
def isIntegral : NativeType → Bool
  | .long | .int | .short => true
  | _ => false

end NativeType

/-- The native type that a declared type spells, if it spells one. -/
def ValueType.native? (type : ValueType) : Option NativeType :=
  NativeType.all.find? (·.isSpelled type)

/-- A native type is spelled by its own declared type. -/
theorem NativeType.native?_valueType (native : NativeType) :
    native.valueType.native? = some native := by
  cases native <;> decide

end EntityTables
