import EntityTables.Text.LetterCase

/-!
# Names of variables and objects

A name is turned into a variable name or an object name by changing the case of its first
character; the rest of the name is kept.
-/

namespace EntityTables

/-- The name with its first character in another case. -/
def withFirst (toCase : Char → List Char) (name : String) : String :=
  match name.toList with
  | [] => ""
  | first :: rest => String.ofList (toCase first ++ rest)

/-- The name of a variable: `Customer` gives `customer`. -/
def variableName (name : String) : String :=
  withFirst Text.lowerCase name

/-- The name of an object: `products` gives `Products`. -/
def objectName (name : String) : String :=
  withFirst Text.upperCase name

end EntityTables
