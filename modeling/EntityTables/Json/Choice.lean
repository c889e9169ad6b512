import EntityTables.Json.Codec

/-!
# A choice between names

A value that is one of several named variants is written as its name.  It is read from its
name, or from an object with the name as its only key and `null` as the value.
-/

namespace EntityTables.Json

variable {α : Type}

/-- The variants of a type in order, with their names. -/
structure Choice (α : Type) where
  variants : List (String × α)
  name : α → String

namespace Choice

def ofName (choice : Choice α) (name : String) : Except ReadError α :=
  match choice.variants.lookup name with
  | some value => .ok value
  | none => .error (.unknownVariant name (choice.variants.map (·.1)))

/-- The content of a variant in object form: it carries nothing. -/
def checkContent : Node → Except ReadError Unit
  | .leaf .null => .ok ()
  | node => .error (node.mismatch "unit")

/-- What follows the only member of the object form. -/
def checkEnd (further : List (Token × Node)) (ending : Ending) : Except ReadError Unit :=
  if further.isEmpty then ending.check else .error .malformed

def codec (choice : Choice α) : Codec α where
  read
    | .leaf token => do
      choice.ofName (← token.readKey)
    | .array _ _ => .error .malformed
    | .object [] _ => .error .malformed
    | .object ((key, content) :: further) ending => do
      let value ← choice.ofName (← key.readKey)
      checkContent content
      checkEnd further ending
      pure value
  write value := .string (choice.name value)

end Choice
end EntityTables.Json
