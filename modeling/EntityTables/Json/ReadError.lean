import EntityTables.Decimal.Shortest
import EntityTables.Json.Node
import EntityTables.Text.Quoted

/-!
# Why a text cannot be read as a value

Either the text ends too early, or it is not JSON, or it is JSON of the wrong kind; only the
last has a message, which names what was found and what was expected.
-/

namespace EntityTables.Json

open Decimal (Double Layout)

/-- What stands in a text, as far as a message shows it. -/
inductive Found where
  | null
  | bool (value : Bool)
  | number (value : Number)
  | string (text : String)
  | sequence
  | map
deriving DecidableEq, Repr

/-- A reason why a text is not read. -/
inductive ReadError where
  | truncated
  /-- The text is not JSON, or has a form that no value of the expected kind has. -/
  | malformed
  | wrongType (found : Found) (expected : String)
  | wrongValue (found : Found) (expected : String)
  | wrongLength (found : Nat) (record : String) (fields : Nat)
  | unknownVariant (name : String) (variants : List String)
  | missingField (name : String)
  | duplicateField (name : String)
deriving DecidableEq, Repr

/-- Numbers in messages: the digits are written in place from `0.00001` to below `10 ^ 16`. -/
def messageLayout : Layout where
  leastInPlace := -5
  greatestInPlace := 15
  exponentMark := ['e']
  exponentPlus := ['+']

def floatText (negative : Bool) (magnitude : Double) : List Char :=
  (if negative then ['-'] else []) ++ messageLayout.text magnitude.shortest

def Found.text : Found → String
  | .null => "null"
  | .bool value => s!"boolean `{value}`"
  | .number (.integer value) => s!"integer `{value}`"
  | .number (.float negative magnitude) =>
    s!"floating point `{String.ofList (floatText negative magnitude)}`"
  | .string text => s!"string {Text.quoted text}"
  | .sequence => "sequence"
  | .map => "map"

namespace ReadError

def message? : ReadError → Option String
  | .truncated => none
  | .malformed => none
  | .wrongType found expected => some s!"invalid type: {found.text}, expected {expected}"
  | .wrongValue found expected => some s!"invalid value: {found.text}, expected {expected}"
  | .wrongLength found record fields =>
    some s!"invalid length {found}, expected struct {record} with {fields} elements"
  | .unknownVariant name variants =>
    let choices := ", ".intercalate (variants.map fun variant => s!"`{variant}`")
    some s!"unknown variant `{name}`, expected one of {choices}"
  | .missingField name => some s!"missing field `{name}`"
  | .duplicateField name => some s!"duplicate field `{name}`"

end ReadError

/-- The error of a reader that meets a fault. -/
def Fault.error : Fault → ReadError
  | .ended | .cutWord | .cutNumber => .truncated
  | .unexpected => .malformed

/-- The error of a reader that meets a fault while it skips a value.  A number that is cut off
counts as a number of bad form. -/
def Fault.skipError : Fault → ReadError
  | .ended | .cutWord => .truncated
  | .unexpected | .cutNumber => .malformed

end EntityTables.Json
