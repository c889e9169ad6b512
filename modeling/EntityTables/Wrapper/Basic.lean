import EntityTables.Column.Member

/-!
# Wrappers of converters

A value with a converter is stored in a column of a carrier type.  The column is made by a
wrapper, a generated function that reads and writes through the converter.
-/

namespace EntityTables

/-- The types in which converters can store values. -/
inductive Carrier where
  | string
  | long
deriving DecidableEq, Repr

def Carrier.functionName : Carrier → String
  | .string => "stringWrapper"
  | .long => "longWrapper"

def Converter.carrier (converter : Converter) : Except EmissionError Carrier :=
  match converter.targetType.native? with
  | some .string => .ok .string
  | some .long => .ok .long
  | _ => .error (.converterTargetNotSupported converter.targetType)

/-- A function that makes the columns of a converted value. -/
structure Wrapper where
  name : String
  attributeType : ValueType
  converter : String
  carrier : Carrier
deriving DecidableEq, Repr

namespace Wrapper

/-- The two functions do the same, whatever their names. -/
def sameBody (first second : Wrapper) : Bool :=
  first.attributeType = second.attributeType && first.converter = second.converter &&
    first.carrier = second.carrier

end Wrapper

/-- The wrapper of a member with a converter; it has the name of the member. -/
def Member.wrapper? (member : Member) : Option (Except EmissionError Wrapper) :=
  member.converter.map fun converter =>
    (⟨member.name, member.type, converter.name, ·⟩) <$> converter.carrier

end EntityTables
