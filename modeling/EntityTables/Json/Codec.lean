import EntityTables.Json.ReadError
import EntityTables.Json.Value

/-!
# Reading and writing values as JSON

A `Codec` holds both directions for one type: how a value is read from the node of a text, and
which JSON value it is written as.  Reading goes through the text from left to right and ends
with the first problem.  This module has the codecs of the simple types; those of records and
of choices between names are built in modules of their own.
-/

namespace EntityTables.Json

/-- How the values of a type are read and written. -/
structure Codec (α : Type) where
  read : Node → Except ReadError α
  write : α → Value

/-- What a message shows for a token, unless the token is itself at fault. -/
def Token.found : Token → Except Fault Found
  | .null => .ok .null
  | .bool value => .ok (.bool value)
  | .number numeral =>
    match numeral.value? with
    | some value => .ok (.number value)
    | none => .error .unexpected
  | .string literal => .string <$> literal.text
  | .openBracket => .ok .sequence
  | .openBrace => .ok .map
  | .closeBracket | .closeBrace | .comma | .colon => .error .unexpected
  | .broken fault => .error fault

/-- The error of a token in a place where something else is expected. -/
def Token.mismatch (expected : String) (token : Token) : ReadError :=
  match token.found with
  | .ok found => .wrongType found expected
  | .error fault => fault.error

def Node.mismatch (expected : String) : Node → ReadError
  | .leaf token => token.mismatch expected
  | .array _ _ => .wrongType .sequence expected
  | .object _ _ => .wrongType .map expected

/-- Nothing follows the last item of an array or the last member of an object. -/
def Ending.check : Ending → Except ReadError Unit
  | .closed => .ok ()
  | .broken fault => .error fault.error

/-- The text of a token that has to be a string. -/
def Token.readText (expected : String) : Token → Except ReadError String
  | .string literal =>
    match literal.text with
    | .ok text => .ok text
    | .error fault => .error fault.error
  | token => .error (token.mismatch expected)

/-- The key of a member, where nothing but a string can stand. -/
def Token.readKey : Token → Except ReadError String
  | .string literal =>
    match literal.text with
    | .ok text => .ok text
    | .error fault => .error fault.error
  | .broken .ended => .error .truncated
  | _ => .error .malformed

/-- A value that is passed over has to be JSON, but its strings may have lone surrogates and
its numbers any size. -/
def Node.skip : Node → Except ReadError Unit
  | .leaf token =>
    match token.fault? with
    | none => .ok ()
    | some fault => .error fault.skipError
  | .array _ .closed | .object _ .closed => .ok ()
  | .array _ (.broken fault) | .object _ (.broken fault) => .error fault.skipError

namespace Codec

variable {α : Type}

def string : Codec String where
  read
    | .leaf token => token.readText "a string"
    | node => .error (node.mismatch "a string")
  write := .string

def bool : Codec Bool where
  read
    | .leaf (.bool value) => .ok value
    | node => .error (node.mismatch "a boolean")
  write := .bool

/-- The value of a number that has to be a whole number of 32 bits. -/
def uint32OfNumber : Number → Except ReadError UInt32
  | .integer value =>
    if 0 ≤ value ∧ value < UInt32.size then .ok (UInt32.ofNat value.toNat)
    else .error (.wrongValue (.number (.integer value)) "u32")
  | number => .error (.wrongType (.number number) "u32")

def uint32 : Codec UInt32 where
  read
    | .leaf (.number numeral) =>
      match numeral.value? with
      | some number => uint32OfNumber number
      | none => .error .malformed
    | node => .error (node.mismatch "u32")
  write value := .number value.toNat

/-- A value that may be absent: `null` stands for none. -/
def optional (codec : Codec α) : Codec (Option α) where
  read
    | .leaf .null => .ok none
    | node => some <$> codec.read node
  write
    | none => .null
    | some value => codec.write value

/-- Lists, as arrays. -/
def list (codec : Codec α) : Codec (List α) where
  read
    | .array items ending => do
      let values ← items.mapM codec.read
      ending.check
      pure values
    | node => .error (node.mismatch "a sequence")
  write values := .array (values.map codec.write)

/-- Reads a whole text: nothing but blanks may follow the value. -/
def ofText (codec : Codec α) (text : String) : Except ReadError α := do
  let document := Document.ofText text
  let value ← codec.read document.root
  if document.trailing then .error .malformed else .ok value

def toText (codec : Codec α) (spacing : Spacing) (value : α) : String :=
  (codec.write value).text spacing

end Codec
end EntityTables.Json
