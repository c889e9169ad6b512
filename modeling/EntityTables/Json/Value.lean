/-!
# JSON values and their text

A `Value` is what is written as JSON.  `Value.text` writes it under a `Spacing`, which says
where blanks stand and nothing else: the compact text has none, the indented text has every
item and member on a line of its own.  An empty array or object is written without blanks.
-/

namespace EntityTables.Json

/-- A JSON value with whole numbers; members of an object are kept in order. -/
inductive Value where
  | null
  | bool (value : Bool)
  | number (value : Int)
  | string (text : String)
  | array (items : List Value)
  | object (members : List (String × Value))
deriving Inhabited

/-- One character inside a JSON string: the quote, the backslash and the control characters
are escaped. -/
def escapedChar (c : Char) : List Char :=
  match c with
  | '"' => ['\\', '"']
  | '\\' => ['\\', '\\']
  | '\x08' => ['\\', 'b']
  | '\x0c' => ['\\', 'f']
  | '\n' => ['\\', 'n']
  | '\r' => ['\\', 'r']
  | '\t' => ['\\', 't']
  | _ =>
    if c.toNat < 0x20 then
      ['\\', 'u', '0', '0', Nat.digitChar (c.toNat / 16), Nat.digitChar (c.toNat % 16)]
    else
      [c]

def stringText (text : String) : List Char :=
  '"' :: text.toList.flatMap escapedChar ++ ['"']

def numberText : Int → List Char
  | .ofNat n => Nat.toDigits 10 n
  | .negSucc n => '-' :: Nat.toDigits 10 (n + 1)

/-- Where blanks stand in a text. -/
structure Spacing where
  /-- What precedes an item at a depth, and a closing bracket. -/
  newline : Nat → List Char
  /-- What follows a colon. -/
  afterColon : List Char

/-- No blanks at all. -/
def Spacing.compact : Spacing := ⟨fun _ => [], []⟩

/-- A line for each item, indented by two blanks for each level. -/
def Spacing.indented : Spacing := ⟨fun depth => '\n' :: List.replicate (2 * depth) ' ', [' ']⟩

namespace Value

mutual

/-- The text of a value that stands at a depth. -/
def textAt (spacing : Spacing) (depth : Nat) : Value → List Char
  | .null => ['n', 'u', 'l', 'l']
  | .bool true => ['t', 'r', 'u', 'e']
  | .bool false => ['f', 'a', 'l', 's', 'e']
  | .number value => numberText value
  | .string text => stringText text
  | .array [] => ['[', ']']
  | .array (first :: rest) =>
    '[' :: spacing.newline (depth + 1) ++ first.textAt spacing (depth + 1) ++
      itemsText spacing (depth + 1) rest ++ spacing.newline depth ++ [']']
  | .object [] => ['\x7b', '\x7d']
  | .object ((key, first) :: rest) =>
    '\x7b' :: spacing.newline (depth + 1) ++ stringText key ++ ':' :: spacing.afterColon ++
      first.textAt spacing (depth + 1) ++
      membersText spacing (depth + 1) rest ++ spacing.newline depth ++ ['\x7d']

def itemsText (spacing : Spacing) (depth : Nat) : List Value → List Char
  | [] => []
  | item :: rest =>
    ',' :: spacing.newline depth ++ item.textAt spacing depth ++ itemsText spacing depth rest

def membersText (spacing : Spacing) (depth : Nat) : List (String × Value) → List Char
  | [] => []
  | (key, value) :: rest =>
    ',' :: spacing.newline depth ++ stringText key ++ ':' :: spacing.afterColon ++
      value.textAt spacing depth ++ membersText spacing depth rest

end

def text (spacing : Spacing) (value : Value) : String :=
  String.ofList (value.textAt spacing 0)

end Value
end EntityTables.Json
