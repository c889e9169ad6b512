import EntityTables.Json.Token

/-!
# The nodes of a JSON text

`Document.ofText` turns any text into a tree of nodes, as far as the text goes.  Where the text
stops being JSON a leaf stands for what was found there, and every array and object around it
ends with the fault.  A reader that walks the tree from left to right therefore meets a fault
exactly where it would meet it in the text, and nothing that stands behind it.

The tree is built by a machine that takes one token at a time and keeps the open arrays and
objects in a stack of frames, so there is no limit to how deep a text may nest.
-/

namespace EntityTables.Json

/-- How an array or object ends: with its closing bracket, or with the fault of the text. -/
inductive Ending where
  | closed
  | broken (fault : Fault)
deriving DecidableEq, Repr

/-- A value of a text.  The key of a member is the token that stands in its place. -/
inductive Node where
  | leaf (token : Token)
  | array (items : List Node) (ending : Ending)
  | object (members : List (Token × Node)) (ending : Ending)

/-- The fault of a token that stands where a value should. -/
def Token.fault? : Token → Option Fault
  | .null | .bool _ | .number _ => none
  | .string literal => literal.fault
  | .broken fault => some fault
  | .openBracket | .closeBracket | .openBrace | .closeBrace | .comma | .colon => some .unexpected

/-- The fault of a token that stands where the key of a member should. -/
def Token.keyFault? : Token → Option Fault
  | .string literal => literal.fault
  | .broken .ended => some .ended
  | _ => some .unexpected

/-- An array or object that is still open.  Items and members are in reverse order. -/
inductive Frame where
  /-- An array with the items read so far. -/
  | items (done : List Node)
  /-- An object with the members read so far. -/
  | members (done : List (Token × Node))
  /-- An object in which the value of a key is being read. -/
  | member (done : List (Token × Node)) (key : Token)

/-- What may come next. -/
inductive Place where
  | value
  /-- The first item of an array or its closing bracket. -/
  | firstItem
  /-- The first key of an object or its closing brace. -/
  | firstKey
  | key
  | colon
  /-- A comma or the closing bracket of the innermost frame. -/
  | next
deriving DecidableEq, Repr

/-- The tree of a text that breaks at `node`: everything around it ends with the fault. -/
def unwind (fault : Fault) (node : Node) : List Frame → Node
  | [] => node
  | .items done :: stack => unwind fault (.array (node :: done).reverse (.broken fault)) stack
  | .members done :: stack => unwind fault (.object done.reverse (.broken fault)) stack
  | .member done key :: stack =>
    unwind fault (.object ((key, node) :: done).reverse (.broken fault)) stack

/-- The tree of a text that breaks at a place, where `token` stands. -/
def brokenAt (fault : Fault) (token : Token) (place : Place) (stack : List Frame) : Node :=
  match place, stack with
  | .next, .items done :: stack => unwind fault (.array done.reverse (.broken fault)) stack
  | .next, .members done :: stack => unwind fault (.object done.reverse (.broken fault)) stack
  | .firstKey, .members done :: stack | .key, .members done :: stack =>
    unwind fault (.leaf (.broken fault)) (.member done token :: stack)
  | .colon, stack => unwind fault (.leaf (.broken fault)) stack
  | _, stack => unwind fault (.leaf token) stack

inductive Step where
  | go (place : Place) (stack : List Frame)
  | complete (root : Node)
  | stop (root : Node)

namespace Step

/-- A value is complete and becomes part of the innermost frame. -/
def ofValue (node : Node) : List Frame → Step
  | [] => .complete node
  | .items done :: stack => .go .next (.items (node :: done) :: stack)
  | .members done :: stack => .go .next (.members done :: stack)
  | .member done key :: stack => .go .next (.members ((key, node) :: done) :: stack)

/-- A token where a value should stand. -/
def atValue (stack : List Frame) : Token → Step
  | .openBracket => .go .firstItem (.items [] :: stack)
  | .openBrace => .go .firstKey (.members [] :: stack)
  | token =>
    match token.fault? with
    | none => .ofValue (.leaf token) stack
    | some fault => .stop (brokenAt fault token .value stack)

/-- A token where a key should stand. -/
def atKey (stack : List Frame) (token : Token) : Step :=
  match token.keyFault?, stack with
  | none, .members done :: stack => .go .colon (.member done token :: stack)
  | fault, stack => .stop (brokenAt (fault.getD .unexpected) token .key stack)

/-- A token at a place. -/
def ofToken (place : Place) (stack : List Frame) (token : Token) : Step :=
  match place, token, stack with
  | .value, token, stack => atValue stack token
  | .firstItem, .closeBracket, .items done :: stack => ofValue (.array done.reverse .closed) stack
  | .firstItem, token, stack => atValue stack token
  | .firstKey, .closeBrace, .members done :: stack =>
    ofValue (.object done.reverse .closed) stack
  | .firstKey, token, stack => atKey stack token
  | .key, token, stack => atKey stack token
  | .colon, .colon, stack => .go .value stack
  | .next, .comma, .items done :: stack => .go .value (.items done :: stack)
  | .next, .comma, .members done :: stack => .go .key (.members done :: stack)
  | .next, .closeBracket, .items done :: stack => ofValue (.array done.reverse .closed) stack
  | .next, .closeBrace, .members done :: stack => ofValue (.object done.reverse .closed) stack
  | place, token, stack => .stop (brokenAt .unexpected token place stack)

end Step

/-- The tree of the tokens, and the tokens behind a complete value. -/
def build (place : Place) (stack : List Frame) : List Token → Node × List Token
  | [] => (brokenAt .ended (.broken .ended) place stack, [])
  | token :: rest =>
    match Step.ofToken place stack token with
    | .go place stack => build place stack rest
    | .complete root => (root, rest)
    | .stop root => (root, [])

/-- A text as a tree, and whether something but blanks follows the value. -/
structure Document where
  root : Node
  trailing : Bool

def Document.ofText (text : String) : Document :=
  let (root, rest) := build .value [] (tokens text.toList)
  ⟨root, !rest.isEmpty⟩

end EntityTables.Json
