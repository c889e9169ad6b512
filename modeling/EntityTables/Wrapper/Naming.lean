import EntityTables.Naming
import EntityTables.Wrapper.Basic

/-!
# Names of wrappers

Wrappers with different bodies need different names.  A wrapper is called by its own name, or
else by the name qualified with its entity, or else by the qualified name with a number.  The
first of these names that is free is taken, and the first that already belongs to a wrapper
with the same body is used again.
-/

namespace EntityTables

/-- The name that a column calls its wrapper by. -/
inductive WrapperChoice where
  /-- The name of a wrapper that exists already. -/
  | reuse (name : String)
  /-- A name that no wrapper has. -/
  | fresh (name : String)
deriving DecidableEq, Repr

def WrapperChoice.name : WrapperChoice → String
  | .reuse name => name
  | .fresh name => name

namespace Wrapper

/-- The name of a wrapper qualified with the name of its entity. -/
def qualifiedName (entityName name : String) : String :=
  variableName entityName ++ objectName name

/-- The names that a wrapper may have, in the order in which they are tried. -/
def candidate (entityName name : String) : Nat → String
  | 0 => name
  | 1 => qualifiedName entityName name
  | number => qualifiedName entityName name ++ toString number

/-- What a name is for a wrapper: free, in use for the same body, or taken. -/
def choiceOf? (bound : List Wrapper) (wrapper : Wrapper) (name : String) : Option WrapperChoice :=
  match bound.find? (·.name = name) with
  | none => some (.fresh name)
  | some other => if other.sameBody wrapper then some (.reuse name) else none

/-- The first usable name of a wrapper.  Two candidates more than there are bound wrappers are
enough, because the candidates from the second on are all different. -/
def choose (bound : List Wrapper) (entityName : String) (wrapper : Wrapper) : WrapperChoice :=
  let candidates := (List.range (bound.length + 2)).map (candidate entityName wrapper.name)
  (candidates.findSome? (choiceOf? bound wrapper)).getD
    (.fresh (candidate entityName wrapper.name (bound.length + 2)))

end Wrapper
end EntityTables
