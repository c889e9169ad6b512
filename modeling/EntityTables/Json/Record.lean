import EntityTables.Json.Codec

/-!
# Records

A record is described by its fields in order.  It is written as an object with the fields in
that order, and it is read from an object with its members in any order, or from an array with
the fields in order.  Members of an object that the record does not know are passed over.  The
same description serves both directions.
-/

namespace EntityTables.Json

/-- A field of the records of type `ρ`. -/
structure Field (ρ : Type) : Type 1 where
  /-- The type of its content. -/
  Content : Type
  name : String
  codec : Codec Content
  get : ρ → Content
  /-- What the field is when it does not stand in the text; nothing when it has to. -/
  absent : Option Content := none
  /-- Whether the field is written. -/
  isWritten : Content → Bool := fun _ => true

namespace Field

variable {ρ α : Type}

/-- A field that has to stand in the text. -/
def required (name : String) (codec : Codec α) (get : ρ → α) : Field ρ :=
  { Content := α, name, codec, get }

/-- A field that may be left out of the text and is always written. -/
def defaulted (name : String) (codec : Codec α) (get : ρ → α) (value : α) : Field ρ :=
  { Content := α, name, codec, get, absent := some value }

/-- A field that is left out where it has no value. -/
def optional (name : String) (codec : Codec α) (get : ρ → Option α) : Field ρ :=
  { Content := Option α, name, codec := codec.optional, get, absent := some none,
    isWritten := Option.isSome }

end Field

def Contents {ρ : Type} : List (Field ρ) → Type
  | [] => Unit
  | field :: fields => field.Content × Contents fields

/-- The contents of fields as far as they have been read. -/
def Slots {ρ : Type} : List (Field ρ) → Type
  | [] => Unit
  | field :: fields => Option field.Content × Slots fields

namespace Contents

variable {ρ : Type}

def ofRecord (record : ρ) : (fields : List (Field ρ)) → Contents fields
  | [] => ()
  | field :: fields => (field.get record, ofRecord record fields)

/-- The contents of the fields that do not stand in the text.  `position` counts the fields
before them. -/
def ofAbsent (record : String) (total : Nat) :
    (fields : List (Field ρ)) → (position : Nat) → Except ReadError (Contents fields)
  | [], _ => .ok ()
  | field :: fields, position =>
    match field.absent with
    | none => .error (.wrongLength position record total)
    | some content => (content, ·) <$> ofAbsent record total fields (position + 1)

/-- The contents of fields from the items of an array. -/
def ofItems (record : String) (total : Nat) (ending : Ending) :
    (fields : List (Field ρ)) → (position : Nat) → List Node → Except ReadError (Contents fields)
  | [], _, [] => ending.check
  | [], _, _ :: _ => .error .malformed
  | field :: fields, position, item :: items => do
    let content ← field.codec.read item
    let contents ← ofItems record total ending fields (position + 1) items
    pure (content, contents)
  | field :: fields, position, [] => do
    ending.check
    ofAbsent record total (field :: fields) position

end Contents

namespace Slots

variable {ρ : Type}

def empty : (fields : List (Field ρ)) → Slots fields
  | [] => ()
  | _ :: fields => (none, empty fields)

/-- A member of the object is read into its field. -/
def put (key : String) (node : Node) :
    (fields : List (Field ρ)) → Slots fields → Except ReadError (Slots fields)
  | [], slots => do
    node.skip
    pure slots
  | field :: fields, (slot, slots) =>
    if key = field.name then
      if slot.isSome then
        .error (.duplicateField key)
      else do
        let content ← field.codec.read node
        pure (some content, slots)
    else
      (slot, ·) <$> put key node fields slots

/-- All members of the object have been read: a field without one has the content of an absent
field. -/
def contents : (fields : List (Field ρ)) → Slots fields → Except ReadError (Contents fields)
  | [], _ => .ok ()
  | field :: fields, (slot, slots) =>
    match slot.or field.absent with
    | none => .error (.missingField field.name)
    | some content => (content, ·) <$> contents fields slots

end Slots

/-- A type of records with the name it has in messages. -/
structure Record (ρ : Type) : Type 1 where
  name : String
  fields : List (Field ρ)
  build : Contents fields → ρ
  /-- A record is what is built from the contents of its fields. -/
  build_ofRecord : ∀ record, build (Contents.ofRecord record fields) = record

namespace Record

variable {ρ : Type}

/-- Reads one member after the others. -/
def readMember (description : Record ρ) (slots : Slots description.fields)
    (keyed : Token × Node) : Except ReadError (Slots description.fields) := do
  let key ← keyed.1.readKey
  slots.put key keyed.2

def members (description : Record ρ) (record : ρ) : List (String × Value) :=
  description.fields.filterMap fun field =>
    let content := field.get record
    if field.isWritten content then some (field.name, field.codec.write content) else none

def codec (description : Record ρ) : Codec ρ where
  read
    | .array items ending =>
      description.build <$>
        Contents.ofItems description.name description.fields.length ending description.fields 0 items
    | .object members ending => do
      let slots ← members.foldlM description.readMember (Slots.empty description.fields)
      ending.check
      description.build <$> slots.contents
    | node => .error (node.mismatch s!"struct {description.name}")
  write record := .object (description.members record)

end Record
end EntityTables.Json
