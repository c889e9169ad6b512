import Mathlib.Logic.Relation
import EntityTables.Proofs.Json.Codecs

/-!
# Edits that readers overlook

A document can be edited so that it still says the same.  In an object that stands for a record,
the members can be put in another order, members that the record does not know can be added, and
so can members that spell out the default of their field.  A `Schema` says where in a tree the
records stand and what their fields are, and `Schema.Edit` is one such edit, at any depth.

A reader overlooks an edit when it reads the same value before and behind it, or none both times.
It may fail with different errors, because the first problem of a text can become another one.

* `Schema.Edit`: the edits of a tree;
* `Codec.Overlooks`: a reader that overlooks the edits of a schema;
* `Codec.overlooks_list`, `overlooks_optional`: lists and values that may be absent;
* `Codec.Overlooks.ofText_eq`: texts that differ by edits are read alike.
-/

namespace EntityTables.Json

/-! ## Edits -/

/-- What a document knows of a field: its name, the tree that spells out its default, if it has
one, and where records stand in its content. -/
structure FieldSchema (σ : Type) where
  name : String
  default? : Option Node
  content : σ

/-- Where the records stand in a tree. -/
inductive Schema where
  /-- Nowhere: the content of the tree counts as it is. -/
  | plain
  | list (item : Schema)
  | record (fields : List (FieldSchema Schema))

namespace FieldSchema

/-- A field that has to stand in the document. -/
def required (name : String) (content : Schema) : FieldSchema Schema := ⟨name, none, content⟩

/-- A field that may be left out instead of being `null`. -/
def optional (name : String) (content : Schema) : FieldSchema Schema :=
  ⟨name, some (.leaf .null), content⟩

/-- A field that may be left out instead of having its default. -/
def defaulted (name : String) (content : Schema) (value : Node) : FieldSchema Schema :=
  ⟨name, some value, content⟩

end FieldSchema

/-- One edit of a tree.  Members are added and edited at the front of an object, since they can be
brought to any place by `reorder`. -/
inductive Schema.Edit : Schema → Node → Node → Prop
  | reorder {fields : List (FieldSchema Schema)} {members members' : List (Token × Node)}
      (hperm : members.Perm members') :
      Edit (.record fields) (.object members .closed) (.object members' .closed)
  | addUnknown {fields : List (FieldSchema Schema)} {members : List (Token × Node)} {key : Token}
      {name : String} {value : Node} (hkey : key.readKey = .ok name)
      (hunknown : name ∉ fields.map (·.name)) (hvalue : value.WellFormed) :
      Edit (.record fields) (.object members .closed) (.object ((key, value) :: members) .closed)
  | addDefault {fields : List (FieldSchema Schema)} {members : List (Token × Node)} {key : Token}
      {field : FieldSchema Schema} {value : Node} (hfield : field ∈ fields)
      (hkey : key.readKey = .ok field.name) (hdefault : field.default? = some value)
      (habsent : ∀ member ∈ members, member.1.readKey ≠ .ok field.name) :
      Edit (.record fields) (.object members .closed) (.object ((key, value) :: members) .closed)
  | member {fields : List (FieldSchema Schema)} {members : List (Token × Node)} {key : Token}
      {field : FieldSchema Schema} {value value' : Node} (hfield : field ∈ fields)
      (hkey : key.readKey = .ok field.name) (hedit : Edit field.content value value') :
      Edit (.record fields) (.object ((key, value) :: members) .closed)
        (.object ((key, value') :: members) .closed)
  /-- Records can also be written as arrays, with their fields in order. -/
  | field {fields : List (FieldSchema Schema)} {before after : List Node}
      {field : FieldSchema Schema} {value value' : Node} (hfield : fields[before.length]? = some field)
      (hedit : Edit field.content value value') :
      Edit (.record fields) (.array (before ++ value :: after) .closed)
        (.array (before ++ value' :: after) .closed)
  | item {schema : Schema} {before after : List Node} {value value' : Node}
      (hedit : Edit schema value value') :
      Edit (.list schema) (.array (before ++ value :: after) .closed)
        (.array (before ++ value' :: after) .closed)

/-- Only arrays and objects are edited. -/
theorem Schema.Edit.ne_null {schema : Schema} {node node' : Node}
    (hedit : schema.Edit node node') : node ≠ .leaf .null ∧ node' ≠ .leaf .null := by
  cases hedit <;> exact ⟨Node.noConfusion, Node.noConfusion⟩

/-! ## Readers -/

/-- The reader reads the same before and behind an edit, or fails both times. -/
def Codec.Overlooks {α : Type} (codec : Codec α) (schema : Schema) : Prop :=
  ∀ node node', schema.Edit node node' →
    (codec.read node).toOption = (codec.read node').toOption

theorem toOption_map {ε α β : Type} (f : α → β) (result : Except ε α) :
    (f <$> result).toOption = result.toOption.map f := by
  cases result <;> rfl

theorem toOption_bind {ε α β : Type} (result : Except ε α) (f : α → Except ε β) :
    (result >>= f).toOption = result.toOption.bind fun value => (f value).toOption := by
  cases result <;> rfl

theorem toOption_mapM {ε α β : Type} (f : α → Except ε β) (elements : List α) :
    (elements.mapM f).toOption = elements.mapM fun element => (f element).toOption := by
  induction elements with
  | nil => rfl
  | cons element elements ih =>
      rw [List.mapM_cons, List.mapM_cons, toOption_bind, ← ih]
      apply congrArg
      funext value
      rw [toOption_bind]
      rfl

variable {α : Type}

namespace Codec

variable {codec : Codec α} {schema : Schema}

theorem overlooks_plain (codec : Codec α) : codec.Overlooks .plain := by
  intro node node' hedit
  cases hedit

theorem overlooks_list (hcodec : codec.Overlooks schema) : codec.list.Overlooks (.list schema) := by
  intro node node' hedit
  cases hedit with
  | @item _ before after value value' hedit =>
      have hread : ∀ items, (codec.list.read (.array items .closed)).toOption =
          items.mapM fun item => (codec.read item).toOption := by
        intro items
        rw [← toOption_mapM]
        show (items.mapM codec.read >>= fun values => .ok values).toOption = _
        cases items.mapM codec.read <;> rfl
      simp only [hread, List.mapM_append, List.mapM_cons, hcodec _ _ hedit]

theorem overlooks_optional (hcodec : codec.Overlooks schema) :
    codec.optional.Overlooks schema := by
  intro node node' hedit
  obtain ⟨hnode, hnode'⟩ := hedit.ne_null
  rw [optional_read hnode, optional_read hnode', toOption_map, toOption_map, hcodec _ _ hedit]

/-- Any number of edits is overlooked, in either direction. -/
theorem Overlooks.read_eq (hcodec : codec.Overlooks schema) {node node' : Node}
    (hedits : Relation.EqvGen schema.Edit node node') :
    (codec.read node).toOption = (codec.read node').toOption := by
  induction hedits with
  | rel node node' hedit => exact hcodec node node' hedit
  | refl node => rfl
  | symm _ _ _ ih => exact ih.symm
  | trans _ _ _ _ _ ih ih' => exact ih.trans ih'

/-- Texts that differ by edits are read alike. -/
theorem Overlooks.ofText_eq (hcodec : codec.Overlooks schema) {node node' : Node}
    {text text' : String} (htext : node.Written text) (htext' : node'.Written text')
    (hedits : Relation.EqvGen schema.Edit node node') :
    (codec.ofText text).toOption = (codec.ofText text').toOption := by
  rw [ofText_written codec htext, ofText_written codec htext', hcodec.read_eq hedits]

end Codec

end EntityTables.Json
