import EntityTables.Proofs.Json.EditedRecords
import EntityTables.Proofs.Model.RoundTrip

/-!
# What reading the model overlooks

Documents of the model may have the members of their objects in any order, may have members that
the model does not know, and may leave out or spell out what is a default: `null` for everything
that need not be there, `false` for a generated id and a nullable property, `true` for a mapped
association, and no properties and associations.  The schemas say so for each record, apart from
how the records are read, and every reader overlooks the edits of its schema.

* `EntityGraphs.schema`: where the records of the model stand, and their defaults;
* `EntityGraphs.overlooks_listCodec`: reading graphs overlooks the edits of documents;
* `EntityGraphs.ofText_of_edits`: documents that differ by edits are accepted as the same graphs, or
  refused for the same reason.
-/

namespace EntityTables

open Json (Codec Field FieldSchema Node Record Schema Value)

/-! ## The documents of the model -/

def ValueType.schema : Schema :=
  .record [.required "namespace" .plain, .required "simple_name" .plain]

def ColumnLimits.schema : Schema :=
  .record [.optional "length" .plain, .optional "precision" .plain, .optional "scale" .plain]

def Converter.schema : Schema :=
  .record [.required "name" .plain, .required "target_type" ValueType.schema]

def IdField.schema : Schema :=
  .record [
    .required "name" .plain,
    .required "column_name" .plain,
    .required "type" ValueType.schema,
    .optional "annotation" ColumnLimits.schema,
    .optional "converter" Converter.schema,
    .defaulted "generated_value" .plain (.leaf (.bool false))]

def Property.schema : Schema :=
  .record [
    .required "name" .plain,
    .required "column_name" .plain,
    .required "type" ValueType.schema,
    .defaulted "nullable" .plain (.leaf (.bool false)),
    .optional "annotation" ColumnLimits.schema,
    .optional "converter" Converter.schema]

def Association.schema : Schema :=
  .record [
    .required "name" .plain,
    .required "target" .plain,
    .required "type" .plain,
    .required "target_id" IdField.schema,
    .optional "join_column" .plain,
    .defaulted "mapped" .plain (.leaf (.bool true)),
    .optional "mapped_by" .plain,
    .optional "join_table" .plain]

def Entity.schema : Schema :=
  .record [
    .required "name" .plain,
    .required "qualified_name" .plain,
    .required "table" .plain,
    .optional "id" IdField.schema,
    .defaulted "properties" (.list Property.schema) (.array [] .closed),
    .defaulted "associations" (.list Association.schema) (.array [] .closed)]

def EntityGraph.schema : Schema :=
  .record [.required "name" .plain, .required "entities" (.list Entity.schema)]

def EntityGraphs.schema : Schema :=
  .list EntityGraph.schema

/-! ## The readers of the model -/

theorem ValueType.overlooks_codec : record.codec.Overlooks schema := by
  refine Record.overlooks_codec (by decide) ?_
  simp only [record, List.forall₂_cons]
  exact ⟨Field.follows_required (Codec.overlooks_plain _) _ _,
    Field.follows_required (Codec.overlooks_plain _) _ _,
    .nil⟩

theorem ColumnLimits.overlooks_codec : record.codec.Overlooks schema := by
  refine Record.overlooks_codec (by decide) ?_
  simp only [record, List.forall₂_cons]
  exact ⟨Field.follows_optional (Codec.overlooks_plain _) _ _,
    Field.follows_optional (Codec.overlooks_plain _) _ _,
    Field.follows_optional (Codec.overlooks_plain _) _ _,
    .nil⟩

theorem Converter.overlooks_codec : record.codec.Overlooks schema := by
  refine Record.overlooks_codec (by decide) ?_
  simp only [record, List.forall₂_cons]
  exact ⟨Field.follows_required (Codec.overlooks_plain _) _ _,
    Field.follows_required ValueType.overlooks_codec _ _,
    .nil⟩

theorem IdField.overlooks_codec : record.codec.Overlooks schema := by
  refine Record.overlooks_codec (by decide) ?_
  simp only [record, List.forall₂_cons]
  exact ⟨Field.follows_required (Codec.overlooks_plain _) _ _,
    Field.follows_required (Codec.overlooks_plain _) _ _,
    Field.follows_required ValueType.overlooks_codec _ _,
    Field.follows_optional ColumnLimits.overlooks_codec _ _,
    Field.follows_optional Converter.overlooks_codec _ _,
    Field.follows_defaulted (Codec.overlooks_plain _) _ _ rfl,
    .nil⟩

theorem Property.overlooks_codec : record.codec.Overlooks schema := by
  refine Record.overlooks_codec (by decide) ?_
  simp only [record, List.forall₂_cons]
  exact ⟨Field.follows_required (Codec.overlooks_plain _) _ _,
    Field.follows_required (Codec.overlooks_plain _) _ _,
    Field.follows_required ValueType.overlooks_codec _ _,
    Field.follows_defaulted (Codec.overlooks_plain _) _ _ rfl,
    Field.follows_optional ColumnLimits.overlooks_codec _ _,
    Field.follows_optional Converter.overlooks_codec _ _,
    .nil⟩

theorem Association.overlooks_codec : record.codec.Overlooks schema := by
  refine Record.overlooks_codec (by decide) ?_
  simp only [record, List.forall₂_cons]
  exact ⟨Field.follows_required (Codec.overlooks_plain _) _ _,
    Field.follows_required (Codec.overlooks_plain _) _ _,
    Field.follows_required (Codec.overlooks_plain _) _ _,
    Field.follows_required IdField.overlooks_codec _ _,
    Field.follows_optional (Codec.overlooks_plain _) _ _,
    Field.follows_defaulted (Codec.overlooks_plain _) _ _ rfl,
    Field.follows_optional (Codec.overlooks_plain _) _ _,
    Field.follows_optional (Codec.overlooks_plain _) _ _,
    .nil⟩

theorem Entity.overlooks_codec : record.codec.Overlooks schema := by
  refine Record.overlooks_codec (by decide) ?_
  simp only [record, List.forall₂_cons]
  exact ⟨Field.follows_required (Codec.overlooks_plain _) _ _,
    Field.follows_required (Codec.overlooks_plain _) _ _,
    Field.follows_required (Codec.overlooks_plain _) _ _,
    Field.follows_optional IdField.overlooks_codec _ _,
    Field.follows_defaulted (Codec.overlooks_list Property.overlooks_codec) _ _ rfl,
    Field.follows_defaulted (Codec.overlooks_list Association.overlooks_codec) _ _ rfl,
    .nil⟩

theorem EntityGraph.overlooks_codec : record.codec.Overlooks schema := by
  refine Record.overlooks_codec (by decide) ?_
  simp only [record, List.forall₂_cons]
  exact ⟨Field.follows_required (Codec.overlooks_plain _) _ _,
    Field.follows_required (Codec.overlooks_list Entity.overlooks_codec) _ _,
    .nil⟩

namespace EntityGraphs

theorem overlooks_listCodec : listCodec.Overlooks schema :=
  Codec.overlooks_list EntityGraph.overlooks_codec

/-- A text that is read is judged by the list that was read. -/
theorem ofText_eq_iff {text : String} {result : Except ModelError EntityGraphs} :
    ofText text = result.mapError .model ↔
      (listCodec.ofText text).toOption.map ofList = some result := by
  unfold ofText
  cases listCodec.ofText text with
  | error error => cases result <;> simp [Except.toOption, Except.mapError]
  | ok list =>
      cases hlist : ofList list <;> cases result <;>
        simp [Except.toOption, Except.mapError, hlist]

/-- Two JSON texts that differ by edits, at whatever depth, are accepted as the same graphs or not
at all, and they are refused for the same repeated entity or the same target that is missing. -/
theorem ofText_of_edits {text text' : String} {root root' : Node} (htext : root.Written text)
    (htext' : root'.Written text') (hedits : Relation.EqvGen schema.Edit root root') :
    (∀ graphs, ofText text = .ok graphs ↔ ofText text' = .ok graphs) ∧
      ∀ error, ofText text = .error (.model error) ↔ ofText text' = .error (.model error) := by
  have hread : (listCodec.ofText text).toOption = (listCodec.ofText text').toOption :=
    overlooks_listCodec.ofText_eq htext htext' hedits
  have hsame : ∀ result : Except ModelError EntityGraphs,
      ofText text = result.mapError .model ↔ ofText text' = result.mapError .model := by
    intro result
    rw [ofText_eq_iff, ofText_eq_iff, hread]
  exact ⟨fun graphs => hsame (.ok graphs), fun error => hsame (.error error)⟩

/-- A document of one graph with an item that refers to its parent.  `entity` and `association`
are further members, and `graph` arranges those of the graph around its entities. -/
def itemDocument (graph : Value → List (String × Value))
    (entity association : List (String × Value)) : Value :=
  let type : Value := .object [("namespace", .string "kotlin"), ("simple_name", .string "Long")]
  let id : Value := .object [("name", .string "id"), ("column_name", .string "id"), ("type", type)]
  let parent : Value := .object (association ++ [("name", .string "parent"),
    ("target", .string "shop.Item"), ("type", .string "ONE_TO_ONE"), ("target_id", id)])
  let item : Value := .object (entity ++ [("associations", .array [parent]),
    ("name", .string "Item"), ("qualified_name", .string "shop.Item"), ("table", .string "items")])
  .array [.object (graph (.array [item]))]

def graphMembers (entities : Value) : List (String × Value) :=
  [("entities", entities), ("name", .string "shop")]

def commentedMembers (entities : Value) : List (String × Value) :=
  ("comment", .array [.null]) :: graphMembers entities

def shortDocument : Value :=
  itemDocument graphMembers [] []

/-- The same document in another order, with a comment and with two defaults spelled out. -/
def longDocument : Value :=
  itemDocument (fun entities => (commentedMembers entities).reverse)
    [("properties", .array [])] [("mapped", .bool true)]

theorem edit_only_item {schema : Schema} {node node' : Node} (hedit : schema.Edit node node') :
    (Schema.list schema).Edit (.array [node] .closed) (.array [node'] .closed) :=
  @Schema.Edit.item schema [] [] node node' hedit

theorem edits_longDocument :
    Relation.EqvGen schema.Edit shortDocument.node longDocument.node := by
  have hmapped : schema.Edit shortDocument.node
      (itemDocument graphMembers [] [("mapped", .bool true)]).node := by
    apply edit_only_item
    refine .member (List.mem_of_getElem? (i := 1) rfl) (Json.Token.readKey_ofText _) ?_
    apply edit_only_item
    refine .member (List.mem_of_getElem? (i := 5) rfl) (Json.Token.readKey_ofText _) ?_
    apply edit_only_item
    refine .addDefault (List.mem_of_getElem? (i := 5) rfl) (Json.Token.readKey_ofText _) rfl ?_
    decide
  have hproperties : schema.Edit (itemDocument graphMembers [] [("mapped", .bool true)]).node
      (itemDocument graphMembers [("properties", .array [])] [("mapped", .bool true)]).node := by
    apply edit_only_item
    refine .member (List.mem_of_getElem? (i := 1) rfl) (Json.Token.readKey_ofText _) ?_
    apply edit_only_item
    refine .addDefault (List.mem_of_getElem? (i := 4) rfl) (Json.Token.readKey_ofText _) rfl ?_
    decide
  have hcomment : schema.Edit
      (itemDocument graphMembers [("properties", .array [])] [("mapped", .bool true)]).node
      (itemDocument commentedMembers [("properties", .array [])] [("mapped", .bool true)]).node := by
    apply edit_only_item
    exact .addUnknown (Json.Token.readKey_ofText _) (by decide) (Value.wellFormed_node _)
  have horder : schema.Edit
      (itemDocument commentedMembers [("properties", .array [])] [("mapped", .bool true)]).node
      longDocument.node := by
    apply edit_only_item
    exact .reorder (List.reverse_perm _).symm
  exact (((Relation.EqvGen.rel _ _ hmapped).trans _ _ _ (.rel _ _ hproperties)).trans _ _ _
    (.rel _ _ hcomment)).trans _ _ _ (.rel _ _ horder)

/-- Both documents are read as the same graphs, in which the association is mapped. -/
theorem itemDocument_read_alike :
    ∃ graphs, ofText (shortDocument.text .compact) = .ok graphs ∧
      ofText (longDocument.text .indented) = .ok graphs ∧
      graphs.entities.map (fun entity => (entity.key, entity.associations.map (·.mapped))) =
        [("shop.Item", [true])] := by
  have htext := shortDocument.written_text Json.Spacing.blank_compact
  have htext' := longDocument.written_text Json.Spacing.blank_indented
  have hread : ∃ list, listCodec.read shortDocument.node = .ok list ∧
      ∃ graphs, ofList list = .ok graphs ∧
        graphs.entities.map (fun entity => (entity.key, entity.associations.map (·.mapped))) =
          [("shop.Item", [true])] := ⟨_, rfl, _, rfl, rfl⟩
  obtain ⟨list, hlist, graphs, hgraphs, hmapped⟩ := hread
  have hshort : ofText (shortDocument.text .compact) = .ok graphs := by
    refine (@ofText_eq_iff _ (.ok graphs)).mpr ?_
    rw [listCodec.ofText_written htext, hlist, ← hgraphs]
    rfl
  obtain ⟨haccepted, -⟩ := ofText_of_edits htext htext' edits_longDocument
  exact ⟨graphs, hshort, (haccepted graphs).mp hshort, hmapped⟩

end EntityGraphs
end EntityTables
