import EntityTables.Model.Format
import EntityTables.Proofs.Json.Records
import EntityTables.Proofs.Model.Validation

/-!
# Graphs as JSON and back

Every record and every choice of the model is lawful, so a list of graphs that was written as
JSON is read back as it was.  Graphs that were accepted once are accepted again, because whether
they are depends on the list alone.

* `EntityGraphs.lawful_listCodec`: lists of graphs are read back as they were written;
* `EntityGraphs.text_roundTrip`: the text of graphs is read as these graphs.
-/

namespace EntityTables

open Json (Codec Field Record)

/-! ## The records of the model -/

theorem ValueType.lawful_codec : record.codec.Lawful := by
  refine Record.lawful_codec (by decide) ?_
  simp only [record, List.forall_mem_cons]
  exact ⟨Field.lawful_required Codec.lawful_string _ _,
    Field.lawful_required Codec.lawful_string _ _, List.forall_mem_nil _⟩

theorem ColumnLimits.lawful_codec : record.codec.Lawful := by
  refine Record.lawful_codec (by decide) ?_
  simp only [record, List.forall_mem_cons]
  exact ⟨Field.lawful_optional Codec.lawful_uint32 _ _,
    Field.lawful_optional Codec.lawful_uint32 _ _,
    Field.lawful_optional Codec.lawful_uint32 _ _, List.forall_mem_nil _⟩

theorem Converter.lawful_codec : record.codec.Lawful := by
  refine Record.lawful_codec (by decide) ?_
  simp only [record, List.forall_mem_cons]
  exact ⟨Field.lawful_required Codec.lawful_string _ _,
    Field.lawful_required ValueType.lawful_codec _ _, List.forall_mem_nil _⟩

theorem IdField.lawful_codec : record.codec.Lawful := by
  refine Record.lawful_codec (by decide) ?_
  simp only [record, List.forall_mem_cons]
  exact ⟨Field.lawful_required Codec.lawful_string _ _,
    Field.lawful_required Codec.lawful_string _ _,
    Field.lawful_required ValueType.lawful_codec _ _,
    Field.lawful_optional ColumnLimits.lawful_codec _ _,
    Field.lawful_optional Converter.lawful_codec _ _,
    Field.lawful_defaulted Codec.lawful_bool _ _ _, List.forall_mem_nil _⟩

theorem Property.lawful_codec : record.codec.Lawful := by
  refine Record.lawful_codec (by decide) ?_
  simp only [record, List.forall_mem_cons]
  exact ⟨Field.lawful_required Codec.lawful_string _ _,
    Field.lawful_required Codec.lawful_string _ _,
    Field.lawful_required ValueType.lawful_codec _ _,
    Field.lawful_defaulted Codec.lawful_bool _ _ _,
    Field.lawful_optional ColumnLimits.lawful_codec _ _,
    Field.lawful_optional Converter.lawful_codec _ _, List.forall_mem_nil _⟩

theorem AssociationKind.lawful_codec : choice.codec.Lawful := by
  apply Json.Choice.lawful_codec
  intro kind
  cases kind <;> rfl

theorem Association.lawful_codec : record.codec.Lawful := by
  refine Record.lawful_codec (by decide) ?_
  simp only [record, List.forall_mem_cons]
  exact ⟨Field.lawful_required Codec.lawful_string _ _,
    Field.lawful_required Codec.lawful_string _ _,
    Field.lawful_required AssociationKind.lawful_codec _ _,
    Field.lawful_required IdField.lawful_codec _ _,
    Field.lawful_optional Codec.lawful_string _ _,
    Field.lawful_defaulted Codec.lawful_bool _ _ _,
    Field.lawful_optional Codec.lawful_string _ _,
    Field.lawful_optional Codec.lawful_string _ _, List.forall_mem_nil _⟩

theorem Entity.lawful_codec : record.codec.Lawful := by
  refine Record.lawful_codec (by decide) ?_
  simp only [record, List.forall_mem_cons]
  exact ⟨Field.lawful_required Codec.lawful_string _ _,
    Field.lawful_required Codec.lawful_string _ _,
    Field.lawful_required Codec.lawful_string _ _,
    Field.lawful_optional IdField.lawful_codec _ _,
    Field.lawful_defaulted (Codec.lawful_list Property.lawful_codec) _ _ _,
    Field.lawful_defaulted (Codec.lawful_list Association.lawful_codec) _ _ _,
    List.forall_mem_nil _⟩

theorem EntityGraph.lawful_codec : record.codec.Lawful := by
  refine Record.lawful_codec (by decide) ?_
  simp only [record, List.forall_mem_cons]
  exact ⟨Field.lawful_required Codec.lawful_string _ _,
    Field.lawful_required (Codec.lawful_list Entity.lawful_codec) _ _, List.forall_mem_nil _⟩

namespace EntityGraphs

/-- Lists of graphs are read back as they were written. -/
theorem lawful_listCodec : listCodec.Lawful :=
  Codec.lawful_list EntityGraph.lawful_codec

/-- The text of graphs is read as these graphs: all graphs in order, with the same entity under
every key, and they are written as the same text again. -/
theorem text_roundTrip (graphs : EntityGraphs) :
    ∃ read, ofText graphs.toText = .ok read ∧ read.graphs = graphs.graphs ∧
      (∀ key, read.entity? key = graphs.entity? key) ∧ read.toText = graphs.toText := by
  refine ⟨graphs, ?_, rfl, fun _ => rfl, rfl⟩
  have hlist : listCodec.ofText graphs.toText = .ok graphs.graphs :=
    lawful_listCodec.ofText_toText Json.Spacing.blank_indented graphs.graphs
  rw [ofText, hlist]
  show (ofList graphs.graphs).mapError GraphsError.model = .ok graphs
  rw [ofList_graphs]
  rfl

end EntityGraphs
end EntityTables
