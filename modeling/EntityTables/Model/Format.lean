import EntityTables.Json.Choice
import EntityTables.Json.Record
import EntityTables.Model.Graphs

/-!
# The model as JSON

The records and choices that describe how entities and graphs are read from JSON and written
as JSON.  A text is accepted as the graphs of a run when it is a list of graphs that fit
together.
-/

namespace EntityTables

open Json (Codec Choice Field Record ReadError)

def ValueType.record : Record ValueType where
  name := "Type"
  fields := [
    .required "namespace" .string (·.package),
    .required "simple_name" .string (·.simpleName)]
  build | (package, simpleName, ()) => ⟨package, simpleName⟩
  build_ofRecord _ := rfl

def NativeType.choice : Choice NativeType where
  variants := all.map fun type => (type.name, type)
  name := name

def ColumnLimits.record : Record ColumnLimits where
  name := "ColumnAnnotation"
  fields := [
    .optional "length" .uint32 (·.length),
    .optional "precision" .uint32 (·.precision),
    .optional "scale" .uint32 (·.scale)]
  build | (length, precision, scale, ()) => ⟨length, precision, scale⟩
  build_ofRecord _ := rfl

def Converter.record : Record Converter where
  name := "ConverterDefinition"
  fields := [
    .required "name" .string (·.name),
    .required "target_type" ValueType.record.codec (·.targetType)]
  build | (name, targetType, ()) => ⟨name, targetType⟩
  build_ofRecord _ := rfl

def IdField.record : Record IdField where
  name := "IdDefinition"
  fields := [
    .required "name" .string (·.name),
    .required "column_name" .string (·.columnName),
    .required "type" ValueType.record.codec (·.type),
    .optional "annotation" ColumnLimits.record.codec (·.limits),
    .optional "converter" Converter.record.codec (·.converter),
    .defaulted "generated_value" .bool (·.generated) false]
  build
    | (name, columnName, type, limits, converter, generated, ()) =>
      ⟨name, columnName, type, limits, converter, generated⟩
  build_ofRecord _ := rfl

def Property.record : Record Property where
  name := "PropertyDefinition"
  fields := [
    .required "name" .string (·.name),
    .required "column_name" .string (·.columnName),
    .required "type" ValueType.record.codec (·.type),
    .defaulted "nullable" .bool (·.nullable) false,
    .optional "annotation" ColumnLimits.record.codec (·.limits),
    .optional "converter" Converter.record.codec (·.converter)]
  build
    | (name, columnName, type, nullable, limits, converter, ()) =>
      ⟨name, columnName, type, nullable, limits, converter⟩
  build_ofRecord _ := rfl

def AssociationKind.choice : Choice AssociationKind where
  variants := [AssociationKind.manyToOne, .oneToOne, .oneToMany, .manyToMany].map fun kind =>
    (kind.name, kind)
  name := name

def Association.record : Record Association where
  name := "AssociationDefinition"
  fields := [
    .required "name" .string (·.name),
    .required "target" .string (·.target),
    .required "type" AssociationKind.choice.codec (·.kind),
    .required "target_id" IdField.record.codec (·.targetId),
    .optional "join_column" .string (·.joinColumn),
    .defaulted "mapped" .bool (·.mapped) true,
    .optional "mapped_by" .string (·.mappedBy),
    .optional "join_table" .string (·.joinTable)]
  build
    | (name, target, kind, targetId, joinColumn, mapped, mappedBy, joinTable, ()) =>
      ⟨name, target, kind, targetId, joinColumn, mapped, mappedBy, joinTable⟩
  build_ofRecord _ := rfl

def Entity.record : Record Entity where
  name := "EntityDefinition"
  fields := [
    .required "name" .string (·.name),
    .required "qualified_name" .string (·.qualifiedName),
    .required "table" .string (·.table),
    .optional "id" IdField.record.codec (·.id),
    .defaulted "properties" Property.record.codec.list (·.properties) [],
    .defaulted "associations" Association.record.codec.list (·.associations) []]
  build
    | (name, qualifiedName, table, id, properties, associations, ()) =>
      ⟨name, qualifiedName, table, id, properties, associations⟩
  build_ofRecord _ := rfl

def EntityGraph.record : Record EntityGraph where
  name := "EntityGraph"
  fields := [
    .required "name" .string (·.name),
    .required "entities" Entity.record.codec.list (·.entities)]
  build | (name, entities, ()) => ⟨name, entities⟩
  build_ofRecord _ := rfl

/-- Why a text is not accepted as the graphs of a run. -/
inductive GraphsError where
  | unreadable (error : ReadError)
  | model (error : ModelError)
deriving DecidableEq, Repr

namespace EntityGraphs

def listCodec : Codec (List EntityGraph) :=
  EntityGraph.record.codec.list

def ofText (text : String) : Except GraphsError EntityGraphs :=
  match listCodec.ofText text with
  | .error error => .error (.unreadable error)
  | .ok graphs => (ofList graphs).mapError .model

def toText (graphs : EntityGraphs) : String :=
  listCodec.toText .indented graphs.graphs

end EntityGraphs
end EntityTables
