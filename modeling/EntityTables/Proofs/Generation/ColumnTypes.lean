import EntityTables.Proofs.Emission.Shape
import EntityTables.Proofs.Reference.Targets

/-!
# The types of columns

A column has a declared type and is made by a constructor.  Both are found in five places, for ids,
properties, foreign keys to ids with and without a converter, and join columns, and they always
stand for the same native type.  Only the column of a converted id or property is made by a wrapper;
the foreign key to a converted id is a native column of the carrier.

* `ColumnSpec.HasType`: type and constructor stand for a native type;
* `typedMember_of_represents`: the columns of ids and properties;
* `exists_hasType_of_plan`: foreign keys;
* `hasType_joinColumn`: join columns;
* `generateAll_columns_typed`: all columns of a run.
-/

namespace EntityTables

/-- The column is made by a constructor of its own, not by the wrapper of a converter. -/
def ColumnKind.isNative : ColumnKind → Bool
  | .converted _ => false
  | _ => true

/-- The declared type of the column spells the native type, and the column is made by the
constructor of that type, with the limits where they apply. -/
structure ColumnSpec.HasType (settings : Settings) (limits : Option ColumnLimits)
    (native : NativeType) (column : ColumnSpec) : Prop where
  native?_eq : column.valueType.native? = some native
  kind_eq : column.recipe.kind = native.columnKind settings limits

/-- The column of an id or a property is native unless there is a converter, and then it has one of
the native types that are allowed. -/
structure ColumnSpec.TypedMember (settings : Settings) (limits : Option ColumnLimits)
    (converter : Option Converter) (allowed : NativeType → Prop) (column : ColumnSpec) : Prop where
  isNative_iff : column.recipe.kind.isNative ↔ converter = none
  exists_hasType : column.recipe.kind.isNative →
    ∃ native, allowed native ∧ column.HasType settings limits native

/-- The column refers to a key: it is native, of a type that a key may have. -/
def ColumnSpec.TypedReference (settings : Settings) (limits : Option ColumnLimits)
    (column : ColumnSpec) : Prop :=
  ∃ native : NativeType, native.isKeyType ∧ column.HasType settings limits native

/-- The columns of the table are typed by what they come from in the entity. -/
def Table.Typed (settings : Settings) (entity : Entity) (table : Table) : Prop :=
  table.MadeFrom
    (fun id => ColumnSpec.TypedMember settings id.limits id.converter (·.isKeyType))
    (fun property =>
      ColumnSpec.TypedMember settings property.limits property.converter fun _ => True)
    (fun association => ColumnSpec.TypedReference settings association.targetId.limits) entity

/-- All columns of the unit are typed: those of its tables by what they come from, and those of its
join tables without any limits. -/
structure OutputUnit.Typed (settings : Settings) (graphs : EntityGraphs) (unit : OutputUnit) :
    Prop where
  tables : ∀ table ∈ unit.tables, ∃ entity ∈ graphs.entitiesIn unit.package,
    table.entity = entity.key ∧ table.Typed settings entity
  joinTables : ∀ table ∈ unit.joinTables, ∀ column ∈ table.columns,
    column.TypedReference settings none

/-! ## Native types and carriers -/

theorem NativeType.isNative_columnKind (settings : Settings) (limits : Option ColumnLimits)
    (native : NativeType) : (native.columnKind settings limits).isNative := by
  cases native <;> rfl

/-- The native type of the values that a carrier stores. -/
def Carrier.nativeType : Carrier → NativeType
  | .string => .string
  | .long => .long

theorem Carrier.columnKind_eq (settings : Settings) (limits : Option ColumnLimits)
    (carrier : Carrier) :
    carrier.columnKind settings limits = carrier.nativeType.columnKind settings limits := by
  cases carrier <;> rfl

theorem Carrier.isKeyType_nativeType (carrier : Carrier) : carrier.nativeType.isKeyType := by
  cases carrier <;> rfl

/-- The type that a converter stores spells the native type of its carrier. -/
theorem Converter.native?_of_carrier {converter : Converter} {carrier : Carrier}
    (hcarrier : converter.carrier = .ok carrier) :
    converter.targetType.native? = some carrier.nativeType := by
  unfold Converter.carrier at hcarrier
  split at hcarrier
  · rename_i hnative
    rw [hnative, ← Except.ok.inj hcarrier, Carrier.nativeType]
  · rename_i hnative
    rw [hnative, ← Except.ok.inj hcarrier, Carrier.nativeType]
  · contradiction

section

variable {settings : Settings} {graphs : EntityGraphs} {wrappers : List Wrapper} {entity : Entity}
  {member : Member} {association : Association} {column : ColumnSpec} {table : Table}

/-! ## Single columns -/

/-- The column of a member is typed by the member; as a key it has a type that a key may have. -/
theorem typedMember_of_represents (hrepresents : column.Represents settings wrappers member)
    {allowed : NativeType → Prop}
    (hallowed : ∀ native, member.nativeType = .ok native → allowed native) :
    column.TypedMember settings member.limits member.converter allowed := by
  cases hrepresents with
  | @native native hconverter hnative =>
      have hkind := NativeType.isNative_columnKind settings member.limits native
      have hspelled := (Member.nativeType_eq_ok_iff.mp hnative).1
      refine ⟨by simp [Member.column, hkind, hconverter], ?_⟩
      intro _
      exact ⟨native, hallowed native hnative, hspelled, by simp [Member.column]⟩
  | converted hconverter hfind hserves =>
      have hkind : ∀ name, ¬(ColumnKind.converted name).isNative := by
        intro name
        simp [ColumnKind.isNative]
      refine ⟨by simp [Member.column, hkind, hconverter], ?_⟩
      intro hnative
      exact absurd (by simpa [Member.column] using hnative) (hkind _)

/-- A foreign key has the type of the id that it is made for or, if that has a converter, the type
of the carrier. -/
theorem exists_hasType_of_plan
    (hplan : planOf settings graphs entity association = .ok (.foreignKey column)) :
    column.TypedReference settings association.targetId.limits := by
  obtain ⟨-, target, -, hcolumn⟩ := planOf_eq_foreignKey_iff.mp hplan
  obtain ⟨⟨kind, valueType⟩, hkind, rfl⟩ := map_eq_ok_iff.mp hcolumn
  cases hconverter : association.targetId.converter with
  | none =>
      rw [IdField.foreignKeyKind_of_native hconverter, map_eq_ok_iff] at hkind
      obtain ⟨native, hnative, hpair⟩ := hkind
      obtain ⟨rfl, rfl⟩ := Prod.mk.inj hpair
      obtain ⟨hspelled, hkey⟩ := Member.nativeType_eq_ok_iff.mp hnative
      exact ⟨native, hkey _ rfl, hspelled, rfl⟩
  | some converter =>
      rw [IdField.foreignKeyKind_of_converter hconverter, map_eq_ok_iff] at hkind
      obtain ⟨carrier, hcarrier, hpair⟩ := hkind
      obtain ⟨rfl, rfl⟩ := Prod.mk.inj hpair
      exact ⟨carrier.nativeType, carrier.isKeyType_nativeType,
        Converter.native?_of_carrier hcarrier, carrier.columnKind_eq settings _⟩

theorem hasType_joinColumn (stem idName : String) :
    (joinColumn settings stem entity idName).HasType settings none .long :=
  ⟨NativeType.native?_valueType .long, rfl⟩

/-- The columns of a join table are whole numbers, whatever the ids of its two entities are. -/
theorem typedReference_of_joinTableOf {target : Entity} {joinTable : JoinTable}
    (htable : joinTableOf settings entity association target = .ok joinTable)
    (hcolumn : column ∈ joinTable.columns) : column.TypedReference settings none := by
  obtain ⟨id, -, rfl⟩ := joinTableOf_eq_ok_iff.mp htable
  rcases List.mem_pair.mp hcolumn with rfl | rfl
  · exact ⟨.long, rfl, hasType_joinColumn _ _⟩
  · exact ⟨.long, rfl, hasType_joinColumn _ _⟩

end

/-! ## Tables -/

theorem Run.Declares.typed {run : Run} {entity : Entity} {table : Table}
    (hdeclares : run.Declares table entity) : table.Typed run.settings entity := by
  obtain ⟨unit, stage, hstage, rfl⟩ := hdeclares
  refine ((represents_of_stage hstage).madeFrom fun _ => exists_plan hstage).imp ?_ ?_ ?_
  · intro id column hrepresents
    refine typedMember_of_represents hrepresents ?_
    intro native hnative
    exact (Member.nativeType_eq_ok_iff.mp hnative).2 _ rfl
  · intro property column hrepresents
    exact typedMember_of_represents hrepresents fun _ _ => trivial
  · intro association column hplan
    exact exists_hasType_of_plan hplan

/-- In the units of a run, the declared type of every native column and its constructor stand for
one native type.  It is a type that a key may have wherever the column is a key or refers to one. -/
theorem generateAll_columns_typed {graphs : EntityGraphs} {settings : Settings}
    {units : List OutputUnit} (hunits : generateAll graphs settings = .ok units) :
    ∀ unit ∈ units, unit.Typed settings graphs := by
  let run := Run.over graphs settings
  have hrun : run.units = .ok units := hunits
  intro unit hunit
  constructor
  · intro table htable
    obtain ⟨entity, hentity, hpackage, hdeclares⟩ := Run.of_mem_tables hrun hunit htable
    exact ⟨entity, EntityGraphs.mem_entitiesIn.mpr ⟨hentity, hpackage⟩, hdeclares.entity_eq,
      hdeclares.typed⟩
  · intro table htable column hcolumn
    obtain ⟨_, -, -, _, -, -, -, _, -, hbuilt⟩ :=
      Run.built_of_mem_joinTables hrun hunit htable
    exact typedReference_of_joinTableOf hbuilt hcolumn

/-- Customers have a converted id, to which orders have a foreign key, and orders have tags. -/
def shopOfTypes : EntityGraphs where
  graphs :=
    let code := { IdField.named "code" ⟨"shop", "Code"⟩ with
      limits := some (.ofLength 12)
      converter := some ⟨"CodeConverter", ⟨"java.lang", "String"⟩⟩ }
    let id := IdField.named "id" ⟨"java.lang", "Integer"⟩
    [⟨"shop", [
      { Entity.named "shop.Customer" "customers" with id := some code },
      { Entity.named "shop.Order" "orders" with
        id := some id
        properties := [{ Property.named "total" NativeType.bigDecimal.valueType with
          limits := some (.ofDecimal 10 2) }]
        associations := [
          ⟨"customer", "shop.Customer", .manyToOne, code, none, true, none, none⟩,
          ⟨"tags", "shop.Tag", .manyToMany, id, none, true, none, none⟩] },
      { Entity.named "shop.Tag" "tags" with id := some id }]⟩]
  nodup_keys := by decide
  target_mem := by decide

/-- The foreign key to the converted id is a text with the limit of the id, and the join columns
are whole numbers. -/
theorem shopOfTypes_columns_typed :
    ∃ units, generateAll shopOfTypes {} = .ok units ∧
      (units.flatMap (·.columns)).map (fun column =>
          (column.name, column.valueType.qualifiedName, column.recipe.kind)) =
        [("code", "shop.Code", .converted "code"), ("id", "java.lang.Integer", .integer),
          ("total", "java.math.BigDecimal", .decimal 10 2),
          ("customer", "java.lang.String", .varchar 12), ("orderId", "kotlin.Long", .long),
          ("tagId", "kotlin.Long", .long), ("id", "java.lang.Integer", .integer)] ∧
      ∀ unit ∈ units, unit.Typed {} shopOfTypes := by
  have hrun : ∃ units, generateAll shopOfTypes {} = .ok units ∧
      (units.flatMap (·.columns)).map (fun column =>
          (column.name, column.valueType.qualifiedName, column.recipe.kind)) =
        [("code", "shop.Code", .converted "code"), ("id", "java.lang.Integer", .integer),
          ("total", "java.math.BigDecimal", .decimal 10 2),
          ("customer", "java.lang.String", .varchar 12), ("orderId", "kotlin.Long", .long),
          ("tagId", "kotlin.Long", .long), ("id", "java.lang.Integer", .integer)] :=
    ⟨_, rfl, rfl⟩
  obtain ⟨units, hunits, hcolumns⟩ := hrun
  exact ⟨units, hunits, hcolumns, generateAll_columns_typed hunits⟩

end EntityTables
