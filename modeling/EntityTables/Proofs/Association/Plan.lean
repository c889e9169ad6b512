import EntityTables.Association.Plan
import EntityTables.Proofs.Model.Graphs

/-!
# Plans of associations

In accepted graphs the target of an association is known, so its plan is the foreign key or the
join table that is built for the target, or nothing.  The columns that are built refer to the
tables of the entities that they are built for.

* `foreignKeyKind_of_native`, `foreignKeyKind_of_converter`: the kind of a foreign key, in terms of
  what the key of its target is made from;
* `planOf_of_target`, `planOf_manyToMany`: the plan of an association whose target is known;
* `kind_of_planOf`, `planOf_eq_foreignKey_iff`: what a join table and a foreign key are planned for;
* `isAboutType_of_foreignKeyOf`: how a foreign key fails;
* `planOf_ne_unknownEntity`: the one way of failing that is left out by a known target;
* `key_of_joinTableOf`: the identity of a join table that is built;
* `references_foreignKeyOf`, `references_joinTableOf`: what the columns refer to;
* `JoinKey.of_eq_of_iff`: when two join tables are the same.
-/

namespace EntityTables

theorem map_eq_ok_iff {ε α β : Type} {f : α → β} {result : Except ε α} {value : β} :
    result.map f = .ok value ↔ ∃ input, result = .ok input ∧ f input = value := by
  cases result <;> simp [Except.map]

theorem map_eq_error_iff {ε α β : Type} {f : α → β} {result : Except ε α} {error : ε} :
    result.map f = .error error ↔ result = .error error := by
  cases result <;> simp [Except.map]

theorem bind_eq_ok_iff {ε α β : Type} {result : Except ε α} {f : α → Except ε β} {value : β} :
    result >>= f = .ok value ↔ ∃ input, result = .ok input ∧ f input = .ok value := by
  cases result <;> simp [bind, Except.bind]

/-- Two join tables are the same if they have one name and are between the same two entities, in
whatever order these are named. -/
theorem JoinKey.of_eq_of_iff {first second third fourth : EntityKey} {name other : String} :
    JoinKey.of first second name = .of third fourth other ↔
      (first = third ∧ second = fourth ∨ first = fourth ∧ second = third) ∧ name = other := by
  unfold JoinKey.of
  split <;> split <;> grind

/-! ## Foreign keys to ids -/

/-- The kind of the column in which a carrier stores values. -/
def Carrier.columnKind (settings : Settings) (limits : Option ColumnLimits) : Carrier → ColumnKind
  | .string => .varchar ((limits.bind (·.length)).getD settings.varcharLength)
  | .long => .long

namespace IdField

variable {id : IdField} {converter : Converter}

/-- Without a converter, a foreign key asks the same of the id's type as the key does. -/
theorem foreignKeyKind_of_native (hconverter : id.converter = none) (settings : Settings) :
    id.foreignKeyKind settings = id.member.nativeType.map fun native =>
      (native.columnKind settings id.limits, id.type) := by
  simp only [foreignKeyKind, hconverter, Member.nativeType, member]
  cases id.type.native? with
  | none => rfl
  | some native => by_cases hkey : native.isKeyType <;> simp [hkey, Except.map]

/-- With a converter, it asks for the same carrier as the wrapper does. -/
theorem foreignKeyKind_of_converter (hconverter : id.converter = some converter)
    (settings : Settings) :
    id.foreignKeyKind settings = converter.carrier.map fun carrier =>
      (carrier.columnKind settings id.limits, converter.targetType) := by
  simp only [foreignKeyKind, hconverter]
  cases converter.carrier with
  | error error => rfl
  | ok carrier => cases carrier <;> rfl

end IdField

section

variable {settings : Settings} {graphs : EntityGraphs} {source target : Entity}
  {association : Association} {column : ColumnSpec} {table : JoinTable}

/-! ## Plans -/

/-- The plan of an association whose target is known. -/
theorem planOf_of_target (htarget : graphs.entity? association.target = some target) :
    planOf settings graphs source association =
      if association.ownsForeignKey then
        (foreignKeyOf settings association target).map .foreignKey
      else if association.kind = .manyToMany then
        (joinTableOf settings source association target).map .joinTable
      else .ok .nothing := by
  simp only [planOf, Association.targetIn, htarget]
  rfl

/-- A many-to-many association plans the join table that is built for its target. -/
theorem planOf_manyToMany (hkind : association.kind = .manyToMany)
    (htarget : graphs.entity? association.target = some target) :
    planOf settings graphs source association =
      (joinTableOf settings source association target).map .joinTable := by
  have howns : association.ownsForeignKey = false := by rw [Association.ownsForeignKey, hkind]
  rw [planOf_of_target htarget, howns, if_neg Bool.false_ne_true, if_pos hkind]

/-- Only a many-to-many association plans a join table. -/
theorem kind_of_planOf
    (hplan : planOf settings graphs source association = .ok (.joinTable table)) :
    association.kind = .manyToMany := by
  unfold planOf at hplan
  split at hplan
  · obtain ⟨target, -, hforeign⟩ := bind_eq_ok_iff.mp hplan
    obtain ⟨column, -, hcolumn⟩ := map_eq_ok_iff.mp hforeign
    contradiction
  · split at hplan
    · rename_i hkind
      exact hkind
    · simp at hplan

/-- A foreign key is planned for an association that owns one, and it is the one that is built for
the target. -/
theorem planOf_eq_foreignKey_iff :
    planOf settings graphs source association = .ok (.foreignKey column) ↔
      association.ownsForeignKey ∧ ∃ target, graphs.entity? association.target = some target ∧
        foreignKeyOf settings association target = .ok column := by
  cases htarget : graphs.entity? association.target with
  | none =>
      have hunknown : association.targetIn graphs = .error (.unknownEntity association.target) := by
        rw [Association.targetIn, htarget]
      simp only [planOf, hunknown]
      split
      · simp [bind, Except.bind]
      · split <;> simp [bind, Except.bind]
  | some target =>
      rw [planOf_of_target htarget]
      split
      · rename_i howns
        simp [map_eq_ok_iff, howns]
      · rename_i howns
        split <;> simp [map_eq_ok_iff, howns]

/-- An association that owns a foreign key plans nothing else. -/
theorem foreignKey_of_plan (howns : association.ownsForeignKey)
    {plan : AssociationPlan} (hplan : planOf settings graphs source association = .ok plan) :
    ∃ column, plan = .foreignKey column := by
  rw [planOf, if_pos howns] at hplan
  obtain ⟨target, -, hforeign⟩ := bind_eq_ok_iff.mp hplan
  obtain ⟨column, -, rfl⟩ := map_eq_ok_iff.mp hforeign
  exact ⟨column, rfl⟩

/-! ## What is built -/

/-- A foreign key refers to the table of the association's target. -/
theorem references_foreignKeyOf
    (hcolumn : foreignKeyOf settings association target = .ok column) :
    column.recipe.references =
      some ⟨settings.tableObject target.name, variableName association.targetId.name⟩ := by
  obtain ⟨⟨kind, valueType⟩, -, rfl⟩ := map_eq_ok_iff.mp hcolumn
  rfl

/-- What a join table consists of; it cannot be built without the id of its source. -/
theorem joinTableOf_eq_ok_iff :
    joinTableOf settings source association target = .ok table ↔ ∃ id, source.id = some id ∧
      { objectName := settings.tableObject (source.name ++ objectName association.name)
        tableName := joinTableName source association target
        source := source.key
        target := target.key
        sourceColumn := joinColumn settings (variableName source.name) source id.name
        targetColumn := joinColumn settings (targetStem source association target) target
          association.targetId.name } = table := by
  unfold joinTableOf
  cases source.id <;> simp

/-- A join table that was built has the key that its association declares. -/
theorem key_of_joinTableOf (htable : joinTableOf settings source association target = .ok table) :
    table.source = source.key ∧
      table.key = .of source.key target.key (joinTableName source association target) := by
  obtain ⟨id, -, rfl⟩ := joinTableOf_eq_ok_iff.mp htable
  exact ⟨rfl, rfl⟩

/-- The two columns of a join table refer to the tables of its two entities.  The source has an
id of its own, the id of the target is the one that the association knows. -/
theorem references_joinTableOf
    (htable : joinTableOf settings source association target = .ok table) :
    table.target = target.key ∧
      (∃ id, source.id = some id ∧ table.sourceColumn.recipe.references =
        some ⟨settings.tableObject source.name, variableName id.name⟩) ∧
      table.targetColumn.recipe.references =
        some ⟨settings.tableObject target.name, variableName association.targetId.name⟩ := by
  obtain ⟨id, hid, rfl⟩ := joinTableOf_eq_ok_iff.mp htable
  exact ⟨rfl, ⟨id, hid, rfl⟩, rfl⟩

/-! ## How plans fail -/

/-- Whether the error is about the type of an id, a property or a converter, and not about an
entity. -/
def EmissionError.isAboutType : EmissionError → Bool
  | .idTypeNotSupported _ | .propertyTypeNotSupported _ | .converterTargetNotSupported _ => true
  | .missingId _ | .unknownEntity _ => false

theorem isAboutType_of_carrier {converter : Converter} {error : EmissionError}
    (herror : converter.carrier = .error error) : error.isAboutType := by
  unfold Converter.carrier at herror
  split at herror
  · contradiction
  · contradiction
  · exact Except.error.inj herror ▸ rfl

/-- Foreign keys fail only because of types. -/
theorem isAboutType_of_foreignKeyOf {error : EmissionError}
    (herror : foreignKeyOf settings association target = .error error) : error.isAboutType := by
  rw [foreignKeyOf, map_eq_error_iff, IdField.foreignKeyKind] at herror
  cases hconverter : association.targetId.converter with
  | some converter =>
      rw [hconverter, map_eq_error_iff] at herror
      exact isAboutType_of_carrier herror
  | none =>
      rw [hconverter] at herror
      cases hnative : association.targetId.type.native? with
      | none =>
          rw [hnative] at herror
          exact Except.error.inj herror ▸ rfl
      | some native =>
          simp only [hnative] at herror
          split at herror
          · contradiction
          · exact Except.error.inj herror ▸ rfl

theorem joinTableOf_ne_unknownEntity (settings : Settings) (source : Entity)
    (association : Association) (target : Entity) (key : EntityKey) :
    joinTableOf settings source association target ≠ .error (.unknownEntity key) := by
  unfold joinTableOf
  cases source.id <;> simp

/-- An association whose target is known does not fail for want of the target. -/
theorem planOf_ne_unknownEntity (htarget : graphs.entity? association.target = some target)
    (key : EntityKey) :
    planOf settings graphs source association ≠ .error (.unknownEntity key) := by
  rw [planOf_of_target htarget]
  split
  · rw [Ne, map_eq_error_iff]
    intro herror
    exact absurd (isAboutType_of_foreignKeyOf herror) (by simp [EmissionError.isAboutType])
  · split
    · rw [Ne, map_eq_error_iff]
      exact joinTableOf_ne_unknownEntity settings source association target key
    · simp

end
end EntityTables
