import EntityTables.Proofs.Emission.Failures
import EntityTables.Proofs.Reference.Keys

/-!
# The kinds of foreign keys

A foreign key and the key that it refers to are made in two different ways.  The foreign key is made
for the id that its association knows, without a wrapper; the key is made for the id of the target,
by a wrapper if the id has a converter.  Where the association knows the id as it is, both ways fail
together, or else the foreign key stores what the key stores.

* `ColumnKind.Mirrors`: the foreign key stores what the key stores;
* `errorOf?_foreignKeyKind`: a foreign key fails with the error of the id;
* `mirrors_of_represents`: the kind of a foreign key against that of the column of the id;
* `planOf_mirrors_key`, `mirrored_of_units`: one association, and the tables of a run;
* `foreignKey_mirrors_key`: a foreign key mirrors the key that it refers to.
-/

namespace EntityTables

/-- The kind of the foreign key, which stands first, is that of the key.  If the id has a converter,
it is the kind of the carrier of the wrapper that the key calls. -/
inductive ColumnKind.Mirrors (settings : Settings) (wrappers : List Wrapper) (id : IdField) :
    ColumnKind → ColumnKind → Prop
  | native {kind : ColumnKind} (hconverter : id.converter = none) :
      Mirrors settings wrappers id kind kind
  | converted {wrapper : Wrapper} (hconverter : id.converter.isSome)
      (hfind : wrappers.find? (·.name = wrapper.name) = some wrapper) :
      Mirrors settings wrappers id (wrapper.carrier.columnKind settings id.limits)
        (.converted wrapper.name)

section

variable {settings : Settings} {graphs : EntityGraphs} {wrappers : List Wrapper}
  {source target : Entity} {association : Association} {id : IdField}

/-! ## The id -/

namespace IdField

theorem foreignKeyKind_of_agrees {other : IdField} (hagrees : id.agrees other)
    (settings : Settings) : id.foreignKeyKind settings = other.foreignKeyKind settings := by
  simp only [agrees, Bool.and_eq_true, decide_eq_true_eq] at hagrees
  obtain ⟨⟨⟨-, htype⟩, hlimits⟩, hconverter⟩ := hagrees
  rw [foreignKeyKind, foreignKeyKind, htype, hlimits, hconverter]

/-- A foreign key to an id fails if and only if the id has no column, and with the same error. -/
theorem errorOf?_foreignKeyKind (settings : Settings) (id : IdField) :
    errorOf? (id.foreignKeyKind settings) = id.member.error? := by
  cases hconverter : id.converter with
  | none =>
      rw [foreignKeyKind_of_native hconverter, errorOf?_map, errorOf?_nativeType hconverter]
  | some converter =>
      rw [foreignKeyKind_of_converter hconverter, errorOf?_map, errorOf?_carrier]
      simp only [Member.error?, member, hconverter]

end IdField

/-- The kind of a foreign key to an id, against the column that represents the id. -/
theorem mirrors_of_represents {kind : ColumnKind} {valueType : ValueType} {key : ColumnSpec}
    (hkind : id.foreignKeyKind settings = .ok (kind, valueType))
    (hkey : key.Represents settings wrappers id.member) :
    kind.Mirrors settings wrappers id key.recipe.kind := by
  cases hkey with
  | @native native hconverter hnative =>
      rw [IdField.foreignKeyKind_of_native hconverter, hnative] at hkind
      obtain ⟨rfl, -⟩ := Prod.mk.inj (Except.ok.inj hkind)
      simpa [Member.column, IdField.member] using ColumnKind.Mirrors.native hconverter
  | @converted converter wrapper hconverter hfind hserves =>
      rw [IdField.foreignKeyKind_of_converter hconverter, hserves.carrier] at hkind
      obtain ⟨rfl, -⟩ := Prod.mk.inj (Except.ok.inj hkind)
      have hsome : id.converter.isSome := Option.isSome_of_eq_some hconverter
      simpa [Member.column] using ColumnKind.Mirrors.converted hsome hfind

/-! ## One association -/

/-- The plan of an association that owns a foreign key is the key that is built for its target. -/
theorem planOf_of_ownsForeignKey (howns : association.ownsForeignKey)
    (htarget : graphs.entity? association.target = some target) :
    planOf settings graphs source association =
      (foreignKeyOf settings association target).map .foreignKey := by
  rw [planOf_of_target htarget, if_pos howns]

theorem errorOf?_planOf (howns : association.ownsForeignKey)
    (htarget : graphs.entity? association.target = some target)
    (hagrees : association.targetId.agrees id) :
    errorOf? (planOf settings graphs source association) = id.member.error? := by
  rw [planOf_of_ownsForeignKey howns htarget, errorOf?_map, foreignKeyOf, errorOf?_map,
    IdField.foreignKeyKind_of_agrees hagrees, IdField.errorOf?_foreignKeyKind]

/-- The foreign key that is planned mirrors every column that represents the id. -/
theorem mirrors_of_planOf (howns : association.ownsForeignKey)
    (htarget : graphs.entity? association.target = some target)
    (hagrees : association.targetId.agrees id) {plan : AssociationPlan}
    (hplan : planOf settings graphs source association = .ok plan) :
    ∃ column, plan = .foreignKey column ∧
      ∀ wrappers (key : ColumnSpec), key.Represents settings wrappers id.member →
        column.recipe.kind.Mirrors settings wrappers id key.recipe.kind := by
  rw [planOf_of_ownsForeignKey howns htarget] at hplan
  obtain ⟨column, hbuilt, rfl⟩ := map_eq_ok_iff.mp hplan
  obtain ⟨⟨kind, valueType⟩, hkind, rfl⟩ := map_eq_ok_iff.mp hbuilt
  rw [IdField.foreignKeyKind_of_agrees hagrees] at hkind
  exact ⟨_, rfl, fun wrappers key hkey => mirrors_of_represents hkind hkey⟩

end

/-- In the output, the foreign key of the association, in the one table of its entity, mirrors the
key of the one table of its target. -/
def ForeignKeyMirrored (graphs : EntityGraphs) (settings : Settings) (units : List OutputUnit)
    (source : Entity) (association : Association) (target : Entity) (id : IdField) : Prop :=
  ∃ table, (units.flatMap (·.tables)).filter (·.entity = source.key) = [table] ∧
    ∃ column ∈ table.columns,
      planOf settings graphs source association = .ok (.foreignKey column) ∧
      ∃ unit ∈ units, unit.package = target.package ∧ ∃ targetTable ∈ unit.tables,
        (units.flatMap (·.tables)).filter (·.entity = target.key) = [targetTable] ∧
        ∃ key, targetTable.primaryKey = some key ∧
          column.recipe.kind.Mirrors settings unit.wrappers id key.recipe.kind

namespace Run

variable {run : Run} {unit : OutputUnit} {units : List OutputUnit} {source target : Entity}
  {association : Association} {id : IdField}

/-- Whatever the unit, the plan of the association and the key of its target fail with the same
error, or the foreign key mirrors the key. -/
theorem planOf_mirrors_key (run : Run) (howns : association.ownsForeignKey)
    (htarget : run.graphs.entity? association.target = some target) (hid : target.id = some id)
    (hagrees : association.targetId.agrees id) (source : Entity) (unit : OutputUnit) :
    ∃ outcome, (run.draft unit target).key = some outcome ∧
      ((∃ error, planOf run.settings run.graphs source association = .error error ∧
          outcome.column = .error error) ∨
        ∃ column key, planOf run.settings run.graphs source association =
            .ok (.foreignKey column) ∧ outcome.column = .ok key ∧
          column.recipe.kind.Mirrors run.settings
            (unit.wrappers ++ (run.draft unit target).wrappers) id key.recipe.kind) := by
  obtain ⟨outcome, hkey, hmember⟩ := exists_key_outcome run unit hid
  have houtcome : outcome ∈
      (run.draft unit target).key.toList ++ (run.draft unit target).properties :=
    List.mem_append_left _ (Option.mem_toList.mpr hkey)
  have hsame : errorOf? (planOf run.settings run.graphs source association) =
      errorOf? outcome.column := by
    rw [errorOf?_planOf howns htarget hagrees, errorOf?_outcome houtcome, hmember]
  refine ⟨outcome, hkey, ?_⟩
  cases hcolumn : outcome.column with
  | error error =>
      rw [hcolumn, errorOf?, errorOf?_eq_some_iff] at hsame
      exact .inl ⟨error, hsame, rfl⟩
  | ok key =>
      rw [hcolumn, errorOf?, errorOf?_eq_none_iff] at hsame
      obtain ⟨plan, hplan⟩ := hsame
      obtain ⟨column, rfl, hmirrors⟩ := mirrors_of_planOf howns htarget hagrees hplan
      have hrepresents := represents_of_outcome houtcome hcolumn
      exact .inr ⟨column, key, hplan, rfl, hmirrors _ _ (hmember ▸ hrepresents)⟩

theorem mirrored_of_units (hunits : run.units = .ok units) (hsource : source ∈ run.graphs.entities)
    (hassociation : association ∈ source.associations) (howns : association.ownsForeignKey)
    (htarget : run.graphs.entity? association.target = some target) (hid : target.id = some id)
    (hagrees : association.targetId.agrees id) :
    ForeignKeyMirrored run.graphs run.settings units source association target id := by
  obtain ⟨_, -, -, table, -, hunique, hrepresents⟩ := exists_represented hunits hsource
  obtain ⟨unit, hunit, hpackage, targetTable, htargetTable, htargetUnique, htargetRepresents⟩ :=
    exists_represented hunits (EntityGraphs.entity?_eq_some_iff.mp htarget).1
  obtain ⟨contribution, hcontribution⟩ := exists_contribution hunits hsource hassociation
  obtain ⟨plan, hplan, -⟩ := map_eq_ok_iff.mp hcontribution
  obtain ⟨column, rfl, hmirrors⟩ := mirrors_of_planOf howns htarget hagrees hplan
  have hcolumn : column ∈ table.columns := by
    obtain ⟨columns, -, hcolumns⟩ := hrepresents.columns
    rw [hcolumns]
    exact List.mem_append_right _ (Entity.mem_foreignKeys_iff.mpr ⟨_, hassociation, hplan⟩)
  obtain ⟨key, hkey, hkeyRepresents⟩ := htargetRepresents.exists_key hid
  exact ⟨table, hunique, column, hcolumn, hplan, unit, hunit, hpackage, targetTable,
    htargetTable, htargetUnique, key, hkey, hmirrors _ _ hkeyRepresents⟩

end Run

/-- A foreign key mirrors the key that it refers to, if the association knows the id of its target.
Resolving the association fails if and only if the id of the target has no column, and with the same
error.  Otherwise the foreign key has the kind of the key or, if the id has a converter, of the
carrier of the wrapper behind the key; this holds whenever the target is emitted, and in the output
of every run. -/
theorem foreignKey_mirrors_key {graphs : EntityGraphs} {settings : Settings}
    {association : Association} {target : Entity} {id : IdField}
    (howns : association.ownsForeignKey)
    (htarget : graphs.entity? association.target = some target) (hid : target.id = some id)
    (hagrees : association.targetId.agrees id) :
    (∀ source unit, ∃ outcome, ((Run.over graphs settings).draft unit target).key = some outcome ∧
      ((∃ error, planOf settings graphs source association = .error error ∧
          outcome.column = .error error) ∨
        ∃ column key, planOf settings graphs source association = .ok (.foreignKey column) ∧
          outcome.column = .ok key ∧ column.recipe.kind.Mirrors settings
            (unit.wrappers ++ ((Run.over graphs settings).draft unit target).wrappers) id
            key.recipe.kind)) ∧
      ∀ units, generateAll graphs settings = .ok units → ∀ source ∈ graphs.entities,
        association ∈ source.associations →
          ForeignKeyMirrored graphs settings units source association target id := by
  let run := Run.over graphs settings
  constructor
  · intro source unit
    exact run.planOf_mirrors_key howns htarget hid hagrees source unit
  · intro units hunits source hsource hassociation
    have hrun : run.units = .ok units := hunits
    exact Run.mirrored_of_units hrun hsource hassociation howns htarget hid hagrees

/-- The association of orders with customers whose id is as given. -/
def customerOfOrder (id : IdField) : Association :=
  ⟨"customer", "shop.Customer", .manyToOne, id, none, true, none, none⟩

def customerWithId (id : IdField) : Entity :=
  { Entity.named "shop.Customer" "customers" with id := some id }

def orderOfCustomer (id : IdField) : Entity :=
  { Entity.named "shop.Order" "orders" with associations := [customerOfOrder id] }

def shopOfCustomers (id : IdField) : EntityGraphs where
  graphs := [⟨"shop", [customerWithId id, orderOfCustomer id]⟩]
  nodup_keys := show ["shop.Customer", "shop.Order"].Nodup by decide
  target_mem := by
    simp [entitiesOf, Entity.key, Entity.named, customerWithId, orderOfCustomer, customerOfOrder]

/-- An id that is stored as a text of at most 36 characters. -/
def textId : IdField :=
  { IdField.named "id" ⟨"shop", "CustomerId"⟩ with
    limits := some (.ofLength 36)
    converter := some ⟨"CustomerIdConverter", NativeType.string.valueType⟩ }

def booleanId : IdField :=
  .named "id" NativeType.boolean.valueType

/-- The key is made by a wrapper around texts, so the foreign key is a text, with the limit of the
id.  An id that is true or false can be neither a key nor referred to. -/
theorem shopOfCustomers_mirrors :
    (∃ units, generateAll (shopOfCustomers textId) {} = .ok units ∧
      (units.flatMap (·.columns)).map (·.recipe.kind) = [.converted "id", .varchar 36] ∧
      ForeignKeyMirrored (shopOfCustomers textId) {} units (orderOfCustomer textId)
        (customerOfOrder textId) (customerWithId textId) textId) ∧
    ∃ outcome, ((Run.over (shopOfCustomers booleanId) {}).draft { package := "shop" }
        (customerWithId booleanId)).key = some outcome ∧
      planOf {} (shopOfCustomers booleanId) (orderOfCustomer booleanId)
        (customerOfOrder booleanId) = .error (.idTypeNotSupported booleanId.type) ∧
      outcome.column = .error (.idTypeNotSupported booleanId.type) := by
  have htarget : ∀ id, (shopOfCustomers id).entity? (customerOfOrder id).target =
      some (customerWithId id) := fun _ => rfl
  constructor
  · have hrun : ∃ units, generateAll (shopOfCustomers textId) {} = .ok units ∧
        (units.flatMap (·.columns)).map (·.recipe.kind) = [.converted "id", .varchar 36] :=
      ⟨_, rfl, rfl⟩
    obtain ⟨units, hunits, hkinds⟩ := hrun
    have hagrees : (customerOfOrder textId).targetId.agrees textId := by decide
    obtain ⟨-, hmirrored⟩ := foreignKey_mirrors_key rfl (htarget textId) rfl hagrees
    exact ⟨units, hunits, hkinds, hmirrored units hunits (orderOfCustomer textId)
      (List.mem_cons_of_mem _ (List.mem_singleton_self _)) (List.mem_singleton_self _)⟩
  · have hplan : planOf {} (shopOfCustomers booleanId) (orderOfCustomer booleanId)
        (customerOfOrder booleanId) = .error (.idTypeNotSupported booleanId.type) := rfl
    have hagrees : (customerOfOrder booleanId).targetId.agrees booleanId := by decide
    obtain ⟨hemitted, -⟩ := foreignKey_mirrors_key rfl (htarget booleanId) rfl hagrees
    obtain ⟨outcome, hkey, ⟨error, herror, hcolumn⟩ | ⟨column, -, hcolumn, -⟩⟩ :=
      hemitted (orderOfCustomer booleanId) { package := "shop" }
    · obtain rfl := Except.error.inj (hplan.symm.trans herror)
      exact ⟨outcome, hkey, hplan, hcolumn⟩
    · exact absurd (hplan.symm.trans hcolumn) (by simp)

end EntityTables
