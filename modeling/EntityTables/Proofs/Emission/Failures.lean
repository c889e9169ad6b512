import EntityTables.Proofs.Emission.Run

/-!
# The errors of an entity

Which members of an entity fail can be told from the member and, for an association, from the
graphs; the unit, the wrappers that are bound in it and the ownership of join tables decide only
what is emitted.  `Entity.errors` collects these errors, and every layer of an emission reports
exactly them.

* `draft_errors`: the errors of a draft, in order;
* `errorOf?_emitEntity`: whether an entity fails, and with what, does not depend on the unit;
* `emitAll_failures`: the failures of entities that are emitted one after the other;
* `unknownEntity_not_mem_errors`: the targets of accepted graphs are all known.
-/

namespace EntityTables

/-! ## The error of a member -/

/-- Why a member has no column: its converter stores values of a type that no wrapper carries
or, without a converter, it has a type that has no column or that cannot be a key. -/
def Member.error? (member : Member) : Option EmissionError :=
  match member.converter, member.role with
  | some converter, _ =>
    if converter.targetType.native? = some .string ∨ converter.targetType.native? = some .long then
      none
    else some (.converterTargetNotSupported converter.targetType)
  | none, .key _ =>
    if member.type.native?.any NativeType.isKeyType then none
    else some (.idTypeNotSupported member.type)
  | none, .property _ =>
    if member.type.native?.isSome then none else some (.propertyTypeNotSupported member.type)

namespace Entity

/-- The errors of an entity, at most one for each member, in the order of its id, its properties
and its associations. -/
def errors (settings : Settings) (graphs : EntityGraphs) (entity : Entity) :
    List EmissionError :=
  entity.members.filterMap Member.error? ++
    entity.associations.filterMap fun association =>
      errorOf? (planOf settings graphs entity association)

/-- The report of an entity that has errors. -/
def failure? (settings : Settings) (graphs : EntityGraphs) (entity : Entity) :
    Option EntityFailure :=
  if entity.errors settings graphs = [] then none
  else some ⟨entity.name, entity.errors settings graphs⟩

theorem failure?_eq_none_iff {settings : Settings} {graphs : EntityGraphs} {entity : Entity} :
    entity.failure? settings graphs = none ↔ entity.errors settings graphs = [] := by
  unfold failure?
  split <;> simp_all

end Entity

/-- A converter fails with the type that it stores, unless that is a carrier. -/
theorem errorOf?_carrier (converter : Converter) :
    errorOf? converter.carrier =
      if converter.targetType.native? = some .string ∨
          converter.targetType.native? = some .long then none
      else some (.converterTargetNotSupported converter.targetType) := by
  unfold Converter.carrier
  split <;> simp_all [errorOf?]

/-- A member without a converter fails with its type, unless that has a column for its role. -/
theorem errorOf?_nativeType {member : Member} (hconverter : member.converter = none) :
    errorOf? member.nativeType = member.error? := by
  unfold Member.nativeType Member.error?
  rw [hconverter]
  cases hrole : member.role with
  | key generated =>
      cases hnative : member.type.native? with
      | none => simp [errorOf?]
      | some native =>
          by_cases hkey : native.isKeyType <;> simp [errorOf?, hkey]
  | property nullable =>
      cases hnative : member.type.native? with
      | none => simp [errorOf?]
      | some native => simp [errorOf?]

/-- Members fail only because of types. -/
theorem Member.isAboutType_of_error? {member : Member} {error : EmissionError}
    (herror : member.error? = some error) : error.isAboutType := by
  unfold Member.error? at herror
  split at herror <;> split at herror <;>
    first
    | contradiction
    | exact Option.some.inj herror ▸ rfl

/-- No entity of accepted graphs fails for want of an association's target. -/
theorem Entity.unknownEntity_not_mem_errors {settings : Settings} {graphs : EntityGraphs}
    {entity : Entity} (hentity : entity ∈ graphs.entities) (key : EntityKey) :
    .unknownEntity key ∉ entity.errors settings graphs := by
  intro hmem
  rcases List.mem_append.mp hmem with hmember | hassociation
  · obtain ⟨member, -, herror⟩ := List.mem_filterMap.mp hmember
    exact absurd (Member.isAboutType_of_error? herror) (by simp [EmissionError.isAboutType])
  · obtain ⟨association, hassociation, herror⟩ := List.mem_filterMap.mp hassociation
    obtain ⟨target, -, htarget⟩ := EntityGraphs.exists_target hentity hassociation
    exact planOf_ne_unknownEntity htarget key (errorOf?_eq_some_iff.mp herror)

namespace Run

variable {run : Run} {unit : OutputUnit} {entityName : String} {stage after : Stage}

/-- However a member is placed, it fails with its own error. -/
theorem Placed.error? {member : Member} {outcome : MemberOutcome}
    (placed : Placed run unit entityName stage member (after, outcome)) :
    errorOf? outcome.column = member.error? := by
  cases placed with
  | native hconverter =>
      rw [← errorOf?_nativeType hconverter]
      simp only [Member.recipe, Member.columnKind, Functor.map, errorOf?_map]
  | @unsupported converter error hconverter hcarrier =>
      have herror := errorOf?_carrier converter
      rw [hcarrier] at herror
      simp only [Member.error?, hconverter, ← herror, errorOf?]
  | @wrapped converter carrier choice hconverter hcarrier hchoice =>
      have hnone := errorOf?_carrier converter
      rw [hcarrier] at hnone
      simp only [Member.error?, hconverter, ← hnone, errorOf?]

theorem placeMembers_errors {members : List Member} {outcomes : List MemberOutcome}
    (hplaces : run.placeMembers unit entityName stage members = (after, outcomes)) :
    outcomes.filterMap (errorOf? ·.column) = members.filterMap Member.error? := by
  -- members change the stage for those behind them, but no error depends on it
  induction members generalizing stage outcomes with
  | nil =>
      obtain ⟨rfl, rfl⟩ := Prod.mk.inj hplaces
      rfl
  | cons member members ih =>
      obtain ⟨between, outcome, rest, placed, hrest, rfl⟩ := placeMembers_cons_eq hplaces
      simp only [List.filterMap_cons, placed.error?, ih hrest]

/-- The id and the properties of an entity fail with their own errors, whatever the unit. -/
theorem errorOf?_outcome {entity : Entity} {outcome : MemberOutcome}
    (houtcome : outcome ∈
      (run.draft unit entity).key.toList ++ (run.draft unit entity).properties) :
    errorOf? outcome.column = outcome.member.error? := by
  obtain ⟨after, hplaces, -⟩ := draft_places run unit entity
  obtain ⟨before, between, -, placed, -⟩ := exists_placed hplaces houtcome
  exact placed.error?

/-! ## The errors of an entity -/

/-- An association that is owned elsewhere fails like any other. -/
theorem errorOf?_contribution (run : Run) (entity : Entity) (association : Association) :
    errorOf? (run.contribution entity association) =
      errorOf? (planOf run.settings run.graphs entity association) :=
  errorOf?_map _ _

theorem draft_errors (run : Run) (unit : OutputUnit) (entity : Entity) :
    (run.draft unit entity).errors = entity.errors run.settings run.graphs := by
  obtain ⟨after, hplaces, -⟩ := draft_places run unit entity
  rw [Draft.errors, Entity.errors, placeMembers_errors hplaces]
  simp only [draft, List.filterMap_map, Function.comp_def, errorOf?_contribution]

/-- Whether an entity fails, and with what, does not depend on the unit. -/
theorem errorOf?_emitEntity (run : Run) (unit : OutputUnit) (entity : Entity) :
    errorOf? (run.emitEntity unit entity) = entity.failure? run.settings run.graphs := by
  simp only [emitEntity, Functor.map, errorOf?_map, stageOf, draft_errors, Entity.failure?,
    List.isEmpty_iff]
  split <;> rfl

/-- Entities that are emitted one after the other fail with their own errors, in order. -/
theorem emitAll_failures (run : Run) (unit : OutputUnit) (entities : List Entity) :
    (run.emitAll unit entities).2 =
      entities.filterMap (Entity.failure? run.settings run.graphs) := by
  induction entities generalizing unit with
  | nil => rfl
  | cons entity entities ih =>
      rw [emitAll, List.filterMap_cons, ← errorOf?_emitEntity run unit entity]
      cases hemit : run.emitEntity unit entity with
      | ok after => exact ih after
      | error failure => exact congrArg (failure :: ·) (ih unit)

end Run
end EntityTables
