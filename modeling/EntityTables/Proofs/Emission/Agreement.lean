import EntityTables.Proofs.Emission.Failures

/-!
# What an emission looks at

Of all graphs of a run, the emission of an entity looks only at the targets of the entity's
associations and at who owns their join tables.  Two runs that agree in these emit the entity
alike, into whatever unit.

* `Run.AgreesOn`: the runs agree about an entity;
* `planOf_congr`: a plan depends on the target of its association only;
* `AgreesOn.draft_eq`, `AgreesOn.emitEntity_eq`: the entity is emitted alike;
* `emitAll_congr`: so are entities one after the other.
-/

namespace EntityTables

/-- Apart from the settings, the plan of an association depends on its target only. -/
theorem planOf_congr {first second : EntityGraphs} {settings : Settings} {source : Entity}
    {association : Association}
    (htarget : first.entity? association.target = second.entity? association.target) :
    planOf settings first source association = planOf settings second source association := by
  simp only [planOf, Association.targetIn, htarget]

namespace Run

/-- The runs agree about the entity: they have the same settings and find the same targets for the
entity's associations, which contribute the same to either. -/
structure AgreesOn (first second : Run) (entity : Entity) : Prop where
  settings_eq : first.settings = second.settings
  target_eq : ∀ association ∈ entity.associations,
    first.graphs.entity? association.target = second.graphs.entity? association.target
  contribution_eq : ∀ association ∈ entity.associations,
    first.contribution entity association = second.contribution entity association

variable {first second : Run} {entity : Entity}

/-! ## Members -/

theorem placeMember_congr (hsettings : first.settings = second.settings) (unit : OutputUnit)
    (entityName : String) (stage : Stage) (member : Member) :
    first.placeMember unit entityName stage member =
      second.placeMember unit entityName stage member := by
  unfold placeMember
  rw [hsettings]

theorem placeMembers_congr (hsettings : first.settings = second.settings) (unit : OutputUnit)
    (entityName : String) (stage : Stage) (members : List Member) :
    first.placeMembers unit entityName stage members =
      second.placeMembers unit entityName stage members := by
  induction members generalizing stage with
  | nil => rfl
  | cons member members ih => simp only [placeMembers, placeMember_congr hsettings, ih]

/-! ## Entities -/

namespace AgreesOn

theorem externalOf?_eq (hagrees : first.AgreesOn second entity) {outcome : AssociationOutcome}
    (houtcome : outcome.association ∈ entity.associations) (package : String) :
    first.externalOf? package outcome = second.externalOf? package outcome := by
  simp only [externalOf?, external?, hagrees.target_eq _ houtcome, hagrees.settings_eq]

theorem draft_eq (hagrees : first.AgreesOn second entity) (unit : OutputUnit) :
    first.draft unit entity = second.draft unit entity := by
  let outcomes := entity.associations.map fun association =>
    (⟨association, second.contribution entity association⟩ : AssociationOutcome)
  have houtcomes : (entity.associations.map fun association =>
      (⟨association, first.contribution entity association⟩ : AssociationOutcome)) = outcomes := by
    apply List.map_congr_left
    intro association hassociation
    rw [hagrees.contribution_eq association hassociation]
  have hexternals : outcomes.filterMap (first.externalOf? unit.package) =
      outcomes.filterMap (second.externalOf? unit.package) := by
    apply List.filterMap_congr
    intro outcome houtcome
    obtain ⟨association, hassociation, rfl⟩ := List.mem_map.mp houtcome
    exact hagrees.externalOf?_eq hassociation unit.package
  simp only [draft, placeMembers_congr hagrees.settings_eq, houtcomes, hexternals]
  rfl

theorem emitEntity_eq (hagrees : first.AgreesOn second entity) (unit : OutputUnit) :
    first.emitEntity unit entity = second.emitEntity unit entity := by
  simp only [emitEntity, stageOf, hagrees.draft_eq unit, hagrees.settings_eq]

end AgreesOn

/-- Runs that agree about entities emit them alike, one after the other. -/
theorem emitAll_congr {entities : List Entity}
    (hagrees : ∀ entity ∈ entities, first.AgreesOn second entity) (unit : OutputUnit) :
    first.emitAll unit entities = second.emitAll unit entities := by
  induction entities generalizing unit with
  | nil => rfl
  | cons entity entities ih =>
      have hrest := ih fun other hother => hagrees other (List.mem_cons_of_mem _ hother)
      simp only [emitAll, (hagrees entity List.mem_cons_self).emitEntity_eq unit, hrest]

end Run
end EntityTables
