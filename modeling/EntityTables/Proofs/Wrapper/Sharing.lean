import EntityTables.Proofs.Emission.Columns
import EntityTables.Proofs.Wrapper.Settled
import EntityTables.Proofs.Wrapper.Soundness

/-!
# Members that could share a wrapper

Members of one name and type with the same converter ask for the same wrapper.  They share one if
the plain name is bound to it, or if their entities have one variable name.  But when the plain name
belongs to another wrapper, which some third member was given first, a wrapper is looked for under
the name of the member's own entity only: then every entity has a wrapper of its own, and they all
do the same.

* `settles_of_outcome`, `settles_of_unit`: what the column of a converted member calls is what its
  entity would choose when everything is bound;
* `generatePackage_identical_members`: when the columns of identical members call the same wrapper.
-/

namespace EntityTables

/-! ## Identical members -/

/-- Two members with converters ask for the same wrapper. -/
structure Member.Identical (member other : Member) : Prop where
  name_eq : member.name = other.name
  type_eq : member.type = other.type
  converter_eq : ∃ converter otherConverter, member.converter = some converter ∧
    other.converter = some otherConverter ∧ converter.name = otherConverter.name ∧
      converter.carrier = otherConverter.carrier

theorem Member.Identical.wrapper?_eq {member other : Member} (hidentical : member.Identical other) :
    member.wrapper? = other.wrapper? := by
  obtain ⟨converter, otherConverter, hconverter, hother, hname, hcarrier⟩ := hidentical.converter_eq
  simp only [wrapper?, hconverter, hother, Option.map_some, hidentical.name_eq, hidentical.type_eq,
    hname, hcarrier]

/-- The wrapper that a member asks for. -/
theorem Member.wrapper?_eq_ok_iff {member : Member} {wrapper : Wrapper} :
    member.wrapper? = some (.ok wrapper) ↔ ∃ converter carrier,
      member.converter = some converter ∧ converter.carrier = .ok carrier ∧
        Run.wrapperOf member converter carrier = wrapper := by
  rw [wrapper?, Option.map_eq_some_iff]
  constructor
  · rintro ⟨converter, hconverter, hmade⟩
    obtain ⟨carrier, hcarrier, heq⟩ := map_eq_ok_iff.mp hmade
    exact ⟨converter, carrier, hconverter, hcarrier, heq⟩
  · rintro ⟨converter, carrier, hconverter, hcarrier, heq⟩
    exact ⟨converter, hconverter, map_eq_ok_iff.mpr ⟨carrier, hcarrier, heq⟩⟩

theorem Member.name_of_wrapper? {member : Member} {wrapper : Wrapper}
    (hwrapper : member.wrapper? = some (.ok wrapper)) : wrapper.name = member.name := by
  obtain ⟨_, _, -, -, rfl⟩ := Member.wrapper?_eq_ok_iff.mp hwrapper
  rfl

/-- In the one table of an entity, the column of a member calls a wrapper by its name. -/
def OutputUnit.CallsAt (unit : OutputUnit) (entity : Entity) (index : Nat) (name : String) : Prop :=
  ∃ table column, unit.tables.filter (·.entity = entity.key) = [table] ∧
    table.allColumns[index]? = some column ∧ column.recipe.kind = .converted name

namespace Run

variable {run : Run} {unit : OutputUnit} {entity : Entity} {stage after : Stage}
  {entityName : String} {member : Member} {outcome : MemberOutcome} {column : ColumnSpec}
  {wrapper : Wrapper} {converter : Converter} {package : String} {index : Nat}

/-! ## What a column calls in the end -/

/-- When a converted member has its column, its entity would choose the name that the column calls
again. -/
theorem Placed.settles (placed : Placed run unit entityName stage member (after, outcome))
    (hcolumn : outcome.column = .ok column) (hconverter : member.converter = some converter) :
    ∃ wrapper name, member.wrapper? = some (.ok wrapper) ∧ column.recipe.kind = .converted name ∧
      wrapper.choose (unit.boundWrappers after) entityName = .reuse name := by
  cases placed with
  | native hnone => simp [hnone] at hconverter
  | unsupported _ _ => simp at hcolumn
  | @wrapped actual carrier choice hactual hcarrier hchoice =>
      obtain rfl := Except.ok.inj hcolumn
      refine ⟨wrapperOf member actual carrier, choice.name,
        Member.wrapper?_eq_ok_iff.mpr ⟨actual, carrier, hactual, hcarrier, rfl⟩,
        by simp [Member.column], ?_⟩
      cases choice with
      | reuse name => exact hchoice
      | fresh name =>
          rw [OutputUnit.boundWrappers_addWrapper_fresh]
          exact Wrapper.choose_append_of_fresh hchoice

/-- What the column of a converted member calls is what its entity would choose when everything is
bound: neither the other members of the entity nor later entities change the choice. -/
theorem settles_of_outcome {before : OutputUnit} (hstage : run.stageOf before entity = .ok stage)
    (hextends : (before.commit stage).Extends unit)
    (houtcome : outcome ∈ (run.draft before entity).key.toList ++
      (run.draft before entity).properties) (hcolumn : outcome.column = .ok column)
    (hconverter : outcome.member.converter = some converter) :
    ∃ wrapper name, outcome.member.wrapper? = some (.ok wrapper) ∧
      column.recipe.kind = .converted name ∧
      wrapper.choose unit.wrappers entity.name = .reuse name := by
  obtain ⟨after, hplaces, -, hwrappers⟩ := wrappers_commit hstage
  obtain ⟨_, between, later, placed, hbound⟩ := exists_placed hplaces houtcome
  obtain ⟨wrapper, name, hwrapper, hkind, hchoice⟩ := placed.settles hcolumn hconverter
  refine ⟨wrapper, name, hwrapper, hkind, ?_⟩
  obtain ⟨added, hadded⟩ := hextends.wrappers_prefix
  rw [← hadded, hwrappers, hbound]
  exact Wrapper.choose_append_of_reuse (Wrapper.choose_append_of_reuse hchoice later) added

theorem settles_of_unit (hunit : run.unitOfPackage package = .ok unit)
    (hentity : entity ∈ run.graphs.entitiesIn package)
    (hmember : entity.members[index]? = some member)
    (hconverter : member.converter = some converter) :
    ∃ wrapper name, member.wrapper? = some (.ok wrapper) ∧ unit.CallsAt entity index name ∧
      wrapper.choose unit.wrappers entity.name = .reuse name := by
  obtain ⟨before, stage, hstage, hextends, htable⟩ := exists_table hunit hentity
  obtain ⟨outcome, houtcome, column, rfl, hcolumn, hplace⟩ := table_member hstage hmember
  obtain ⟨wrapper, name, hwrapper, hkind, hchoice⟩ :=
    settles_of_outcome hstage hextends houtcome hcolumn hconverter
  exact ⟨wrapper, name, hwrapper, ⟨_, column, htable, hplace, hkind⟩, hchoice⟩

end Run

/-! ## A package -/

/-- The plain name of a member belongs to a wrapper that serves the member. -/
def OutputUnit.ServesPlainly (unit : OutputUnit) (member : Member) : Prop :=
  ∃ plain converter, unit.wrapper? member.name = some plain ∧
    member.converter = some converter ∧ plain.Serves member converter

theorem OutputUnit.servesPlainly_iff {unit : OutputUnit} {member : Member} {wrapper : Wrapper}
    (hwrapper : member.wrapper? = some (.ok wrapper)) :
    unit.ServesPlainly member ↔
      Wrapper.choiceOf? unit.wrappers wrapper wrapper.name = some (.reuse wrapper.name) := by
  obtain ⟨converter, carrier, hconverter, hcarrier, rfl⟩ := Member.wrapper?_eq_ok_iff.mp hwrapper
  rw [Wrapper.choiceOf?_eq_reuse_iff]
  constructor
  · rintro ⟨plain, actual, hplain, hactual, hserves⟩
    obtain rfl : converter = actual := Option.some.inj (hconverter.symm.trans hactual)
    exact ⟨plain, hplain, (Run.serves_iff_sameBody hcarrier).mp hserves⟩
  · rintro ⟨plain, hplain, hbody⟩
    exact ⟨plain, converter, hplain, hconverter, (Run.serves_iff_sameBody hcarrier).mpr hbody⟩

/-- The columns of two identical members of a package call the same wrapper if the plain name
belongs to a wrapper that serves them, or if their entities have one variable name; and only then,
unless the members are named by digits alone. -/
theorem generatePackage_identical_members {graphs : EntityGraphs} {package : String}
    {settings : Settings} {unit : OutputUnit}
    (hunit : generatePackage graphs package settings = .ok unit) {entity other : Entity}
    (hentity : entity ∈ graphs.entities) (hpackage : entity.package = package)
    (hother : other ∈ graphs.entities) (hotherPackage : other.package = package)
    {index otherIndex : Nat} {member otherMember : Member}
    (hmember : entity.members[index]? = some member)
    (hotherMember : other.members[otherIndex]? = some otherMember)
    (hidentical : member.Identical otherMember) :
    ∃ name otherName, unit.CallsAt entity index name ∧ unit.CallsAt other otherIndex otherName ∧
      (unit.ServesPlainly member ∨ variableName entity.name = variableName other.name →
        name = otherName) ∧
      (name = otherName →
        unit.ServesPlainly member ∨ variableName entity.name = variableName other.name ∨
          ∀ c ∈ (objectName member.name).toList, c.isDigit) := by
  obtain ⟨converter, otherConverter, hconverter, hotherConverter, -, -⟩ := hidentical.converter_eq
  obtain ⟨wrapper, name, hwrapper, hcalls, hchoice⟩ := Run.settles_of_unit hunit
    (EntityGraphs.mem_entitiesIn.mpr ⟨hentity, hpackage⟩) hmember hconverter
  obtain ⟨otherWrapper, otherName, hotherWrapper, hotherCalls, hotherChoice⟩ :=
    Run.settles_of_unit hunit (EntityGraphs.mem_entitiesIn.mpr ⟨hother, hotherPackage⟩)
      hotherMember hotherConverter
  obtain rfl : wrapper = otherWrapper := by
    simpa [hidentical.wrapper?_eq, hotherWrapper, eq_comm] using hwrapper
  have hname : wrapper.name = member.name := Member.name_of_wrapper? hwrapper
  refine ⟨name, otherName, hcalls, hotherCalls, ?_, ?_⟩
  · rintro (hplain | hvariable)
    · rw [OutputUnit.servesPlainly_iff hwrapper] at hplain
      rw [Wrapper.choose_of_plain hplain] at hchoice hotherChoice
      exact WrapperChoice.reuse.inj (hchoice.symm.trans hotherChoice)
    · rw [Wrapper.choose_congr hvariable, hotherChoice] at hchoice
      exact (WrapperChoice.reuse.inj hchoice).symm
  · rintro rfl
    by_cases hdigits : ∀ c ∈ (objectName member.name).toList, c.isDigit
    · exact .inr (.inr hdigits)
    · simp only [← hname, not_forall, exists_prop] at hdigits
      rcases Wrapper.of_reuse_eq hchoice hotherChoice hdigits with hplain | hvariable
      · exact .inl ((OutputUnit.servesPlainly_iff hwrapper).mpr hplain)
      · exact .inr (.inl hvariable)

/-- An entity with a converted member named `status`, the second of its members. -/
def entityWithStatus (qualifiedName table converter : String) : Entity :=
  { Entity.named qualifiedName table with
    id := some (IdField.named "id" NativeType.long.valueType)
    properties := [{ Property.named "status" ⟨"shop", "Status"⟩ with
      converter := some ⟨converter, NativeType.string.valueType⟩ }] }

/-- The order and the return have the same converter, and so have the invoice and the refund. -/
def shopOfStates : EntityGraphs where
  graphs := [⟨"shop", [
    entityWithStatus "shop.Order" "orders" "StatusNames",
    entityWithStatus "shop.Invoice" "invoices" "StatusCodes",
    entityWithStatus "shop.Refund" "refunds" "StatusCodes",
    entityWithStatus "shop.Return" "returns" "StatusNames"]⟩]
  nodup_keys := by decide
  target_mem := by decide

/-- The invoice and the refund have a wrapper each, and these do the same. -/
theorem shopOfStates_repeats :
    let invoice := entityWithStatus "shop.Invoice" "invoices" "StatusCodes"
    let refund := entityWithStatus "shop.Refund" "refunds" "StatusCodes"
    ∃ unit, generatePackage shopOfStates "shop" {} = .ok unit ∧
      invoice ∈ shopOfStates.entities ∧ refund ∈ shopOfStates.entities ∧
      (∃ member otherMember, invoice.members[1]? = some member ∧
        refund.members[1]? = some otherMember ∧ member.Identical otherMember) ∧
      unit.CallsAt invoice 1 "invoiceStatus" ∧ unit.CallsAt refund 1 "refundStatus" ∧
      unit.wrappers.map (fun wrapper => (wrapper.name, wrapper.converter)) =
        [("status", "StatusNames"), ("invoiceStatus", "StatusCodes"),
          ("refundStatus", "StatusCodes")] :=
  ⟨_, rfl, List.mem_cons_of_mem _ List.mem_cons_self,
    List.mem_cons_of_mem _ (List.mem_cons_of_mem _ List.mem_cons_self),
    ⟨_, _, rfl, rfl, rfl, rfl, _, _, rfl, rfl, rfl, rfl⟩, ⟨_, _, rfl, rfl, rfl⟩,
    ⟨_, _, rfl, rfl, rfl⟩, rfl⟩

/-- The order and the return share a wrapper, whatever the entities between them bind. -/
theorem shopOfStates_shares :
    let order := entityWithStatus "shop.Order" "orders" "StatusNames"
    let back := entityWithStatus "shop.Return" "returns" "StatusNames"
    ∃ unit, generatePackage shopOfStates "shop" {} = .ok unit ∧
      order ∈ shopOfStates.entities ∧ back ∈ shopOfStates.entities ∧
      (∃ member otherMember, order.members[1]? = some member ∧
        back.members[1]? = some otherMember ∧ member.Identical otherMember) ∧
      ∃ name, unit.CallsAt order 1 name ∧ unit.CallsAt back 1 name := by
  intro order back
  have hrun : ∃ unit, generatePackage shopOfStates "shop" {} = .ok unit ∧
      unit.wrapper? "status" = some ⟨"status", ⟨"shop", "Status"⟩, "StatusNames", .string⟩ :=
    ⟨_, rfl, rfl⟩
  obtain ⟨unit, hunit, hplain⟩ := hrun
  have horder : order ∈ shopOfStates.entities := List.mem_cons_self
  have hback : back ∈ shopOfStates.entities :=
    List.mem_cons_of_mem _ (List.mem_cons_of_mem _ (List.mem_cons_of_mem _ List.mem_cons_self))
  obtain ⟨member, otherMember, hmember, hotherMember, hidentical, hserves⟩ :
      ∃ member otherMember, order.members[1]? = some member ∧
        back.members[1]? = some otherMember ∧ member.Identical otherMember ∧
          unit.ServesPlainly member :=
    ⟨_, _, rfl, rfl, ⟨rfl, rfl, _, _, rfl, rfl, rfl, rfl⟩, _, _, hplain, rfl, rfl, rfl, rfl⟩
  have hpackage : order.package = "shop" := by decide +kernel
  have hbackPackage : back.package = "shop" := by decide +kernel
  obtain ⟨name, otherName, hcalls, hotherCalls, hsame, -⟩ := generatePackage_identical_members
    hunit horder hpackage hback hbackPackage hmember hotherMember hidentical
  obtain rfl := hsame (.inl hserves)
  exact ⟨unit, hunit, horder, hback, ⟨member, otherMember, hmember, hotherMember, hidentical⟩,
    name, hcalls, hotherCalls⟩

end EntityTables
