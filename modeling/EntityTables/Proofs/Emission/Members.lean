import EntityTables.Emission
import EntityTables.Proofs.Association.Plan
import EntityTables.Proofs.Wrapper.Choice

/-!
# Placing the members of an entity

What `placeMember` can do with a member is said once, by `Placed`: an unconverted member gets a
native column, a converter without a carrier fails, and any other converter gets a column that
calls the chosen wrapper.  Everything else about members is read off from these three cases.

* `placeMembers_outcomes`: every member has its own outcome, in order;
* `exists_placed`: every outcome comes from placing its member, and wrappers are only added later;
* `placeMembers_calls`: the column of a converted member calls a wrapper with the body that the
  member asks for;
* `placeMembers_called`: a wrapper is added to the stage only for a column that calls it;
* `placeMembers_nodup`: wrappers that had different names keep different names.
-/

namespace EntityTables

/-- The wrapper does for a member what the member's converter asks for. -/
structure Wrapper.Serves (wrapper : Wrapper) (member : Member) (converter : Converter) :
    Prop where
  attributeType : wrapper.attributeType = member.type
  converter_eq : wrapper.converter = converter.name
  carrier : converter.carrier = .ok wrapper.carrier

/-- The column of a converted member is made by a wrapper, found by its name, that serves the
member. -/
def ColumnSpec.CallsWrapper (column : ColumnSpec) (wrappers : List Wrapper) (member : Member)
    (converter : Converter) : Prop :=
  column.name = member.name ∧ ∃ wrapper, column.recipe.kind = .converted wrapper.name ∧
    wrappers.find? (·.name = wrapper.name) = some wrapper ∧ wrapper.Serves member converter

/-- Wrappers that are added later do not change what a column calls. -/
theorem ColumnSpec.CallsWrapper.append {column : ColumnSpec} {wrappers : List Wrapper}
    {member : Member} {converter : Converter}
    (hcalls : column.CallsWrapper wrappers member converter) (later : List Wrapper) :
    column.CallsWrapper (wrappers ++ later) member converter := by
  obtain ⟨hname, wrapper, hkind, hfind, hserves⟩ := hcalls
  refine ⟨hname, wrapper, hkind, ?_, hserves⟩
  rw [List.find?_append, hfind, Option.some_or]

namespace Run

variable {run : Run} {unit : OutputUnit} {entityName : String} {stage after : Stage}

/-- The wrapper that a converted member asks for. -/
def wrapperOf (member : Member) (converter : Converter) (carrier : Carrier) : Wrapper :=
  ⟨member.name, member.type, converter.name, carrier⟩

/-- A wrapper serves a member if it has the body of the one that the member asks for. -/
theorem serves_iff_sameBody {member : Member} {converter : Converter} {carrier : Carrier}
    (hcarrier : converter.carrier = .ok carrier) {wrapper : Wrapper} :
    wrapper.Serves member converter ↔ wrapper.sameBody (wrapperOf member converter carrier) := by
  simp only [Wrapper.sameBody, Bool.and_eq_true, decide_eq_true_eq]
  constructor
  · intro hserves
    have hcarriers : carrier = wrapper.carrier :=
      Except.ok.inj (hcarrier.symm.trans hserves.carrier)
    exact ⟨⟨hserves.attributeType, hserves.converter_eq⟩, hcarriers.symm⟩
  · rintro ⟨⟨htype, hname⟩, hcarriers⟩
    exact ⟨htype, hname, hcarriers ▸ hcarrier⟩

/-- How a member is placed: the stage behind it and its outcome. -/
inductive Placed (run : Run) (unit : OutputUnit) (entityName : String) (stage : Stage)
    (member : Member) : Stage × MemberOutcome → Prop
  | native (hconverter : member.converter = none) :
      Placed run unit entityName stage member
        (stage, ⟨member, none, member.column <$> member.recipe run.settings none⟩)
  | unsupported {converter : Converter} {error : EmissionError}
      (hconverter : member.converter = some converter)
      (hcarrier : converter.carrier = .error error) :
      Placed run unit entityName stage member (stage, ⟨member, none, .error error⟩)
  | wrapped {converter : Converter} {carrier : Carrier} {choice : WrapperChoice}
      (hconverter : member.converter = some converter)
      (hcarrier : converter.carrier = .ok carrier)
      (hchoice : unit.chooseWrapper stage entityName (wrapperOf member converter carrier) =
        choice) :
      Placed run unit entityName stage member
        (stage.addWrapper (wrapperOf member converter carrier) choice,
          ⟨member, some choice, .ok (member.column (member.recipeOf (.converted choice.name)))⟩)

theorem placed_placeMember (run : Run) (unit : OutputUnit) (entityName : String) (stage : Stage)
    (member : Member) :
    Placed run unit entityName stage member (run.placeMember unit entityName stage member) := by
  cases hconverter : member.converter with
  | none =>
      have hwrapper : member.wrapper? = none := by simp [Member.wrapper?, hconverter]
      rw [placeMember, hwrapper]
      exact .native hconverter
  | some converter =>
      cases hcarrier : converter.carrier with
      | error error =>
          have hwrapper : member.wrapper? = some (.error error) := by
            simp [Member.wrapper?, hconverter, hcarrier]
          rw [placeMember, hwrapper]
          exact .unsupported hconverter hcarrier
      | ok carrier =>
          have hwrapper : member.wrapper? = some (.ok (wrapperOf member converter carrier)) := by
            simp [Member.wrapper?, hconverter, hcarrier, wrapperOf]
          rw [placeMember, hwrapper]
          exact .wrapped hconverter hcarrier rfl

/-! ## One member -/

namespace Placed

variable {member : Member} {outcome : MemberOutcome}

theorem member_eq (placed : Placed run unit entityName stage member (after, outcome)) :
    outcome.member = member := by
  cases placed <;> rfl

/-- Whatever its kind, the column of a member is made from the member. -/
theorem column_eq (placed : Placed run unit entityName stage member (after, outcome))
    {column : ColumnSpec} (hcolumn : outcome.column = .ok column) :
    ∃ kind, column = member.column (member.recipeOf kind) := by
  cases placed with
  | native _ =>
      obtain ⟨recipe, hrecipe, rfl⟩ := map_eq_ok_iff.mp hcolumn
      obtain ⟨kind, -, rfl⟩ := map_eq_ok_iff.mp hrecipe
      exact ⟨kind, rfl⟩
  | unsupported _ _ => simp at hcolumn
  | wrapped _ _ _ => exact ⟨_, (Except.ok.inj hcolumn).symm⟩

theorem wrappers_prefix (placed : Placed run unit entityName stage member (after, outcome)) :
    stage.wrappers <+: after.wrappers := by
  cases placed with
  | native _ => exact List.prefix_refl _
  | unsupported _ _ => exact List.prefix_refl _
  | @wrapped _ _ choice _ _ _ =>
      cases choice with
      | reuse name => exact List.prefix_refl _
      | fresh name => exact List.prefix_append _ _

/-- A fresh name is bound to nothing, so all names stay different. -/
theorem nodup (placed : Placed run unit entityName stage member (after, outcome))
    (hnodup : ((unit.boundWrappers stage).map (·.name)).Nodup) :
    ((unit.boundWrappers after).map (·.name)).Nodup := by
  cases placed with
  | native _ => exact hnodup
  | unsupported _ _ => exact hnodup
  | @wrapped _ _ choice _ _ hchoice =>
      cases choice with
      | reuse name => exact hnodup
      | fresh name =>
          have hunbound := Wrapper.choose_fresh hchoice
          rw [OutputUnit.boundWrappers_addWrapper_fresh, List.map_append, List.map_singleton,
            List.nodup_append]
          refine ⟨hnodup, List.nodup_singleton _, ?_⟩
          intro bound hmem fresh hfresh heq
          have hname : bound = name := heq.trans (List.mem_singleton.mp hfresh)
          exact hunbound (hname ▸ hmem)

/-- The column of a converted member calls the wrapper that was chosen for the member. -/
theorem calls (placed : Placed run unit entityName stage member (after, outcome))
    {column : ColumnSpec} (hcolumn : outcome.column = .ok column) {converter : Converter}
    (hconverter : member.converter = some converter) :
    column.CallsWrapper (unit.boundWrappers after) member converter := by
  cases placed with
  | native hnone => simp [hnone] at hconverter
  | unsupported _ _ => simp at hcolumn
  | @wrapped actual carrier choice hactual hcarrier hchoice =>
      obtain rfl : actual = converter := Option.some.inj (hactual.symm.trans hconverter)
      obtain rfl := Except.ok.inj hcolumn
      cases choice with
      | reuse name =>
          -- the wrapper was bound before, perhaps by an earlier entity
          obtain ⟨other, hfind, hbody⟩ := Wrapper.choose_reuse hchoice
          have hname : other.name = name := by simpa using List.find?_some hfind
          subst hname
          exact ⟨rfl, other, by simp [Member.column, WrapperChoice.name], hfind,
            (serves_iff_sameBody hcarrier).mpr hbody⟩
      | fresh name =>
          have hnone := Wrapper.find?_of_unbound (Wrapper.choose_fresh hchoice)
          refine ⟨rfl, { wrapperOf member actual carrier with name }, ?_, ?_, rfl, rfl, hcarrier⟩
          · simp [Member.column, WrapperChoice.name]
          · simp [hnone]

/-- A wrapper that a member adds to the stage is called by the member's column. -/
theorem called (placed : Placed run unit entityName stage member (after, outcome))
    {wrapper : Wrapper} (hwrapper : wrapper ∈ after.wrappers) :
    wrapper ∈ stage.wrappers ∨
      ∃ column, outcome.column = .ok column ∧ column.recipe.kind = .converted wrapper.name := by
  cases placed with
  | native _ => exact .inl hwrapper
  | unsupported _ _ => exact .inl hwrapper
  | @wrapped _ _ choice _ _ _ =>
      cases choice with
      | reuse name => exact .inl hwrapper
      | fresh name =>
          rcases List.mem_append.mp hwrapper with hold | hnew
          · exact .inl hold
          · obtain rfl := List.mem_singleton.mp hnew
            exact .inr ⟨_, rfl, by simp [Member.column, WrapperChoice.name]⟩

end Placed

/-! ## All members -/

variable {member : Member} {members : List Member} {outcomes : List MemberOutcome}

/-- Placing members is placing the first and then the others behind it. -/
theorem placeMembers_cons_eq (hplaces : run.placeMembers unit entityName stage
      (member :: members) = (after, outcomes)) :
    ∃ between outcome rest, Placed run unit entityName stage member (between, outcome) ∧
      run.placeMembers unit entityName between members = (after, rest) ∧
        outcomes = outcome :: rest := by
  have hplaced := placed_placeMember run unit entityName stage member
  rw [placeMembers] at hplaces
  obtain ⟨rfl, rfl⟩ := Prod.mk.inj hplaces
  exact ⟨_, _, _, hplaced, rfl, rfl⟩

theorem placeMembers_append (run : Run) (unit : OutputUnit) (entityName : String) (stage : Stage)
    (first second : List Member) :
    run.placeMembers unit entityName stage (first ++ second) =
      ((run.placeMembers unit entityName
          (run.placeMembers unit entityName stage first).1 second).1,
        (run.placeMembers unit entityName stage first).2 ++
          (run.placeMembers unit entityName
            (run.placeMembers unit entityName stage first).1 second).2) := by
  induction first generalizing stage with
  | nil => rfl
  | cons member first ih => simp only [List.cons_append, placeMembers, ih]

/-- Every member has its own outcome, in order. -/
theorem placeMembers_outcomes
    (hplaces : run.placeMembers unit entityName stage members = (after, outcomes)) :
    outcomes.map (·.member) = members := by
  induction members generalizing stage outcomes with
  | nil =>
      obtain ⟨rfl, rfl⟩ := Prod.mk.inj hplaces
      rfl
  | cons member members ih =>
      obtain ⟨between, outcome, rest, placed, hrest, rfl⟩ := placeMembers_cons_eq hplaces
      rw [List.map_cons, placed.member_eq, ih hrest]

theorem placeMembers_prefix
    (hplaces : run.placeMembers unit entityName stage members = (after, outcomes)) :
    stage.wrappers <+: after.wrappers := by
  induction members generalizing stage outcomes with
  | nil =>
      obtain ⟨rfl, rfl⟩ := Prod.mk.inj hplaces
      exact List.prefix_refl _
  | cons member members ih =>
      obtain ⟨between, outcome, rest, placed, hrest, rfl⟩ := placeMembers_cons_eq hplaces
      exact placed.wrappers_prefix.trans (ih hrest)

/-- Every outcome comes from placing its member into some stage on the way, and the members that
are placed later only add wrappers. -/
theorem exists_placed
    (hplaces : run.placeMembers unit entityName stage members = (after, outcomes))
    {outcome : MemberOutcome} (houtcome : outcome ∈ outcomes) :
    ∃ before between later, Placed run unit entityName before outcome.member (between, outcome) ∧
      unit.boundWrappers after = unit.boundWrappers between ++ later := by
  induction members generalizing stage outcomes with
  | nil =>
      obtain ⟨rfl, rfl⟩ := Prod.mk.inj hplaces
      simp at houtcome
  | cons member members ih =>
      obtain ⟨between, first, rest, placed, hrest, rfl⟩ := placeMembers_cons_eq hplaces
      rcases List.mem_cons.mp houtcome with rfl | hlater
      · obtain ⟨later, hlater⟩ := placeMembers_prefix hrest
        refine ⟨stage, between, later, placed.member_eq ▸ placed, ?_⟩
        rw [OutputUnit.boundWrappers, OutputUnit.boundWrappers, List.append_assoc, hlater]
      · exact ih hrest hlater

theorem placeMembers_nodup
    (hplaces : run.placeMembers unit entityName stage members = (after, outcomes))
    (hnodup : ((unit.boundWrappers stage).map (·.name)).Nodup) :
    ((unit.boundWrappers after).map (·.name)).Nodup := by
  induction members generalizing stage outcomes with
  | nil =>
      obtain ⟨rfl, rfl⟩ := Prod.mk.inj hplaces
      exact hnodup
  | cons member members ih =>
      obtain ⟨between, outcome, rest, placed, hrest, rfl⟩ := placeMembers_cons_eq hplaces
      exact ih hrest (placed.nodup hnodup)

/-- The column of every converted member calls a wrapper that serves the member. -/
theorem placeMembers_calls
    (hplaces : run.placeMembers unit entityName stage members = (after, outcomes))
    {outcome : MemberOutcome} (houtcome : outcome ∈ outcomes) {column : ColumnSpec}
    (hcolumn : outcome.column = .ok column) {converter : Converter}
    (hconverter : outcome.member.converter = some converter) :
    column.CallsWrapper (unit.boundWrappers after) outcome.member converter := by
  obtain ⟨before, between, later, placed, hbound⟩ := exists_placed hplaces houtcome
  rw [hbound]
  exact (placed.calls hcolumn hconverter).append later

/-- A wrapper that members add to the stage is called by the column of one of them. -/
theorem placeMembers_called
    (hplaces : run.placeMembers unit entityName stage members = (after, outcomes))
    {wrapper : Wrapper} (hwrapper : wrapper ∈ after.wrappers) :
    wrapper ∈ stage.wrappers ∨ ∃ outcome ∈ outcomes, ∃ column,
      outcome.column = .ok column ∧ column.recipe.kind = .converted wrapper.name := by
  induction members generalizing stage outcomes with
  | nil =>
      obtain ⟨rfl, rfl⟩ := Prod.mk.inj hplaces
      exact .inl hwrapper
  | cons member members ih =>
      obtain ⟨between, first, rest, placed, hrest, rfl⟩ := placeMembers_cons_eq hplaces
      rcases ih hrest with hbetween | ⟨outcome, houtcome, hcalls⟩
      · rcases placed.called hbetween with hold | hcalls
        · exact .inl hold
        · exact .inr ⟨first, List.mem_cons_self, hcalls⟩
      · exact .inr ⟨outcome, List.mem_cons_of_mem _ houtcome, hcalls⟩

end Run
end EntityTables
