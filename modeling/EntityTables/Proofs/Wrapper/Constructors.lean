import EntityTables.Proofs.Generation.ColumnTypes
import EntityTables.Proofs.Generation.Order
import EntityTables.Proofs.Kotlin.Initializers
import EntityTables.Proofs.Wrapper.Sharing

/-!
# Wrappers beside the constructors of columns

The name of a wrapper is chosen against the other wrappers of its unit only.  A converted member
that has the name of a constructor therefore takes that name for its wrapper, or finds that another
wrapper has it already.  A member whose own name is taken can arrive at the name of a constructor
through the name of its entity.  With a number behind it a name is never that of a constructor, so
there is no third way.

A column whose call looks like that of another column is made like it, except where the name of a
wrapper reads as a constructor up to its first parenthesis.

* `isConstructorName_iff`: the names of the constructors;
* `Run.exists_caller`: a column that calls a wrapper is that of a converted member;
* `Run.spares_iff_wrappers`, `Run.spares_iff_members`: when no wrapper has the name of a
  constructor;
* `Run.made_alike`: columns that are made by the same text;
* `generateAll_wrappers_beside_constructors`: the units of a run.
-/

namespace EntityTables

/-! ## Constructors -/

/-- A constructor of native columns has the name. -/
def IsConstructorName (name : String) : Prop :=
  ∃ kind : ColumnKind, kind.isNative ∧ kind.constructorName = name

def constructorNames : List String :=
  ["varchar", "long", "integer", "short", "bool", "float", "double", "decimal", "uuid", "datetime",
    "localDateTime", "zonedDateTime"]

theorem constructorName_mem {kind : ColumnKind} (hkind : kind.isNative) :
    kind.constructorName ∈ constructorNames := by
  cases kind <;> simp_all [ColumnKind.isNative, ColumnKind.constructorName, constructorNames]

theorem isConstructorName_iff {name : String} :
    IsConstructorName name ↔ name ∈ constructorNames := by
  constructor
  · rintro ⟨kind, hkind, rfl⟩
    exact constructorName_mem hkind
  · intro hname
    have hkinds : constructorNames = [ColumnKind.varchar 0, .long, .integer, .short, .bool, .float,
        .double, .decimal 0 0, .uuid, .dateTime, .localDateTime, .zonedDateTime].map
          ColumnKind.constructorName := rfl
    rw [hkinds, List.mem_map] at hname
    obtain ⟨kind, hkind, rfl⟩ := hname
    refine ⟨kind, ?_, rfl⟩
    revert kind
    decide

instance : DecidablePred IsConstructorName := fun _ => decidable_of_iff _ isConstructorName_iff.symm

/-- No constructor has a number behind its name. -/
theorem not_isConstructorName_numbered (entityName name : String) (number : Nat) :
    ¬IsConstructorName (Wrapper.candidate entityName name (number + 2)) := by
  have hlast : ∀ name ∈ constructorNames, ¬name.toList.getLast?.any Char.isDigit := by decide
  rw [isConstructorName_iff]
  intro hname
  refine hlast _ hname ?_
  rw [Wrapper.candidate_add_two, String.toList_append, toList_toString,
    List.getLast?_append_of_ne_nil _ Nat.toDigits_ne_nil,
    List.getLast?_eq_some_getLast Nat.toDigits_ne_nil, Option.any_some]
  exact Nat.isDigit_of_mem_toDigits (by decide) (by decide) (List.getLast_mem _)

/-- The name of a constructor has no parenthesis. -/
theorem callee_constructorName {kind : ColumnKind} (hkind : kind.isNative) :
    Kotlin.callee kind.constructorName = kind.constructorName := by
  have hplain : ∀ name ∈ constructorNames, Kotlin.callee name = name := by decide
  exact hplain _ (constructorName_mem hkind)

/-- A column is native, or it calls a wrapper. -/
theorem ColumnKind.isNative_or_converted (kind : ColumnKind) :
    kind.isNative ∨ ∃ wrapper, kind = .converted wrapper := by
  cases kind with
  | converted wrapper => exact .inr ⟨wrapper, rfl⟩
  | _ => exact .inl rfl

/-- No column of the unit calls a wrapper by the name of a constructor. -/
def OutputUnit.SparesConstructors (unit : OutputUnit) : Prop :=
  ∀ column ∈ unit.columns, ∀ name, column.recipe.kind = .converted name → ¬IsConstructorName name

/-- The column calls a wrapper that reads as the constructor of the native column. -/
def ColumnSpec.Shadows (wrappers : List Wrapper) (column native : ColumnSpec) : Prop :=
  ∃ wrapper ∈ wrappers, column.recipe.kind = .converted wrapper.name ∧
    native.recipe.kind.isNative ∧
    Kotlin.callee wrapper.name = native.recipe.kind.constructorName

/-- How two columns come to be made by the same text. -/
inductive ColumnSpec.MadeAlike (wrappers : List Wrapper) (column other : ColumnSpec) : Prop
  | native (hcolumn : column.recipe.kind.isNative) (hother : other.recipe.kind.isNative)
  | wrapped {wrapper : Wrapper} (hwrapper : wrapper ∈ wrappers)
      (hcolumn : column.recipe.kind = .converted wrapper.name)
      (hother : other.recipe.kind = .converted wrapper.name)
  | shadows (hshadows : column.Shadows wrappers other)
  | shadowed (hshadows : other.Shadows wrappers column)

namespace Wrapper

variable {bound : List Wrapper} {wrapper : Wrapper} {name entityName : String}

/-- A name that is not free for a wrapper belongs to one. -/
theorem mem_of_choiceOf?_ne_fresh (wrapper : Wrapper)
    (hbound : choiceOf? bound wrapper name ≠ some (.fresh name)) :
    name ∈ bound.map (·.name) := by
  by_contra hunbound
  exact hbound (choiceOf?_of_unbound hunbound)

/-- All candidates up to the one that is used again belong to wrappers. -/
theorem exists_tried (hreuse : choose bound entityName wrapper = .reuse name) :
    ∃ number, candidate entityName wrapper.name number = name ∧
      choiceOf? bound wrapper name = some (.reuse name) ∧
      ∀ earlier ≤ number, candidate entityName wrapper.name earlier ∈ bound.map (·.name) := by
  obtain ⟨number, rfl, husable, hfirst⟩ := exists_candidate_of_reuse hreuse
  refine ⟨number, rfl, husable, fun earlier hearlier => mem_of_choiceOf?_ne_fresh wrapper ?_⟩
  rcases Nat.lt_or_eq_of_le hearlier with hlt | rfl
  · simp [hfirst earlier hlt]
  · simp [husable]

end Wrapper

namespace Run

variable {run : Run} {units : List OutputUnit} {unit : OutputUnit} {column other : ColumnSpec}
  {name : String}

/-! ## Columns that call wrappers -/

theorem Placed.exists_converter {entityName : String} {stage after : Stage} {member : Member}
    {outcome : MemberOutcome}
    (placed : Placed run unit entityName stage member (after, outcome))
    (hcolumn : outcome.column = .ok column) (hkind : column.recipe.kind = .converted name) :
    ∃ converter, member.converter = some converter := by
  cases hconverter : member.converter with
  | some converter => exact ⟨converter, rfl⟩
  | none =>
      obtain ⟨native, -, rfl⟩ := placed.native_column hconverter hcolumn
      simp only [Member.column, Member.recipeOf_kind] at hkind
      exact absurd hkind (native.columnKind_ne_converted _ _)

/-- A column that calls a wrapper is that of a converted member of an entity of the package, and
the entity would choose the wrapper again when everything is bound. -/
theorem exists_caller (hunits : run.units = .ok units) (hunit : unit ∈ units)
    (hcolumn : column ∈ unit.columns) (hkind : column.recipe.kind = .converted name) :
    ∃ entity ∈ run.graphs.entitiesIn unit.package, ∃ member ∈ entity.members, ∃ wrapper,
      member.wrapper? = some (.ok wrapper) ∧
      column = member.column (member.recipeOf (.converted name)) ∧
      wrapper.choose unit.wrappers entity.name = .reuse name := by
  have hpackage := unitOfPackage_of_mem hunits hunit
  rcases OutputUnit.of_mem_columns hcolumn with ⟨table, htable, hcolumn⟩ | ⟨table, htable, hcolumn⟩
  · obtain ⟨entity, hentity, hplace, hdeclares⟩ := of_mem_tables hunits hunit htable
    have hmem := EntityGraphs.mem_entitiesIn.mpr ⟨hentity, hplace⟩
    obtain ⟨before, stage, hstage, hextends, hunique⟩ := exists_table hpackage hmem
    obtain rfl : table = (run.draft before entity).table run.settings := by
      have hfilter : table ∈ unit.tables.filter (·.entity = entity.key) :=
        List.mem_filter.mpr ⟨htable, decide_eq_true hdeclares.entity_eq⟩
      rw [hunique] at hfilter
      exact List.mem_singleton.mp hfilter
    rcases Draft.of_mem_allColumns hcolumn with ⟨outcome, houtcome, hvalue⟩ |
      ⟨outcome, houtcome, hvalue⟩
    · obtain ⟨after, hplaces, -, -⟩ := wrappers_commit hstage
      obtain ⟨_, _, _, placed, -⟩ := exists_placed hplaces houtcome
      obtain ⟨converter, hconverter⟩ := placed.exists_converter hvalue hkind
      obtain ⟨kind, rfl⟩ := placed.column_eq hvalue
      simp only [Member.column, Member.recipeOf_kind] at hkind
      obtain ⟨wrapper, called, hwrapper, hcalled, hchoice⟩ :=
        settles_of_outcome hstage hextends houtcome hvalue hconverter
      simp only [Member.column, Member.recipeOf_kind] at hcalled
      obtain rfl : name = called := ColumnKind.converted.inj (hkind.symm.trans hcalled)
      have hmember : outcome.member ∈ entity.members :=
        placeMembers_outcomes hplaces ▸ List.mem_map_of_mem houtcome
      exact ⟨entity, hmem, outcome.member, hmember, wrapper, hwrapper, by rw [hkind], hchoice⟩
    · obtain ⟨association, hassociation, rfl⟩ := List.mem_map.mp houtcome
      have hvalue : run.contribution entity association = .ok (.foreignKey column) := hvalue
      have hforeign : column ∈ entity.foreignKeys run.settings run.graphs := by
        refine List.mem_filterMap.mpr ⟨association, hassociation, ?_⟩
        rw [← column?_contribution, hvalue]
        rfl
      exact absurd hkind (kind_of_mem_foreignKeys hforeign name)
  · obtain ⟨_, -, -, _, -, -, -, _, -, hbuilt⟩ := built_of_mem_joinTables hunits hunit htable
    obtain ⟨native, -, htype⟩ := typedReference_of_joinTableOf hbuilt hcolumn
    exact absurd (htype.kind_eq.symm.trans hkind) (native.columnKind_ne_converted _ _)

/-! ## Names of constructors -/

theorem wellWrapped_of_unit {package : String} (hunit : run.unitOfPackage package = .ok unit) :
    unit.WellWrapped :=
  (unitOfPackage_eq_ok_iff.mp hunit).invariant (fun _ _ _ => wellWrapped_commit)
    (OutputUnit.wellWrapped_empty package)

/-- Every wrapper of a unit is called, and every column calls a wrapper of its unit. -/
theorem spares_iff_wrappers (hunits : run.units = .ok units) (hunit : unit ∈ units) :
    unit.SparesConstructors ↔ ∀ name ∈ unit.wrappers.map (·.name), ¬IsConstructorName name := by
  constructor
  · intro hspares name hname
    obtain ⟨wrapper, hwrapper, rfl⟩ := List.mem_map.mp hname
    obtain ⟨column, hcolumn, hkind⟩ :=
      (wellWrapped_of_unit (unitOfPackage_of_mem hunits hunit)).called wrapper hwrapper
    exact hspares column hcolumn _ hkind
  · intro hspares column hcolumn name hkind
    obtain ⟨_, -, _, -, wrapper, -, -, hchoice⟩ := exists_caller hunits hunit hcolumn hkind
    obtain ⟨number, rfl, -, htried⟩ := Wrapper.exists_tried hchoice
    exact hspares _ (htried number (Nat.le_refl _))

/-- A unit spares the constructors if and only if no converted member has the name of one, and none
that would have such a name behind the name of its entity is in need of it. -/
theorem spares_iff_members (hunits : run.units = .ok units) (hunit : unit ∈ units) :
    unit.SparesConstructors ↔ ∀ entity ∈ run.graphs.entitiesIn unit.package,
      ∀ member ∈ entity.members, member.converter ≠ none →
        ¬IsConstructorName member.name ∧
          (IsConstructorName (Wrapper.qualifiedName entity.name member.name) →
            unit.ServesPlainly member) := by
  constructor
  · intro hspares entity hentity member hmember hconverter
    rw [spares_iff_wrappers hunits hunit] at hspares
    obtain ⟨converter, hconverter⟩ := Option.ne_none_iff_exists'.mp hconverter
    obtain ⟨index, hindex⟩ := List.getElem?_of_mem hmember
    obtain ⟨wrapper, name, hwrapper, -, hchoice⟩ :=
      settles_of_unit (unitOfPackage_of_mem hunits hunit) hentity hindex hconverter
    obtain ⟨number, rfl, husable, htried⟩ := Wrapper.exists_tried hchoice
    have hname : wrapper.name = member.name := Member.name_of_wrapper? hwrapper
    refine ⟨hname ▸ hspares _ (htried 0 (Nat.zero_le _)), fun hqualified => ?_⟩
    rw [OutputUnit.servesPlainly_iff hwrapper]
    cases number with
    | zero => exact husable
    | succ number =>
        rw [← hname] at hqualified
        exact absurd hqualified (hspares _ (htried 1 (Nat.le_add_left 1 number)))
  · intro hmembers column hcolumn name hkind
    obtain ⟨entity, hentity, member, hmember, wrapper, hwrapper, -, hchoice⟩ :=
      exists_caller hunits hunit hcolumn hkind
    obtain ⟨converter, _, hconverter, -, -⟩ := Member.wrapper?_eq_ok_iff.mp hwrapper
    have hname : wrapper.name = member.name := Member.name_of_wrapper? hwrapper
    obtain ⟨hplain, hqualified⟩ := hmembers entity hentity member hmember (by simp [hconverter])
    rw [← hname] at hplain hqualified
    obtain ⟨number, rfl, -, -⟩ := Wrapper.exists_tried hchoice
    match number with
    | 0 => exact hplain
    | 1 =>
        -- a member that is served under its own name does not ask for a qualified one
        intro hconstructor
        have hserved := (OutputUnit.servesPlainly_iff hwrapper).mp (hqualified hconstructor)
        rw [Wrapper.choose_of_plain hserved] at hchoice
        exact hplain (WrapperChoice.reuse.inj hchoice ▸ hconstructor)
    | number + 2 => exact not_isConstructorName_numbered entity.name wrapper.name number

/-! ## Columns of one text -/

/-- A column that calls a wrapper consists of the call. -/
theorem exists_wrapperCall (hunits : run.units = .ok units) (hunit : unit ∈ units)
    (hcolumn : column ∈ unit.columns) (hkind : column.recipe.kind = .converted name) :
    Kotlin.IsWrapperCall column.recipe name ∧ ∃ wrapper ∈ unit.wrappers, wrapper.name = name := by
  obtain ⟨_, -, member, -, wrapper, -, rfl, hchoice⟩ := exists_caller hunits hunit hcolumn hkind
  obtain ⟨number, rfl, -, htried⟩ := Wrapper.exists_tried hchoice
  refine ⟨⟨hkind, ?_, Member.recipeOf_references _ _⟩,
    List.mem_map.mp (htried number (Nat.le_refl _))⟩
  cases hrole : member.role <;>
    simp [Member.column, Member.recipeOf, hrole, ColumnKind.isIntegral]

/-- A wrapper whose call has the text of a native column reads as the constructor of that. -/
theorem shadows_of_initializer_eq (hunits : run.units = .ok units) (hunit : unit ∈ units)
    (hcolumn : column ∈ unit.columns) (hkind : column.recipe.kind = .converted name)
    (hnative : other.recipe.kind.isNative)
    (htext : Kotlin.initializer column.recipe = Kotlin.initializer other.recipe) :
    column.Shadows unit.wrappers other := by
  obtain ⟨-, wrapper, hwrapper, rfl⟩ := exists_wrapperCall hunits hunit hcolumn hkind
  have hcallee := congrArg Kotlin.callee htext
  rw [Kotlin.callee_initializer, Kotlin.callee_initializer, hkind,
    callee_constructorName hnative] at hcallee
  exact ⟨wrapper, hwrapper, hkind, hnative, hcallee⟩

/-- Columns that are made by the same text are both native or call the same wrapper, or else one of
them calls a wrapper that reads as the constructor of the other. -/
theorem made_alike (hunits : run.units = .ok units) (hunit : unit ∈ units)
    (hcolumn : column ∈ unit.columns) (hother : other ∈ unit.columns)
    (htext : Kotlin.initializer column.recipe = Kotlin.initializer other.recipe) :
    column.MadeAlike unit.wrappers other := by
  rcases column.recipe.kind.isNative_or_converted with hnative | ⟨name, hkind⟩
  · rcases other.recipe.kind.isNative_or_converted with hotherNative | ⟨otherName, hotherKind⟩
    · exact .native hnative hotherNative
    · exact .shadowed
        (shadows_of_initializer_eq hunits hunit hother hotherKind hnative htext.symm)
  · rcases other.recipe.kind.isNative_or_converted with hotherNative | ⟨otherName, hotherKind⟩
    · exact .shadows (shadows_of_initializer_eq hunits hunit hcolumn hkind hotherNative htext)
    · obtain ⟨hcall, wrapper, hwrapper, rfl⟩ :=
        exists_wrapperCall hunits hunit hcolumn hkind
      obtain ⟨hotherCall, -⟩ := exists_wrapperCall hunits hunit hother hotherKind
      obtain rfl := hcall.name_eq hotherCall htext
      exact .wrapped hwrapper hkind hotherKind

end Run

/-! ## A run -/

/-- In the units of a run, no column calls a wrapper by the name of a constructor if and only if no
converted member has the name of one, and every member that would have such a name behind the name
of its entity is served under its own.  Columns that are made by the same text are both native or
call the same wrapper, unless one calls a wrapper that reads as the constructor of the other. -/
theorem generateAll_wrappers_beside_constructors {graphs : EntityGraphs} {settings : Settings}
    {units : List OutputUnit} (hunits : generateAll graphs settings = .ok units) :
    ∀ unit ∈ units,
      (unit.SparesConstructors ↔ ∀ entity ∈ graphs.entitiesIn unit.package,
        ∀ member ∈ entity.members, member.converter ≠ none →
          ¬IsConstructorName member.name ∧
            (IsConstructorName (Wrapper.qualifiedName entity.name member.name) →
              unit.ServesPlainly member)) ∧
      ∀ column ∈ unit.columns, ∀ other ∈ unit.columns,
        Kotlin.initializer column.recipe = Kotlin.initializer other.recipe →
          column.MadeAlike unit.wrappers other := by
  have hrun : (Run.over graphs settings).units = .ok units := hunits
  intro unit hunit
  exact ⟨Run.spares_iff_members hrun hunit,
    fun column hcolumn other hother => Run.made_alike hrun hunit hcolumn hother⟩

/-- No name of a member of the states is that of a constructor. -/
theorem shopOfStates_spares_constructors :
    ∃ units, generateAll shopOfStates {} = .ok units ∧
      ∀ unit ∈ units, unit.SparesConstructors := by
  have hrun : ∃ units, generateAll shopOfStates {} = .ok units := ⟨_, rfl⟩
  obtain ⟨units, hunits⟩ := hrun
  have hnames : ∀ entity ∈ shopOfStates.entities, ∀ member ∈ entity.members,
      ¬IsConstructorName member.name ∧
        ¬IsConstructorName (Wrapper.qualifiedName entity.name member.name) := by
    decide +kernel
  refine ⟨units, hunits, fun unit hunit => ?_⟩
  obtain ⟨hspares, -⟩ := generateAll_wrappers_beside_constructors hunits unit hunit
  refine hspares.mpr fun entity hentity member hmember _ => ?_
  obtain ⟨hplain, hqualified⟩ :=
    hnames entity (EntityGraphs.mem_entitiesIn.mp hentity).1 member hmember
  exact ⟨hplain, fun hconstructor => absurd hconstructor hqualified⟩

/-- The weight of a parcel is converted, and called `long`; that of a box is a number. -/
def shopOfWeights : EntityGraphs where
  graphs :=
    let id := IdField.named "id" NativeType.long.valueType
    [⟨"shop", [
      { Entity.named "shop.Parcel" "parcels" with
        id := some id
        properties := [{ Property.named "long" ⟨"shop", "Weight"⟩ with
          columnName := "weight"
          converter := some ⟨"WeightConverter", NativeType.long.valueType⟩ }] },
      { Entity.named "shop.Box" "boxes" with
        id := some id
        properties := [Property.named "weight" NativeType.long.valueType] }]⟩]
  nodup_keys := by decide
  target_mem := by decide

/-- Both weights are made by the same text, although only one of them is a number. -/
theorem shopOfWeights_wrapper_shadows :
    ∃ units, generateAll shopOfWeights {} = .ok units ∧ ∃ unit ∈ units,
      unit.wrappers.map (·.name) = ["long"] ∧ ∃ column ∈ unit.columns, ∃ other ∈ unit.columns,
        column.recipe.kind = .converted "long" ∧ other.recipe.kind = .long ∧
        ColumnKind.long.constructorName = "long" ∧
        Kotlin.initializer column.recipe = Kotlin.initializer other.recipe :=
  ⟨_, rfl, _, List.mem_cons_self, rfl, _,
    List.mem_cons_of_mem _ List.mem_cons_self, _,
    List.mem_cons_of_mem _ (List.mem_cons_of_mem _ (List.mem_cons_of_mem _ List.mem_cons_self)),
    rfl, rfl, rfl, rfl⟩

end EntityTables
