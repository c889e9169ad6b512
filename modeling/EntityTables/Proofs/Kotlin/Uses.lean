import EntityTables.Proofs.Kotlin.Imports
import EntityTables.Proofs.Reference.Identity
import EntityTables.Proofs.Wrapper.Constructors

/-!
# What a file imports and what it uses

The imports of a file are collected from three places: the columns, the wrappers and the external
tables of its unit.  The code below them is written from the columns and wrappers alone.  `Uses`
says what the columns of a unit use from other packages, without the other two places.  The imports
are the same names, because three things hold in every unit of a run.

* It has a table, so columns and tables are used at all (`Run.isEmpty_eq_false`).
* Its wrappers are those that its columns call (`Run.mem_wrappers_iff_called`).
* Its external tables are those that its columns refer to (`Run.mem_externals_iff_refersTo`), and
  the references of these columns name them (`OutputUnit.RefersTo.references_eq`).

A use is a name and not an occurrence: what several columns use is imported once, and so are two
things of the same name.

* `mem_imports_iff`: what is imported, place by place;
* `Run.mem_imports_iff_uses`: what is imported is what is used;
* `imports_are_uses`: the imports in the source of every unit of a run.
-/

namespace EntityTables

namespace Kotlin

/-- What a unit of a run uses from other packages, by the columns that use it.  The file is written
with settings of its own. -/
inductive Uses (graphs : EntityGraphs) (settings written : Settings) (unit : OutputUnit) :
    String → Prop
  | column : Uses graphs settings written unit (qualified written.dslPackage "Column")
  | table : Uses graphs settings written unit (qualified written.dslPackage "Table")
  | dateTime {column : ColumnSpec} (hcolumn : column ∈ unit.columns)
      (hkind : column.recipe.kind = .dateTime) :
      Uses graphs settings written unit (qualified written.dslPackage "datetime")
  | localDateTime {column : ColumnSpec} (hcolumn : column ∈ unit.columns)
      (hkind : column.recipe.kind = .localDateTime) :
      Uses graphs settings written unit (qualified written.runtimePackage "localDateTime")
  | zonedDateTime {column : ColumnSpec} (hcolumn : column ∈ unit.columns)
      (hkind : column.recipe.kind = .zonedDateTime) :
      Uses graphs settings written unit (qualified written.runtimePackage "zonedDateTime")
  /-- A column calls a wrapper that stores texts. -/
  | stringWrapper {column : ColumnSpec} {name : String} {wrapper : Wrapper}
      (hcolumn : column ∈ unit.columns) (hkind : column.recipe.kind = .converted name)
      (hwrapper : unit.wrapper? name = some wrapper) (hcarrier : wrapper.carrier = .string) :
      Uses graphs settings written unit (qualified written.runtimePackage "stringWrapper")
  /-- A column calls a wrapper that stores whole numbers. -/
  | longWrapper {column : ColumnSpec} {name : String} {wrapper : Wrapper}
      (hcolumn : column ∈ unit.columns) (hkind : column.recipe.kind = .converted name)
      (hwrapper : unit.wrapper? name = some wrapper) (hcarrier : wrapper.carrier = .long) :
      Uses graphs settings written unit (qualified written.runtimePackage "longWrapper")
  /-- A column refers to an entity of another package, and its reference names the object of that
  entity's table. -/
  | external {column : ColumnSpec} {target : Entity} {ref : ColumnRef}
      (hcolumn : column ∈ unit.columns) (hreferences : column.recipe.references = some ref)
      (hobject : ref.tableObject = settings.tableObject target.name)
      (hrefers : unit.RefersTo graphs settings column target)
      (hpackage : target.package ≠ unit.package) :
      Uses graphs settings written unit
        (qualified target.package (settings.tableObject target.name))

variable {written : Settings} {unit : OutputUnit} {name : String}

/-! ## Where imports come from -/

theorem ascending_imports (written : Settings) (unit : OutputUnit) :
    Ordered.Ascending (imports written unit) :=
  Ordered.ascending_insertAll List.Pairwise.nil

/-- Columns of three kinds are made by functions that have to be imported. -/
theorem columnImport?_eq_some_iff {column : ColumnSpec} :
    columnImport? written column = some name ↔
      column.recipe.kind = .dateTime ∧ name = qualified written.dslPackage "datetime" ∨
      column.recipe.kind = .localDateTime ∧
        name = qualified written.runtimePackage "localDateTime" ∨
      column.recipe.kind = .zonedDateTime ∧
        name = qualified written.runtimePackage "zonedDateTime" := by
  unfold columnImport?
  cases column.recipe.kind <;> simp [eq_comm]

theorem mem_imports_iff :
    name ∈ imports written unit ↔
      unit.isEmpty = false ∧ (name = qualified written.dslPackage "Column" ∨
        name = qualified written.dslPackage "Table") ∨
      (∃ column ∈ unit.columns, columnImport? written column = some name) ∨
      (∃ wrapper ∈ unit.wrappers,
        name = qualified written.runtimePackage wrapper.carrier.functionName) ∨
      ∃ external ∈ unit.externals, name = importName external := by
  rw [imports, Ordered.mem_ofList]
  simp only [List.mem_append, List.mem_filterMap, List.mem_map, or_assoc, importName,
    eq_comm (b := name)]
  cases unit.isEmpty <;> simp

end Kotlin

/-! ## A run -/

namespace Run

variable {run : Run} {units : List OutputUnit} {unit : OutputUnit} {written : Settings}
  {name : String}

/-- Every unit has the table of an entity. -/
theorem isEmpty_eq_false (hunits : run.units = .ok units) (hunit : unit ∈ units) :
    unit.isEmpty = false := by
  have hpackage : unit.package ∈ run.graphs.packages := by
    rw [← units_map_package hunits]
    exact List.mem_map_of_mem hunit
  obtain ⟨entity, hentity, hplace⟩ := EntityGraphs.mem_packages.mp hpackage
  obtain ⟨other, hother, hsame, table, htable, -⟩ := exists_declared hunits hentity
  obtain rfl := eq_of_package_eq hunits hother hunit (hsame.trans hplace)
  obtain ⟨declaration, hdeclaration, -⟩ := List.mem_filterMap.mp htable
  have hdeclarations : other.declarations ≠ [] := List.ne_nil_of_mem hdeclaration
  simp [OutputUnit.isEmpty, hdeclarations]

/-- The wrappers of a unit are those that its columns call. -/
theorem mem_wrappers_iff_called (hunits : run.units = .ok units) (hunit : unit ∈ units)
    {wrapper : Wrapper} :
    wrapper ∈ unit.wrappers ↔ ∃ column ∈ unit.columns, ∃ name,
      column.recipe.kind = .converted name ∧ unit.wrapper? name = some wrapper := by
  constructor
  · intro hwrapper
    have hwell := wellWrapped_of_unit (unitOfPackage_of_mem hunits hunit)
    obtain ⟨column, hcolumn, hkind⟩ := hwell.called wrapper hwrapper
    refine ⟨column, hcolumn, wrapper.name, hkind, ?_⟩
    -- no other wrapper has the name, so that the first of the name is this one
    rw [OutputUnit.wrapper?, ← List.head?_filter,
      filter_eq_singleton_of_nodup_map hwell.nodup hwrapper]
    rfl
  · rintro ⟨column, -, name, -, hwrapper⟩
    exact List.mem_of_find?_eq_some hwrapper

/-- What the file of a unit imports is what the columns of the unit use. -/
theorem mem_imports_iff_uses (hunits : run.units = .ok units) (hunit : unit ∈ units) :
    name ∈ Kotlin.imports written unit ↔
      Kotlin.Uses run.graphs run.settings written unit name := by
  rw [Kotlin.mem_imports_iff]
  constructor
  · rintro (⟨-, rfl | rfl⟩ | ⟨column, hcolumn, himport⟩ | ⟨wrapper, hwrapper, rfl⟩ |
      ⟨external, hexternal, rfl⟩)
    · exact .column
    · exact .table
    · rcases Kotlin.columnImport?_eq_some_iff.mp himport with
        ⟨hkind, rfl⟩ | ⟨hkind, rfl⟩ | ⟨hkind, rfl⟩
      · exact .dateTime hcolumn hkind
      · exact .localDateTime hcolumn hkind
      · exact .zonedDateTime hcolumn hkind
    · obtain ⟨column, hcolumn, _, hkind, hfound⟩ :=
        (mem_wrappers_iff_called hunits hunit).mp hwrapper
      cases hcarrier : wrapper.carrier with
      | string => exact .stringWrapper hcolumn hkind hfound hcarrier
      | long => exact .longWrapper hcolumn hkind hfound hcarrier
    · obtain ⟨target, ⟨column, hrefers⟩, hpackage, rfl⟩ :=
        (mem_externals_iff_refersTo hunits hunit).mp hexternal
      obtain ⟨_, -, hreferences⟩ := hrefers.references_eq hunits hunit
      exact .external (hrefers.mem_columns hunits hunit) hreferences rfl hrefers hpackage
  · intro huses
    cases huses with
    | column => exact .inl ⟨isEmpty_eq_false hunits hunit, .inl rfl⟩
    | table => exact .inl ⟨isEmpty_eq_false hunits hunit, .inr rfl⟩
    | dateTime hcolumn hkind =>
        exact .inr (.inl ⟨_, hcolumn, Kotlin.columnImport?_eq_some_iff.mpr (.inl ⟨hkind, rfl⟩)⟩)
    | localDateTime hcolumn hkind =>
        exact .inr (.inl ⟨_, hcolumn,
          Kotlin.columnImport?_eq_some_iff.mpr (.inr (.inl ⟨hkind, rfl⟩))⟩)
    | zonedDateTime hcolumn hkind =>
        exact .inr (.inl ⟨_, hcolumn,
          Kotlin.columnImport?_eq_some_iff.mpr (.inr (.inr ⟨hkind, rfl⟩))⟩)
    | stringWrapper hcolumn hkind hfound hcarrier =>
        have hwrapper :=
          (mem_wrappers_iff_called hunits hunit).mpr ⟨_, hcolumn, _, hkind, hfound⟩
        exact .inr (.inr (.inl ⟨_, hwrapper, by rw [hcarrier]; rfl⟩))
    | longWrapper hcolumn hkind hfound hcarrier =>
        have hwrapper :=
          (mem_wrappers_iff_called hunits hunit).mpr ⟨_, hcolumn, _, hkind, hfound⟩
        exact .inr (.inr (.inl ⟨_, hwrapper, by rw [hcarrier]; rfl⟩))
    | external _ _ _ hrefers hpackage =>
        have hexternal := (mem_externals_iff_refersTo hunits hunit).mpr
          ⟨_, ⟨_, hrefers⟩, hpackage, rfl⟩
        exact .inr (.inr (.inr ⟨_, hexternal, rfl⟩))

end Run

/-- In the source of every unit of a run, whatever the settings are that it is written with, the
imports stand in strictly ascending order between the clause of the package and the code, and they
are what the columns of the unit use. -/
theorem imports_are_uses {graphs : EntityGraphs} {settings : Settings} {units : List OutputUnit}
    (hunits : generateAll graphs settings = .ok units) (written : Settings) :
    ∀ unit ∈ units,
      Kotlin.source written unit = Kotlin.header ++ Kotlin.packageClause unit.package ++
        String.join ((Kotlin.imports written unit).map fun name => "import " ++ name ++ "\n") ++
        "\n" ++ Kotlin.code unit ∧
      Ordered.Ascending (Kotlin.imports written unit) ∧
      ∀ name, name ∈ Kotlin.imports written unit ↔
        Kotlin.Uses graphs settings written unit name := by
  have hrun : (Run.over graphs settings).units = .ok units := hunits
  intro unit hunit
  refine ⟨?_, Kotlin.ascending_imports written unit, fun _ => Run.mem_imports_iff_uses hrun hunit⟩
  simp only [Kotlin.source_eq, Kotlin.body, String.append_assoc]

/-- Orders with a date and a converted state, and a foreign key to an agent of another package. -/
def shopOfDates : EntityGraphs where
  graphs :=
    let id := IdField.named "id" NativeType.long.valueType
    [⟨"sales", [
      { Entity.named "shop.Order" "orders" with
        id := some id
        properties := [
          Property.named "placed" NativeType.dateTime.valueType,
          { Property.named "status" ⟨"shop", "Status"⟩ with
            converter := some ⟨"StatusNames", NativeType.string.valueType⟩ }]
        associations := [⟨"agent", "crm.Agent", .manyToOne, id, none, true, none, none⟩] },
      { Entity.named "crm.Agent" "agents" with id := some id }]⟩]
  nodup_keys := by decide
  target_mem := by decide

/-- The date, the state and the agent each need an import. -/
theorem shopOfDates_imports :
    ∃ units, generateAll shopOfDates {} = .ok units ∧ ∃ unit ∈ units,
      Kotlin.imports {} unit = ["crm.AgentTable", "org.jetbrains.exposed.sql.Column",
        "org.jetbrains.exposed.sql.Table", "org.jetbrains.exposed.sql.datetime",
        "pl.touk.exposed.stringWrapper"] ∧
      Ordered.Ascending (Kotlin.imports {} unit) ∧
      ∀ name, name ∈ Kotlin.imports {} unit ↔ Kotlin.Uses shopOfDates {} {} unit name := by
  have hrun : ∃ units, generateAll shopOfDates {} = .ok units ∧ ∃ unit ∈ units,
      Kotlin.imports {} unit = ["crm.AgentTable", "org.jetbrains.exposed.sql.Column",
        "org.jetbrains.exposed.sql.Table", "org.jetbrains.exposed.sql.datetime",
        "pl.touk.exposed.stringWrapper"] :=
    ⟨_, rfl, _, List.mem_cons_self, by decide +kernel⟩
  obtain ⟨units, hunits, unit, hunit, himports⟩ := hrun
  obtain ⟨-, hascending, huses⟩ := imports_are_uses hunits {} unit hunit
  exact ⟨units, hunits, unit, hunit, himports, hascending, huses⟩

end EntityTables
