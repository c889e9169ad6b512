import EntityTables.Proofs.Reference.Externals

/-!
# Imports and the names of declarations

A file that refers to a table of another package imports the object of the table, and the file of
that package declares it.  The two files are written apart from each other.  The import always puts
a dot between the package and the object; the other file can be named by others only through its
package clause, and the file of the root package has none.

* `importName_eq_declaredName_iff`: an import gives the name of a declaration unless the package is
  the root package;
* `imports_external`, `declares_object`: where imports and objects stand in the text of a file;
* `Run.exists_tableImport`: every external table of a unit is imported by its file and declared by
  the file of its own package;
* `compile_imports_name_declarations`: what the imports of a run name.
-/

namespace EntityTables

namespace Kotlin

/-- The name that the import of an external table gives. -/
def importName (external : ExternalTable) : String :=
  qualified external.package external.tableObject

/-- The qualified name of an object that the file of a package declares: the package of the clause,
a dot and the name of the object, or only the name in a file without a clause. -/
def declaredName (package objectName : String) : String :=
  if packageClause package = "" then objectName else package ++ "." ++ objectName

/-- The text stands in the file, behind the clause of the package. -/
def SourceFile.Shows (file : SourceFile) (text : String) : Prop :=
  ∃ body, file.source = header ++ packageClause file.package ++ body ∧
    text.toList <:+: body.toList

/-- An import line of the file gives the name. -/
def SourceFile.Imports (file : SourceFile) (name : String) : Prop :=
  file.Shows ("import " ++ name ++ "\n")

/-- The file declares a table object of the name. -/
def SourceFile.Declares (file : SourceFile) (objectName : String) : Prop :=
  file.Shows ("object " ++ objectName ++ " : Table(")

/-! ## Names -/

theorem packageClause_eq_empty_iff {package : String} :
    packageClause package = "" ↔ package = "" := by
  unfold packageClause
  by_cases hroot : package = ""
  · simp [hroot]
  · simp [hroot, String.append_eq_empty_iff]

/-- Nothing but a dot in front tells the import of a root object from its declaration. -/
theorem importName_eq_declaredName_iff {external : ExternalTable} :
    importName external = declaredName external.package external.tableObject ↔
      external.package ≠ "" := by
  rw [importName, declaredName, qualified]
  by_cases hroot : external.package = ""
  · rw [if_pos (packageClause_eq_empty_iff.mpr hroot), String.append_eq_right_iff, hroot]
    simp
  · simp [packageClause_eq_empty_iff, hroot]

/-! ## Texts -/

/-- One of several texts stands in the text that joins them. -/
theorem infix_join {text : String} {texts : List String} (htext : text ∈ texts) :
    text.toList <:+: (String.join texts).toList := by
  rw [String.toList_join, List.flatMap_def]
  exact List.infix_of_mem_flatten (List.mem_map_of_mem htext)

/-- The code of a unit, which stands below its imports. -/
def code (unit : OutputUnit) : String :=
  String.join (unit.declarations.map fun declaration =>
    objectText unit.package declaration ++ "\n") ++
  String.join (unit.wrappers.map fun wrapper => wrapperText unit.package wrapper ++ "\n")

/-- What stands behind the clause of the package in the source of a unit. -/
def body (settings : Settings) (unit : OutputUnit) : String :=
  String.join ((imports settings unit).map fun name => "import " ++ name ++ "\n") ++ "\n" ++
    code unit

theorem source_eq (settings : Settings) (unit : OutputUnit) :
    source settings unit = header ++ packageClause unit.package ++ body settings unit := by
  simp only [source, body, code, String.append_assoc]

theorem shows_of_infix {settings : Settings} {unit : OutputUnit} {text : String}
    (htext : text.toList <:+: (body settings unit).toList) :
    (sourceFile settings unit).Shows text :=
  ⟨body settings unit, source_eq settings unit, htext⟩

theorem shows_import {settings : Settings} {unit : OutputUnit} {name line : String}
    (hname : name ∈ imports settings unit) (hline : line = "import " ++ name ++ "\n") :
    (sourceFile settings unit).Shows line := by
  have hinfix := infix_join
    (List.mem_map_of_mem (f := fun name => "import " ++ name ++ "\n") hname)
  apply shows_of_infix
  rw [body, String.append_assoc, String.toList_append, hline]
  exact hinfix.trans (List.prefix_append _ _).isInfix

theorem shows_object {settings : Settings} {unit : OutputUnit} {declaration : Declaration}
    {text : String} (hdeclaration : declaration ∈ unit.declarations)
    (htext : text.toList <+: (objectText unit.package declaration).toList) :
    (sourceFile settings unit).Shows text := by
  have hobject := infix_join
    (List.mem_map_of_mem (f := fun declaration => objectText unit.package declaration ++ "\n")
      hdeclaration)
  rw [String.toList_append] at hobject
  have hinfix := (htext.trans (List.prefix_append _ _)).isInfix.trans hobject
  apply shows_of_infix
  rw [body, code, ← String.append_assoc, String.toList_append, String.toList_append]
  exact hinfix.trans (List.infix_append _ _ _)

theorem imports_external (settings : Settings) {unit : OutputUnit} {external : ExternalTable}
    (hexternal : external ∈ unit.externals) :
    (sourceFile settings unit).Imports (importName external) := by
  apply shows_import _ rfl
  rw [imports, Ordered.mem_ofList]
  exact List.mem_append_right _ (List.mem_map_of_mem hexternal)

theorem declares_object (settings : Settings) {unit : OutputUnit} {declaration : Declaration}
    (hdeclaration : declaration ∈ unit.declarations) :
    (sourceFile settings unit).Declares declaration.objectName := by
  apply shows_object hdeclaration
  simp only [objectText, String.toList_append, List.append_assoc, List.prefix_append_right_inj]
  exact List.prefix_append _ _

end Kotlin

/-! ## A run -/

/-- The file of a unit imports the table of an entity, and the file of another unit declares it. -/
structure TableImport (settings : Settings) (units : List OutputUnit)
    (unit declaring : OutputUnit) (target : Entity) : Prop where
  /-- The entity belongs to the other package, which has no other file. -/
  package_ne : target.package ≠ unit.package
  declaring_eq : units.filter (·.package = target.package) = [declaring]
  /-- The table is that of the entity. -/
  table : ∃ table ∈ declaring.tables, table.entity = target.key ∧
    table.objectName = settings.tableObject target.name
  declares : (Kotlin.sourceFile settings declaring).Declares (settings.tableObject target.name)
  imports : (Kotlin.sourceFile settings unit).Imports
    (Kotlin.importName (target.external settings))

/-- The table of every entity that a unit records is imported by the unit's file and declared by
that of the entity's package. -/
theorem Run.exists_tableImport {run : Run} {units : List OutputUnit} {unit : OutputUnit}
    (hunits : run.units = .ok units) (hunit : unit ∈ units) {target : Entity}
    (htarget : target ∈ run.graphs.entities)
    (hexternal : target.external run.settings ∈ unit.externals) :
    ∃ declaring, TableImport run.settings units unit declaring target := by
  obtain ⟨declaring, hdeclaring, hpackage, table, htable, hdeclares⟩ :=
    exists_declared hunits htarget
  have hnodup : (units.map (·.package)).Nodup := by
    rw [units_map_package hunits]
    exact run.graphs.packages_nodup
  refine ⟨declaring, ?_, ?_, ⟨table, htable, hdeclares.entity_eq, hdeclares.objectName_eq⟩, ?_,
    Kotlin.imports_external _ hexternal⟩
  · obtain ⟨_, _, _, _, _, other, -, hother, heq⟩ := (mem_externals_iff hunits hunit).mp hexternal
    have hsame : target.package = other.package := congrArg ExternalTable.package heq
    exact hsame ▸ hother
  · rw [← hpackage]
    exact filter_eq_singleton_of_nodup_map hnodup hdeclaring
  · rw [← hdeclares.objectName_eq]
    obtain ⟨declaration, hdeclaration, hobject⟩ := List.mem_filterMap.mp htable
    cases declaration with
    | joinTable other => contradiction
    | table other =>
        obtain rfl := Option.some.inj hobject
        have hshown := Kotlin.declares_object run.settings hdeclaration
        exact hshown

/-- Every external table of a unit is that of an entity of another package.  The unit's file imports
it and the file of that package declares its object, and the import gives the qualified name of the
object if and only if the entity is not in the root package. -/
theorem compile_imports_name_declarations {graphs : EntityGraphs} {settings : Settings}
    {files : List Kotlin.SourceFile} (hfiles : compile graphs settings = .ok files) :
    ∃ units, generateAll graphs settings = .ok units ∧
      files = units.map (Kotlin.sourceFile settings) ∧
      ∀ unit ∈ units, ∀ external ∈ unit.externals,
        (∃ target ∈ graphs.entities, external = target.external settings) ∧
        ∀ target ∈ graphs.entities, external = target.external settings →
          ∃ declaring, TableImport settings units unit declaring target ∧
            (Kotlin.importName external =
                Kotlin.declaredName declaring.package external.tableObject ↔
              target.package ≠ "") := by
  obtain ⟨units, hunits, rfl⟩ := map_eq_ok_iff.mp hfiles
  have hrun : (Run.over graphs settings).units = .ok units := hunits
  refine ⟨units, hunits, rfl, ?_⟩
  intro unit hunit external hexternal
  constructor
  · obtain ⟨_, _, _, _, _, target, htarget, -, heq⟩ :=
      (Run.mem_externals_iff hrun hunit).mp hexternal
    exact ⟨target, (EntityGraphs.entity?_eq_some_iff.mp htarget).1, heq⟩
  · rintro target htarget rfl
    obtain ⟨declaring, himport⟩ := Run.exists_tableImport hrun hunit htarget hexternal
    have hdeclaring : declaring ∈ units.filter (·.package = target.package) := by
      rw [himport.declaring_eq]
      exact List.mem_singleton_self _
    have hpackage : declaring.package = target.package :=
      of_decide_eq_true (List.mem_filter.mp hdeclaring).2
    refine ⟨declaring, himport, ?_⟩
    rw [hpackage]
    exact Kotlin.importName_eq_declaredName_iff

/-- Orders that refer to a customer of the root package and to an agent of a package of its own. -/
def shopOfGuests : EntityGraphs where
  graphs :=
    let id := IdField.named "id" NativeType.long.valueType
    let toOne (name : String) (target : EntityKey) : Association :=
      ⟨name, target, .manyToOne, id, none, true, none, none⟩
    [⟨"sales", [
      { Entity.named "shop.Order" "orders" with
        id := some id, associations := [toOne "customer" "Customer", toOne "agent" "crm.Agent"] },
      { Entity.named "Customer" "customers" with id := some id },
      { Entity.named "crm.Agent" "agents" with id := some id }]⟩]
  nodup_keys := by decide
  target_mem := by decide

/-- The customers are declared without a package clause, and imported with a dot in front. -/
theorem shopOfGuests_import_unnamed :
    ∃ units, generateAll shopOfGuests {} = .ok units ∧
      compile shopOfGuests {} = .ok (units.map (Kotlin.sourceFile {})) ∧
      ∃ unit ∈ units, ∃ declaring ∈ units, ∃ external ∈ unit.externals,
        unit.package = "shop" ∧ declaring.package = "" ∧ external = ⟨"", "CustomerTable"⟩ ∧
        (Kotlin.sourceFile {} unit).Imports ".CustomerTable" ∧
        (Kotlin.sourceFile {} declaring).Declares "CustomerTable" ∧
        Kotlin.importName external = ".CustomerTable" ∧
        Kotlin.declaredName declaring.package external.tableObject = "CustomerTable" := by
  have hrun : ∃ units, generateAll shopOfGuests {} = .ok units ∧
      ∃ unit ∈ units, unit.package = "shop" ∧ ⟨"", "CustomerTable"⟩ ∈ unit.externals ∧
      ∃ declaring ∈ units, declaring.package = "" ∧
        ∃ declaration ∈ declaring.declarations, declaration.objectName = "CustomerTable" :=
    ⟨_, rfl, _, List.mem_cons_self, rfl, List.mem_cons_self, _,
      List.mem_cons_of_mem _ List.mem_cons_self, rfl, _, List.mem_cons_self, rfl⟩
  obtain ⟨units, hunits, unit, hunit, hpackage, hexternal, declaring, hdeclaring, hroot,
    declaration, hdeclaration, hobject⟩ := hrun
  have himports := Kotlin.imports_external {} hexternal
  have hdeclares := Kotlin.declares_object {} hdeclaration
  rw [hobject] at hdeclares
  refine ⟨units, hunits, by rw [compile, hunits]; rfl, unit, hunit, declaring, hdeclaring, _,
    hexternal, hpackage, hroot, rfl, himports, hdeclares, rfl, ?_⟩
  rw [hroot]
  rfl

/-- The agents are imported under the name by which they are declared. -/
theorem shopOfGuests_import_named :
    ∃ files units, compile shopOfGuests {} = .ok files ∧
      generateAll shopOfGuests {} = .ok units ∧ files = units.map (Kotlin.sourceFile {}) ∧
      ∃ unit ∈ units, ∃ target ∈ shopOfGuests.entities, ∃ declaring,
        target.external {} = ⟨"crm", "AgentTable"⟩ ∧ TableImport {} units unit declaring target ∧
        Kotlin.importName ⟨"crm", "AgentTable"⟩ =
          Kotlin.declaredName declaring.package "AgentTable" := by
  have hrun : ∃ units, generateAll shopOfGuests {} = .ok units ∧
      ∃ unit ∈ units, ⟨"crm", "AgentTable"⟩ ∈ unit.externals :=
    ⟨_, rfl, _, List.mem_cons_self, List.mem_cons_of_mem _ List.mem_cons_self⟩
  obtain ⟨units, hunits, unit, hunit, hexternal⟩ := hrun
  have hfiles : compile shopOfGuests {} = .ok (units.map (Kotlin.sourceFile {})) := by
    rw [compile, hunits]
    rfl
  obtain ⟨others, hothers, -, himports⟩ := compile_imports_name_declarations hfiles
  obtain rfl := Except.ok.inj (hunits.symm.trans hothers)
  obtain ⟨⟨target, htarget, hsame⟩, hdeclared⟩ := himports unit hunit _ hexternal
  obtain ⟨declaring, himport, hname⟩ := hdeclared target htarget hsame
  have hpackage : target.package = "crm" := (congrArg ExternalTable.package hsame).symm
  exact ⟨_, units, hfiles, hunits, rfl, unit, hunit, target, htarget, declaring, hsame.symm,
    himport, hname.mpr (by rw [hpackage]; decide)⟩

end EntityTables
