import EntityTables.Proofs.Emission.Agreement
import EntityTables.Proofs.Emission.Isolation
import EntityTables.Proofs.JoinTable.Ownership
import EntityTables.Proofs.Model.Validation

/-!
# Appending graphs

Graphs that are appended to others add entities, declarations of join tables and wrappers.  None of
them changes what the earlier entities emit: their targets are found as before, their join tables
have the same owners, because the first declaration of a table stays the first, and the names of
their wrappers are chosen before those of later entities.

* `entity?_append`: an entity that was found is still found;
* `lookup_joinDeclarations_append`: a declared join table keeps its owner;
* `agreesOn_append`: the runs agree about all earlier entities;
* `emitPackage_append`: the later entities of a package are emitted behind the earlier ones;
* `generatePackage_append`: the unit of a package grows, or its report does.
-/

namespace EntityTables
namespace EntityGraphs

variable {graphs extended : EntityGraphs} {later : List EntityGraph} {entity : Entity}
  {association : Association} {key : EntityKey}

/-! ## Entities -/

theorem entities_append (hgraphs : extended.graphs = graphs.graphs ++ later) :
    extended.entities = graphs.entities ++ entitiesOf later := by
  simp only [entities, entitiesOf, hgraphs, List.flatMap_append]

theorem entitiesIn_append (hgraphs : extended.graphs = graphs.graphs ++ later) (package : String) :
    extended.entitiesIn package =
      graphs.entitiesIn package ++ (entitiesOf later).filter (·.package = package) := by
  rw [entitiesIn, entities_append hgraphs, List.filter_append, entitiesIn]

/-- An entity that was found among the earlier graphs is still found. -/
theorem entity?_append (hgraphs : extended.graphs = graphs.graphs ++ later)
    (hfound : graphs.entity? key = some entity) : extended.entity? key = some entity := by
  obtain ⟨hmem, hkey⟩ := entity?_eq_some_iff.mp hfound
  apply entity?_eq_some_iff.mpr
  rw [entities_append hgraphs]
  exact ⟨List.mem_append_left _ hmem, hkey⟩

theorem target_append (hgraphs : extended.graphs = graphs.graphs ++ later)
    (hentity : entity ∈ graphs.entities) (hassociation : association ∈ entity.associations) :
    extended.entity? association.target = graphs.entity? association.target := by
  obtain ⟨target, -, htarget⟩ := exists_target hentity hassociation
  rw [htarget, entity?_append hgraphs htarget]

/-! ## Join tables -/

theorem joinDeclarationsOf_append (hgraphs : extended.graphs = graphs.graphs ++ later)
    (hentity : entity ∈ graphs.entities) :
    extended.joinDeclarationsOf entity = graphs.joinDeclarationsOf entity := by
  unfold joinDeclarationsOf
  apply List.filterMap_congr
  intro association hassociation
  rw [target_append hgraphs hentity (List.mem_filter.mp hassociation).1]

/-- The later declarations come behind the earlier ones. -/
theorem joinDeclarations_append (hgraphs : extended.graphs = graphs.graphs ++ later) :
    extended.joinDeclarations =
      graphs.joinDeclarations ++ (entitiesOf later).flatMap extended.joinDeclarationsOf := by
  have hearlier : graphs.entities.flatMap extended.joinDeclarationsOf =
      graphs.entities.flatMap graphs.joinDeclarationsOf := by
    apply List.flatMap_congr
    intro entity hentity
    exact joinDeclarationsOf_append hgraphs hentity
  rw [joinDeclarations, entities_append hgraphs, List.flatMap_append, hearlier, joinDeclarations]

/-- The owner of a join table that is declared among the earlier graphs stays the same. -/
theorem lookup_joinDeclarations_append (hgraphs : extended.graphs = graphs.graphs ++ later)
    (hentity : entity ∈ graphs.entities) (hassociation : association ∈ entity.associations)
    (hkind : association.kind = .manyToMany) {joinKey : JoinKey}
    (hkey : graphs.joinKey? entity association = some joinKey) :
    extended.joinDeclarations.lookup joinKey = graphs.joinDeclarations.lookup joinKey := by
  obtain ⟨declared, first, firstAssociation, hdeclared, hfirst⟩ :=
    exists_firstDeclaration hentity hassociation hkind
  obtain rfl : declared = joinKey := Option.some.inj (hdeclared.symm.trans hkey)
  have howner : graphs.joinDeclarations.lookup declared =
      some ⟨first.key, firstAssociation.name⟩ := by
    rw [lookup_joinDeclarations, hfirst, Option.map_some]
  rw [joinDeclarations_append hgraphs, List.lookup_append, howner, Option.some_or]

end EntityGraphs

namespace Run

variable {run extended : Run} {later : List EntityGraph} {entity : Entity}
  {association : Association}

/-! ## Runs -/

theorem emitPackage_eq (run : Run) (unit : OutputUnit) :
    run.emitPackage unit = run.emitAll unit (run.graphs.entitiesIn unit.package) := by
  rw [emitPackage, EntityGraphs.entriesIn_map_snd]

theorem unitOfPackage_eq (run : Run) (package : String) :
    run.unitOfPackage package =
      (Report.mk (run.emitPackage { package }).2).toExcept (run.emitPackage { package }).1 := rfl

/-- An association of an earlier entity contributes what it did before. -/
theorem contribution_append (hgraphs : extended.graphs.graphs = run.graphs.graphs ++ later)
    (hsettings : extended.settings = run.settings) (hentity : entity ∈ run.graphs.entities)
    (hassociation : association ∈ entity.associations) :
    extended.contribution entity association = run.contribution entity association := by
  obtain ⟨target, -, htarget⟩ := EntityGraphs.exists_target hentity hassociation
  rw [contribution_of_target htarget,
    contribution_of_target (EntityGraphs.entity?_append hgraphs htarget), hsettings]
  by_cases howns : association.ownsForeignKey
  · rw [if_pos howns, if_pos howns]
  · by_cases hkind : association.kind = .manyToMany
    · rw [if_neg howns, if_neg howns, if_pos hkind, if_pos hkind]
      cases htable : joinTableOf run.settings entity association target with
      | error error => rfl
      | ok table =>
          have hkey := EntityGraphs.joinKey?_of_built htarget htable
          have howner := EntityGraphs.lookup_joinDeclarations_append hgraphs hentity hassociation
            hkind hkey
          simp only [Except.map, ownsJoinTable, extended.joinDeclarations_eq,
            run.joinDeclarations_eq, howner]
    · rw [if_neg howns, if_neg howns, if_neg hkind, if_neg hkind]

theorem agreesOn_append (hgraphs : extended.graphs.graphs = run.graphs.graphs ++ later)
    (hsettings : extended.settings = run.settings) (hentity : entity ∈ run.graphs.entities) :
    extended.AgreesOn run entity where
  settings_eq := hsettings
  target_eq _ hassociation := EntityGraphs.target_append hgraphs hentity hassociation
  contribution_eq _ hassociation := contribution_append hgraphs hsettings hentity hassociation

/-- A package of extended graphs is emitted as before, and then its later entities. -/
theorem emitPackage_append (hgraphs : extended.graphs.graphs = run.graphs.graphs ++ later)
    (hsettings : extended.settings = run.settings) (package : String) :
    let added := extended.emitAll (run.emitPackage { package }).1
      ((entitiesOf later).filter (·.package = package))
    extended.emitPackage { package } = (added.1, (run.emitPackage { package }).2 ++ added.2) := by
  have hearlier : extended.emitAll { package } (run.graphs.entitiesIn package) =
      run.emitAll { package } (run.graphs.entitiesIn package) := by
    apply emitAll_congr
    intro entity hentity
    exact agreesOn_append hgraphs hsettings (EntityGraphs.mem_entitiesIn.mp hentity).1
  rw [emitPackage_eq, emitPackage_eq, EntityGraphs.entitiesIn_append hgraphs, emitAll_append,
    hearlier]

end Run

/-! ## A package -/

/-- What becomes of a package when graphs are appended to others: a unit keeps everything it has,
the result is the same if no later entity is of the package, and a report keeps its failures. -/
theorem generatePackage_append {first second : List EntityGraph} {graphs extended : EntityGraphs}
    (hgraphs : EntityGraphs.ofList first = .ok graphs)
    (hextended : EntityGraphs.ofList (first ++ second) = .ok extended) (settings : Settings)
    (package : String) :
    (∀ unit other, generatePackage graphs package settings = .ok unit →
        generatePackage extended package settings = .ok other → unit.Extends other) ∧
      ((∀ entity ∈ entitiesOf second, entity.package ≠ package) →
        generatePackage extended package settings = generatePackage graphs package settings) ∧
      ∀ report, generatePackage graphs package settings = .error report →
        ∃ other, generatePackage extended package settings = .error other ∧
          report.failures <+: other.failures := by
  let run := Run.over graphs settings
  let extendedRun := Run.over extended settings
  let later := (entitiesOf second).filter (·.package = package)
  let added := extendedRun.emitAll (run.emitPackage { package }).1 later
  have happend : extendedRun.graphs.graphs = run.graphs.graphs ++ second :=
    (EntityGraphs.graphs_of_ofList hextended).trans
      (congrArg (· ++ second) (EntityGraphs.graphs_of_ofList hgraphs).symm)
  have hsettings : extendedRun.settings = run.settings := rfl
  have hadded : extendedRun.emitPackage { package } =
      (added.1, (run.emitPackage { package }).2 ++ added.2) :=
    Run.emitPackage_append happend hsettings package
  rw [generatePackage, generatePackage, Run.unitOfPackage_eq, Run.unitOfPackage_eq, hadded]
  refine ⟨?_, ?_, ?_⟩
  · intro unit other hunit hfinal
    obtain ⟨-, rfl⟩ := Report.toExcept_eq_ok_iff.mp hunit
    obtain ⟨-, rfl⟩ := Report.toExcept_eq_ok_iff.mp hfinal
    exact Run.extends_emitAll _ _ _
  · intro hnone
    have hlater : later = [] := by
      apply List.filter_eq_nil_iff.mpr
      intro entity hentity
      simpa using hnone entity hentity
    have hnothing : added = ((run.emitPackage { package }).1, []) := by
      simp only [added, hlater, Run.emitAll]
    rw [hnothing, List.append_nil]
  · intro report herror
    obtain ⟨hfailures, rfl⟩ := Report.toExcept_eq_error_iff.mp herror
    refine ⟨_, Report.toExcept_eq_error_iff.mpr ⟨?_, rfl⟩, List.prefix_append _ _⟩
    exact List.append_ne_nil_of_left_ne_nil hfailures _

/-- Orders with tags of another package, and a shelf that fails. -/
def graphsOfOrders : List EntityGraph :=
  let id := IdField.named "id" NativeType.long.valueType
  let orderId : IdField := { IdField.named "id" ⟨"shop", "OrderId"⟩ with
    converter := some ⟨"OrderIdConverter", NativeType.long.valueType⟩ }
  let tags : Association := ⟨"tags", "base.Tag", .manyToMany, id, none, true, none, none⟩
  [⟨"orders", [
    { Entity.named "shop.Order" "orders" with id := some orderId, associations := [tags] },
    { Entity.named "base.Tag" "tags" with id := some id },
    { Entity.named "stock.Shelf" "shelves" with
      properties := [.named "size" ⟨"stock", "Size"⟩] }]⟩]

/-- Refunds, which refer to tags and orders and have converted ids of the same name as those of
orders, and a box that fails. -/
def graphsOfRefunds : List EntityGraph :=
  let id := IdField.named "id" NativeType.long.valueType
  let refundId : IdField := { IdField.named "id" ⟨"shop", "RefundId"⟩ with
    converter := some ⟨"RefundIdConverter", NativeType.long.valueType⟩ }
  let tags : Association := ⟨"tags", "base.Tag", .manyToMany, id, none, true, none, none⟩
  let order : Association := ⟨"order", "shop.Order", .manyToOne, id, none, true, none, none⟩
  [⟨"refunds", [
    { Entity.named "shop.Refund" "refunds" with
      id := some refundId, associations := [order, tags] },
    { Entity.named "stock.Box" "boxes" with
      properties := [.named "size" ⟨"stock", "Size"⟩] }]⟩]

/-- The package of orders grows by a wrapper with a name of its own, the package of tags stays as
it is, and the package with failures reports one more. -/
theorem graphsOfOrders_append :
    ∃ graphs extended, EntityGraphs.ofList graphsOfOrders = .ok graphs ∧
      EntityGraphs.ofList (graphsOfOrders ++ graphsOfRefunds) = .ok extended ∧
      (∃ unit other, generatePackage graphs "shop" {} = .ok unit ∧
        generatePackage extended "shop" {} = .ok other ∧
        unit.wrappers.map (·.name) = ["id"] ∧ other.wrappers.map (·.name) = ["id", "refundId"] ∧
        unit.Extends other) ∧
      generatePackage extended "base" {} = generatePackage graphs "base" {} ∧
      ∃ report other, generatePackage graphs "stock" {} = .error report ∧
        generatePackage extended "stock" {} = .error other ∧
        report.failures.map (·.entity) = ["Shelf"] ∧ report.failures <+: other.failures := by
  have hrun : ∃ graphs extended, EntityGraphs.ofList graphsOfOrders = .ok graphs ∧
      EntityGraphs.ofList (graphsOfOrders ++ graphsOfRefunds) = .ok extended ∧
      (∃ unit other, generatePackage graphs "shop" {} = .ok unit ∧
        generatePackage extended "shop" {} = .ok other ∧
        unit.wrappers.map (·.name) = ["id"] ∧ other.wrappers.map (·.name) = ["id", "refundId"]) ∧
      ∃ report, generatePackage graphs "stock" {} = .error report ∧
        report.failures.map (·.entity) = ["Shelf"] :=
    ⟨_, _, rfl, rfl, ⟨_, _, rfl, rfl, rfl, rfl⟩, _, rfl, rfl⟩
  obtain ⟨graphs, extended, hgraphs, hextended, ⟨unit, other, hunit, hother, hnames, hothers⟩,
    report, hreport, hfailures⟩ := hrun
  obtain ⟨hgrows, -, -⟩ := generatePackage_append hgraphs hextended {} "shop"
  obtain ⟨-, hsame, -⟩ := generatePackage_append hgraphs hextended {} "base"
  obtain ⟨-, -, hreports⟩ := generatePackage_append hgraphs hextended {} "stock"
  obtain ⟨otherReport, hotherReport, hprefix⟩ := hreports report hreport
  exact ⟨graphs, extended, hgraphs, hextended,
    ⟨unit, other, hunit, hother, hnames, hothers, hgrows unit other hunit hother⟩,
    hsame (by decide), report, otherReport, hreport, hotherReport, hfailures, hprefix⟩

end EntityTables
