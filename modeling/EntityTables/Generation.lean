import EntityTables.Emission
import EntityTables.Kotlin.Source

/-!
# Generating tables

The tables of one graph, of one package or of all packages.  Every entity is attempted: a run
either yields all its units or reports all entities that failed.
-/

namespace EntityTables

namespace Run

def unitOfGraph (run : Run) (graph : EntityGraph) (package : String) : Except Report OutputUnit :=
  let (unit, failures) := run.emitGraph { package } graph
  (Report.mk failures).toExcept unit

def unitOfPackage (run : Run) (package : String) : Except Report OutputUnit :=
  let (unit, failures) := run.emitPackage { package }
  (Report.mk failures).toExcept unit

/-- The units of all packages, in the order in which the packages are first seen. -/
def units (run : Run) : Except Report (List OutputUnit) :=
  let results := run.graphs.packages.map run.unitOfPackage
  let report := (results.filterMap errorOf?).foldl Report.append {}
  report.toExcept (results.filterMap Except.toOption)

end Run

/-- The tables of one graph in a package.  The graph need not be one of `graphs`, in which the
targets of its associations are looked up. -/
def generateTables (graph : EntityGraph) (graphs : EntityGraphs) (package : String)
    (settings : Settings) : Except Report OutputUnit :=
  (Run.over graphs settings).unitOfGraph graph package

def generatePackage (graphs : EntityGraphs) (package : String) (settings : Settings) :
    Except Report OutputUnit :=
  (Run.over graphs settings).unitOfPackage package

def generateAll (graphs : EntityGraphs) (settings : Settings) : Except Report (List OutputUnit) :=
  (Run.over graphs settings).units

def compile (graphs : EntityGraphs) (settings : Settings) :
    Except Report (List Kotlin.SourceFile) :=
  (·.map (Kotlin.sourceFile settings)) <$> generateAll graphs settings

end EntityTables
