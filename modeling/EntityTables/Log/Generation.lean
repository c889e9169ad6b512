import EntityTables.Generation
import EntityTables.Log.Emission

/-!
# Events of a generation

What is logged while tables are generated.
-/

namespace EntityTables.Log

/-- What is logged while the tables of one graph are generated. -/
def generateTables (graph : EntityGraph) (graphs : EntityGraphs) (package : String)
    (settings : Settings) : List Event :=
  let run := Run.over graphs settings
  ⟨.info, s!"[ETGEN] Generating tables for graph '{graph.name}' in '{package}' ({graph.entities.length} entities)"⟩ ::
    joinTablesCounted run :: ofGraph run { package } graph

def unitOfPackage (run : Run) (package : String) : List Event :=
  let (unit, failures) := run.emitPackage { package }
  ofPackage run { package } ++
    [⟨.debug, s!"[ETGEN] Namespace '{package}': {unit.declarations.length} declarations, {unit.wrappers.length} wrappers, {failures.length} failed entities"⟩]

def generatePackage (graphs : EntityGraphs) (package : String) (settings : Settings) :
    List Event :=
  let run := Run.over graphs settings
  joinTablesCounted run :: unitOfPackage run package

def generateAll (graphs : EntityGraphs) (settings : Settings) : List Event :=
  let run := Run.over graphs settings
  [ ⟨.info, "[ETGEN] Starting table generation"⟩,
    ⟨.info, s!"[ETGEN] {graphs.graphs.length} graphs, {graphs.entities.length} entities"⟩,
    joinTablesCounted run] ++
    graphs.packages.flatMap (unitOfPackage run) ++
    [match run.units with
      | .ok units => ⟨.info, s!"[ETGEN] Generated {units.length} output units"⟩
      | .error report =>
        ⟨.warn, s!"[ETGEN] Generation failed for {report.failures.length} entities"⟩]

def compile (graphs : EntityGraphs) (settings : Settings) : List Event :=
  ⟨.info, "[ETGEN] Phase 1: Emitting declarations..."⟩ :: generateAll graphs settings ++
    match EntityTables.compile graphs settings with
    | .error _ => []
    | .ok files =>
      let bytes := files.foldr (fun file bytes => file.source.utf8ByteSize + bytes) 0
      [ ⟨.info, "[ETGEN] Phase 2: Rendering sources..."⟩,
        ⟨.info, s!"[ETGEN] Rendering complete ({files.length} files, {bytes} bytes)"⟩]

end EntityTables.Log
