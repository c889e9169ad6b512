import EntityTables.Proofs.Generation.Units

/-!
# The paths of source files

A run writes one file for each package, all under the same file name, so that only the directories
keep them apart.  The directories of a package are its name with slashes for dots, and a slash
behind it; the file of the root package has no directory.  A package without slashes can be read
back from its directories.

* `packageOfDirectory_directory`: the package of a directory;
* `relativePath_inj`: files of one name and of different packages have different paths;
* `compile_paths_nodup`: the files of a run.
-/

namespace EntityTables

namespace Kotlin

/-- The directories of a package's file, each with a slash behind it. -/
def directory (package : String) : String :=
  if package = "" then "" else package.map (fun c => if c = '.' then '/' else c) ++ "/"

/-- The package that a directory belongs to. -/
def packageOfDirectory (directory : String) : String :=
  String.ofList (directory.toList.dropLast.map fun c => if c = '/' then '.' else c)

theorem relativePath_eq (file : SourceFile) :
    file.relativePath = directory file.package ++ file.fileName ++ ".kt" := rfl

theorem directory_eq {package : String} (hroot : package ≠ "") :
    directory package =
      String.ofList ((package.toList.map fun c => if c = '.' then '/' else c) ++ ['/']) := by
  rw [← String.toList_inj, directory, if_neg hroot, String.toList_append, String.toList_map,
    String.toList_ofList, String.toList_ofList]

theorem packageOfDirectory_directory {package : String} (hplain : '/' ∉ package.toList) :
    packageOfDirectory (directory package) = package := by
  by_cases hroot : package = ""
  · rw [hroot]
    rfl
  · have hread : (package.toList.map fun c => if c = '.' then '/' else c).map
        (fun c => if c = '/' then '.' else c) = package.toList := by
      rw [List.map_map]
      refine (List.map_congr_left ?_).trans (List.map_id package.toList)
      intro c hc
      have hslash : c ≠ '/' := fun hslash => hplain (hslash ▸ hc)
      by_cases hdot : c = '.' <;> simp [hdot, hslash]
    rw [packageOfDirectory, directory_eq hroot, String.toList_ofList, List.dropLast_concat, hread,
      String.ofList_toList]

/-- A package `shop/crm` would have the same directory. -/
example : packageOfDirectory "shop/crm/" = "shop.crm" := by
  decide

/-- Files of one name have different paths if their packages are different. -/
theorem relativePath_inj {file other : SourceFile} (hname : file.fileName = other.fileName)
    (hplain : '/' ∉ file.package.toList) (hother : '/' ∉ other.package.toList)
    (hpath : file.relativePath = other.relativePath) : file.package = other.package := by
  rw [relativePath_eq, relativePath_eq, hname, String.append_left_inj, String.append_left_inj]
    at hpath
  rw [← packageOfDirectory_directory hplain, hpath, packageOfDirectory_directory hother]

end Kotlin

/-- A run that succeeds writes one file for each package, in the order in which packages are first
seen.  If the packages have no slashes in their names, no two files have the same path. -/
theorem compile_paths_nodup {graphs : EntityGraphs} {settings : Settings}
    {files : List Kotlin.SourceFile}
    (hplain : ∀ entity ∈ graphs.entities, '/' ∉ entity.package.toList)
    (hfiles : compile graphs settings = .ok files) :
    files.map (·.package) = (graphs.entities.map Entity.package).eraseDups ∧
      (∀ entity ∈ graphs.entities, ∃ file, files.filter (·.package = entity.package) = [file]) ∧
      (files.map (·.relativePath)).Nodup := by
  obtain ⟨units, hunits, rfl⟩ := map_eq_ok_iff.mp hfiles
  have hrun : (Run.over graphs settings).units = .ok units := hunits
  have hpackages : (units.map (Kotlin.sourceFile settings)).map (·.package) = graphs.packages := by
    rw [List.map_map]
    exact Run.units_map_package hrun
  have hnodup : ((units.map (Kotlin.sourceFile settings)).map (·.package)).Nodup := by
    rw [hpackages]
    exact graphs.packages_nodup
  have hfree : ∀ file ∈ units.map (Kotlin.sourceFile settings), '/' ∉ file.package.toList := by
    intro file hfile
    have hpackage : file.package ∈ graphs.packages := hpackages ▸ List.mem_map_of_mem hfile
    obtain ⟨entity, hentity, heq⟩ := EntityGraphs.mem_packages.mp hpackage
    exact heq ▸ hplain entity hentity
  refine ⟨hpackages, ?_, ?_⟩
  · intro entity hentity
    obtain ⟨unit, hunit, hpackage, -⟩ := Run.exists_unit hrun hentity
    refine ⟨Kotlin.sourceFile settings unit, ?_⟩
    rw [← hpackage]
    exact filter_eq_singleton_of_nodup_map hnodup (List.mem_map_of_mem hunit)
  · refine hnodup.of_map.map_on ?_
    intro file hfile other hother hpath
    refine List.inj_on_of_nodup_map hnodup hfile hother ?_
    obtain ⟨_, -, rfl⟩ := List.mem_map.mp hfile
    obtain ⟨_, -, rfl⟩ := List.mem_map.mp hother
    exact Kotlin.relativePath_inj rfl (hfree _ hfile) (hfree _ hother) hpath

/-- Customers of the root package between the entities of two packages, one inside the other. -/
def shopOfBranches : EntityGraphs where
  graphs :=
    let id := IdField.named "id" NativeType.long.valueType
    [⟨"sales", [
      { Entity.named "shop.Order" "orders" with id := some id },
      { Entity.named "Customer" "customers" with id := some id },
      { Entity.named "shop.crm.Agent" "agents" with id := some id }]⟩,
    ⟨"stock", [{ Entity.named "shop.Item" "items" with id := some id }]⟩]
  nodup_keys := by decide
  target_mem := by decide

theorem shopOfBranches_paths :
    ∃ files, compile shopOfBranches {} = .ok files ∧
      files.map (fun file => (file.package, file.relativePath)) =
        [("shop", "shop/tables.kt"), ("", "tables.kt"), ("shop.crm", "shop/crm/tables.kt")] ∧
      (∀ entity ∈ shopOfBranches.entities, '/' ∉ entity.package.toList) ∧
      (files.map (·.relativePath)).Nodup := by
  have hrun : ∃ units, generateAll shopOfBranches {} = .ok units ∧
      units.map (fun unit => unit.package) = ["shop", "", "shop.crm"] := ⟨_, rfl, rfl⟩
  obtain ⟨units, hunits, hpackages⟩ := hrun
  have hfiles : compile shopOfBranches {} = .ok (units.map (Kotlin.sourceFile {})) := by
    rw [compile, hunits]
    rfl
  have hpaths : (units.map (Kotlin.sourceFile {})).map
      (fun file => (file.package, file.relativePath)) =
        [("shop", "shop/tables.kt"), ("", "tables.kt"), ("shop.crm", "shop/crm/tables.kt")] := by
    -- only the package of a unit is in the path of its file
    have hpath : (units.map (Kotlin.sourceFile {})).map
        (fun file => (file.package, file.relativePath)) =
          (units.map (·.package)).map fun package =>
            (package, Kotlin.directory package ++ "tables" ++ ".kt") := by
      rw [List.map_map, List.map_map]
      rfl
    rw [hpath, hpackages, List.map_cons, List.map_cons, List.map_cons, List.map_nil,
      Kotlin.directory_eq (by decide : "shop" ≠ ""),
      Kotlin.directory_eq (by decide : "shop.crm" ≠ "")]
    decide
  have hplain : ∀ entity ∈ shopOfBranches.entities, '/' ∉ entity.package.toList := by
    decide +kernel
  obtain ⟨-, -, hnodup⟩ := compile_paths_nodup hplain hfiles
  exact ⟨_, hfiles, hpaths, hplain, hnodup⟩

end EntityTables
