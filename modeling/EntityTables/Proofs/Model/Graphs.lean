import Mathlib.Data.List.Nodup
import Mathlib.Data.List.Perm.Basic
import EntityTables.Model.Graphs

/-!
# Looking up entities and packages

In accepted graphs an entity is found under its own key and under no other, and the target of
every association is found.  The packages are all different, and the entities of the packages,
one package after the other, are all entities: every entity belongs to one package.

* `entity?_eq_some_iff`: what is found under a key;
* `exists_target`: the target of an association is found;
* `packages_nodup`, `mem_packages`: the packages;
* `flatMap_packages_perm`: no entity is lost or repeated when the packages are gone through.
-/

namespace EntityTables

theorem nodup_eraseDups {α : Type} [BEq α] [LawfulBEq α] (elements : List α) :
    elements.eraseDups.Nodup := by
  match elements with
  | [] => simp
  | first :: rest =>
      rw [List.eraseDups_cons, List.nodup_cons]
      refine ⟨?_, nodup_eraseDups _⟩
      intro hmem
      simpa using (List.mem_filter.mp (List.mem_eraseDups.mp hmem)).2
termination_by elements.length
decreasing_by
  exact Nat.lt_succ_of_le (List.length_filter_le _ _)

/-- The classes of a list under different labels, one after the other, are the list again, when
every element has one of the labels. -/
theorem flatMap_filter_perm {α β : Type} [DecidableEq β] (label : α → β) {labels : List β}
    (hnodup : labels.Nodup) {elements : List α}
    (hlabel : ∀ element ∈ elements, label element ∈ labels) :
    (labels.flatMap fun value => elements.filter (label · = value)).Perm elements := by
  induction labels generalizing elements with
  | nil =>
      have hnil : elements = [] := by
        apply List.eq_nil_iff_forall_not_mem.mpr
        intro element hmem
        exact List.not_mem_nil (hlabel element hmem)
      rw [hnil]
      exact List.Perm.refl _
  | cons value labels ih =>
      obtain ⟨hvalue, hnodup⟩ := List.nodup_cons.mp hnodup
      let others := elements.filter (label · ≠ value)
      have hothers : ∀ element ∈ others, label element ∈ labels := by
        intro element hmem
        obtain ⟨hmem, hne⟩ := List.mem_filter.mp hmem
        exact (List.mem_cons.mp (hlabel element hmem)).resolve_left (of_decide_eq_true hne)
      -- the classes of the other labels do not see the elements with the first one
      have hclasses : (labels.flatMap fun later => elements.filter (label · = later)) =
          labels.flatMap fun later => others.filter (label · = later) := by
        apply List.flatMap_congr
        intro later hlater
        have hne : later ≠ value := by
          rintro rfl
          exact hvalue hlater
        rw [List.filter_filter]
        apply List.filter_congr
        intro element _
        by_cases heq : label element = later <;> simp [heq, hne]
      rw [List.flatMap_cons, hclasses]
      refine ((ih hnodup hothers).append_left _).trans ?_
      simpa [others] using List.filter_append_perm (label · = value) elements

/-- A list in which an element is alone under its label has only it in the class of the label. -/
theorem filter_eq_singleton_of_nodup_map {α β : Type} [DecidableEq α] [DecidableEq β]
    {label : α → β} {elements : List α} (hnodup : (elements.map label).Nodup) {element : α}
    (hmem : element ∈ elements) : elements.filter (label · = label element) = [element] := by
  have hclass : elements.filter (label · = label element) = elements.filter (· = element) := by
    apply List.filter_congr
    intro other hother
    apply decide_eq_decide.mpr
    constructor
    · intro hlabel
      exact List.inj_on_of_nodup_map hnodup hother hmem hlabel
    · exact congrArg label
  rw [hclass, List.filter_eq, List.count_eq_one_of_mem hnodup.of_map hmem, List.replicate_one]

namespace EntityGraphs

variable {graphs : EntityGraphs} {entity : Entity} {key : EntityKey}

/-! ## Entities -/

theorem eq_of_key_eq {other : Entity} (hentity : entity ∈ graphs.entities)
    (hother : other ∈ graphs.entities) (hkey : entity.key = other.key) : entity = other :=
  List.inj_on_of_nodup_map graphs.nodup_keys hentity hother hkey

/-- An entity is found under its own key and under no other. -/
theorem entity?_eq_some_iff :
    graphs.entity? key = some entity ↔ entity ∈ graphs.entities ∧ entity.key = key := by
  constructor
  · intro hfind
    exact ⟨List.mem_of_find?_eq_some hfind, by simpa using List.find?_some hfind⟩
  · rintro ⟨hmem, rfl⟩
    obtain ⟨found, hfind⟩ := Option.isSome_iff_exists.mp
      (List.find?_isSome.mpr ⟨entity, hmem, decide_eq_true rfl⟩ :
        (graphs.entities.find? (·.key = entity.key)).isSome)
    have hkey : found.key = entity.key := by simpa using List.find?_some hfind
    rw [entity?, hfind, eq_of_key_eq (List.mem_of_find?_eq_some hfind) hmem hkey]

/-- The target of an association is an entity. -/
theorem exists_target (hentity : entity ∈ graphs.entities) {association : Association}
    (hassociation : association ∈ entity.associations) :
    ∃ target ∈ graphs.entities, graphs.entity? association.target = some target := by
  obtain ⟨target, htarget, hkey⟩ :=
    List.mem_map.mp (graphs.target_mem entity hentity association hassociation)
  exact ⟨target, htarget, entity?_eq_some_iff.mpr ⟨htarget, hkey⟩⟩

/-! ## Packages -/

def entitiesIn (graphs : EntityGraphs) (package : String) : List Entity :=
  graphs.entities.filter (·.package = package)

theorem mem_entitiesIn {package : String} :
    entity ∈ graphs.entitiesIn package ↔ entity ∈ graphs.entities ∧ entity.package = package := by
  simp [entitiesIn]

theorem entriesIn_map_snd (graphs : EntityGraphs) (package : String) :
    (graphs.entriesIn package).map (·.2) = graphs.entitiesIn package := by
  have hentries : graphs.entries.map (·.2) = graphs.entities := by
    simp [entries, entities, entitiesOf, List.map_flatMap, Function.comp_def]
  rw [entriesIn, entitiesIn, ← hentries, List.filter_map, Function.comp_def]

theorem packages_nodup (graphs : EntityGraphs) : graphs.packages.Nodup :=
  nodup_eraseDups _

theorem mem_packages {package : String} :
    package ∈ graphs.packages ↔ ∃ entity ∈ graphs.entities, entity.package = package := by
  simp [packages]

/-- Going through the packages, every entity is met once. -/
theorem flatMap_packages_perm (graphs : EntityGraphs) :
    (graphs.packages.flatMap graphs.entitiesIn).Perm graphs.entities :=
  flatMap_filter_perm Entity.package graphs.packages_nodup fun entity hentity =>
    mem_packages.mpr ⟨entity, hentity, rfl⟩

end EntityGraphs
end EntityTables
