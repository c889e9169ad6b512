import EntityTables.Proofs.Emission.Stage

/-!
# What associations contribute

In accepted graphs, `contribution_of_target` says everything that an association can come to: the
foreign key that is built for its target, the join table that is built for it, here or elsewhere,
or nothing.

* `contribution_eq_foreignKey_iff`: which associations contribute a foreign key;
* `contribution_manyToMany`, `kind_of_contribution`: which associations contribute a join table.
-/

namespace EntityTables.Run

variable {run : Run} {entity target : Entity} {association : Association} {column : ColumnSpec}
  {table : JoinTable}

/-- What an association whose target is known contributes. -/
theorem contribution_of_target (htarget : run.graphs.entity? association.target = some target) :
    run.contribution entity association =
      if association.ownsForeignKey then
        (foreignKeyOf run.settings association target).map .foreignKey
      else if association.kind = .manyToMany then
        (joinTableOf run.settings entity association target).map fun table =>
          if ownsJoinTable run.joinDeclarations entity association table then .joinTable table
          else .ownedElsewhere table
      else .ok .nothing := by
  rw [contribution, planOf_of_target htarget]
  split
  · cases foreignKeyOf run.settings association target <;> rfl
  · split
    · cases joinTableOf run.settings entity association target <;> rfl
    · rfl

/-! ## Foreign keys -/

/-- An association that owns a foreign key contributes the one that is built for its target, and
no other association contributes one. -/
theorem contribution_eq_foreignKey_iff
    (htarget : run.graphs.entity? association.target = some target) :
    run.contribution entity association = .ok (.foreignKey column) ↔
      association.ownsForeignKey ∧ foreignKeyOf run.settings association target = .ok column := by
  rw [contribution_of_target htarget]
  by_cases howns : association.ownsForeignKey
  · rw [if_pos howns, map_eq_ok_iff]
    simp [howns]
  · simp only [howns, Bool.false_eq_true, if_false, false_and, iff_false]
    -- a many-to-many association contributes its join table, or leaves it to the owner
    split
    · rw [map_eq_ok_iff]
      rintro ⟨table, -, heq⟩
      split at heq <;> contradiction
    · simp

/-! ## Join tables -/

/-- A many-to-many association contributes the join table that is built for it, either here or
elsewhere. -/
theorem contribution_manyToMany (hkind : association.kind = .manyToMany)
    (htarget : run.graphs.entity? association.target = some target) :
    run.contribution entity association =
      (joinTableOf run.settings entity association target).map fun table =>
        if ownsJoinTable run.joinDeclarations entity association table then .joinTable table
        else .ownedElsewhere table := by
  rw [contribution, planOf_manyToMany hkind htarget]
  cases joinTableOf run.settings entity association target <;> rfl

/-- Only a many-to-many association contributes a join table. -/
theorem kind_of_contribution
    (hcontribution : run.contribution entity association = .ok (.joinTable table)) :
    association.kind = .manyToMany := by
  rw [contribution] at hcontribution
  cases hplan : planOf run.settings run.graphs entity association with
  | error error => simp [hplan, Except.map] at hcontribution
  | ok plan =>
      cases plan with
      | foreignKey column => simp [hplan, Except.map] at hcontribution
      | nothing => simp [hplan, Except.map] at hcontribution
      | joinTable planned => exact kind_of_planOf hplan

theorem joinTable?_of_kind_ne (hkind : association.kind ≠ .manyToMany) :
    (run.contribution entity association).toOption.bind (·.joinTable?) = none := by
  rw [Option.bind_eq_none_iff]
  intro contribution hcontribution
  rw [toOption_eq_some_iff] at hcontribution
  cases contribution with
  | joinTable table => exact absurd (kind_of_contribution hcontribution) hkind
  | foreignKey column => rfl
  | ownedElsewhere table => rfl
  | nothing => rfl

end EntityTables.Run
