import Mathlib.Data.List.Nodup
import Mathlib.Data.List.Perm.Subperm
import EntityTables.Output.Unit

/-!
# The choice of a wrapper's name

`Wrapper.choose` looks only at as many candidates as there are bound wrappers, and two more.
That this is enough is a pigeonhole argument: the candidates from the second on are all
different (`candidate_succ_inj`), so one of them is not the name of a bound wrapper
(`exists_unbound_candidate`).

* `choose_eq_first_usable`: the choice is the first usable candidate;
* `choose_fresh`: a fresh name belongs to no bound wrapper;
* `choose_reuse`: a name that is used again belongs to a wrapper with the same body.
-/

namespace EntityTables

/-- Different numbers have different digits. -/
theorem toDigits_inj {first second : Nat}
    (heq : Nat.toDigits 10 first = Nat.toDigits 10 second) : first = second := by
  rw [← Nat.ofDigitChars_ten_toDigits (n := first), heq, Nat.ofDigitChars_ten_toDigits]

/-- A number is written with its digits. -/
theorem toList_toString (number : Nat) : (toString number).toList = Nat.toDigits 10 number := by
  rw [Nat.toString_eq_repr, Nat.toList_repr]

namespace Wrapper

variable {bound : List Wrapper} {entityName : String} {wrapper : Wrapper}

/-! ## The candidates -/

theorem candidate_one (entityName name : String) :
    candidate entityName name 1 = qualifiedName entityName name := rfl

theorem candidate_add_two (entityName name : String) (number : Nat) :
    candidate entityName name (number + 2) =
      qualifiedName entityName name ++ toString (number + 2) := rfl

/-- From the second on, all candidates are different. -/
theorem candidate_succ_inj {entityName name : String} {first second : Nat}
    (heq : candidate entityName name (first + 1) = candidate entityName name (second + 1)) :
    first = second := by
  -- the first of these candidates has no number, all others end with theirs
  cases first with
  | zero =>
      cases second with
      | zero => rfl
      | succ second =>
          rw [candidate_one, candidate_add_two, eq_comm, String.append_eq_left_iff,
            Nat.toString_eq_repr] at heq
          exact absurd heq Nat.repr_ne_empty
  | succ first =>
      cases second with
      | zero =>
          rw [candidate_one, candidate_add_two, String.append_eq_left_iff,
            Nat.toString_eq_repr] at heq
          exact absurd heq Nat.repr_ne_empty
      | succ second =>
          rw [candidate_add_two, candidate_add_two, String.append_right_inj, ← String.toList_inj,
            toList_toString, toList_toString] at heq
          have := toDigits_inj heq
          omega

/-! ## Usable names -/

theorem find?_of_unbound {name : String} (hunbound : name ∉ bound.map (·.name)) :
    bound.find? (·.name = name) = none := by
  rw [List.find?_eq_none]
  intro other hother hname
  exact hunbound (List.mem_map.mpr ⟨other, hother, of_decide_eq_true hname⟩)

theorem choiceOf?_of_unbound {name : String} (hunbound : name ∉ bound.map (·.name)) :
    choiceOf? bound wrapper name = some (.fresh name) := by
  simp only [choiceOf?, find?_of_unbound hunbound]

/-- A usable name either belongs to no bound wrapper, or to one with the same body. -/
theorem choiceOf?_eq_some {name : String} {choice : WrapperChoice}
    (husable : choiceOf? bound wrapper name = some choice) :
    (choice = .fresh name ∧ name ∉ bound.map (·.name)) ∨
      (choice = .reuse name ∧
        ∃ other, bound.find? (·.name = name) = some other ∧ other.sameBody wrapper) := by
  unfold choiceOf? at husable
  cases hfind : bound.find? (·.name = name) with
  | none =>
      simp only [hfind, Option.some.injEq] at husable
      refine Or.inl ⟨husable.symm, ?_⟩
      intro hmem
      obtain ⟨other, hother, hname⟩ := List.mem_map.mp hmem
      exact List.find?_eq_none.mp hfind other hother (decide_eq_true hname)
  | some other =>
      simp only [hfind] at husable
      split at husable
      · rename_i hbody
        exact Or.inr ⟨(Option.some.inj husable).symm, other, rfl, hbody⟩
      · contradiction

/-- Among one candidate more than there are bound wrappers, not counting the first candidate,
some is not the name of a bound wrapper. -/
theorem exists_unbound_candidate (bound : List Wrapper) (entityName name : String) :
    ∃ number ≤ bound.length, candidate entityName name (number + 1) ∉ bound.map (·.name) := by
  by_contra hnone
  have hall : ∀ number ≤ bound.length,
      candidate entityName name (number + 1) ∈ bound.map (·.name) := by
    intro number hnumber
    by_contra hunbound
    exact hnone ⟨number, hnumber, hunbound⟩
  have hnodup : ((List.range (bound.length + 1)).map
      fun number => candidate entityName name (number + 1)).Nodup :=
    List.Nodup.map (fun _ _ heq => candidate_succ_inj heq) List.nodup_range
  have hsubset : (List.range (bound.length + 1)).map
      (fun number => candidate entityName name (number + 1)) ⊆ bound.map (·.name) := by
    intro name hname
    obtain ⟨number, hnumber, rfl⟩ := List.mem_map.mp hname
    exact hall number (Nat.lt_succ_iff.mp (List.mem_range.mp hnumber))
  -- one candidate more than there are names cannot all be among the names
  have hle := (hnodup.subperm hsubset).length_le
  simp only [List.length_map, List.length_range] at hle
  omega

/-! ## The choice -/

private theorem findSome?_range_eq_some {α : Type} {f : Nat → Option α} {value : α} {limit : Nat}
    (hfind : (List.range limit).findSome? f = some value) :
    ∃ number < limit, f number = some value ∧ ∀ earlier < number, f earlier = none := by
  induction limit with
  | zero => simp at hfind
  | succ limit ih =>
      rw [List.range_succ, List.findSome?_append, Option.or_eq_some_iff] at hfind
      rcases hfind with hfind | ⟨hnone, hlast⟩
      · obtain ⟨number, hlt, hnumber⟩ := ih hfind
        exact ⟨number, Nat.lt_succ_of_lt hlt, hnumber⟩
      · refine ⟨limit, Nat.lt_succ_self limit, by simpa using hlast, ?_⟩
        intro earlier hearlier
        exact List.findSome?_eq_none_iff.mp hnone earlier (List.mem_range.mpr hearlier)

/-- The choice is made at the first usable candidate, and there is one among two candidates more
than there are bound wrappers. -/
theorem choose_eq_first_usable (bound : List Wrapper) (entityName : String) (wrapper : Wrapper) :
    ∃ number < bound.length + 2,
      choiceOf? bound wrapper (candidate entityName wrapper.name number) =
          some (choose bound entityName wrapper) ∧
        ∀ earlier < number,
          choiceOf? bound wrapper (candidate entityName wrapper.name earlier) = none := by
  let usable := fun number => choiceOf? bound wrapper (candidate entityName wrapper.name number)
  have hsome : ((List.range (bound.length + 2)).findSome? usable).isSome := by
    obtain ⟨number, hnumber, hunbound⟩ := exists_unbound_candidate bound entityName wrapper.name
    refine List.findSome?_isSome_iff.mpr ⟨number + 1, List.mem_range.mpr (by omega), ?_⟩
    simp only [usable, choiceOf?_of_unbound hunbound, Option.isSome_some]
  obtain ⟨choice, hchoice⟩ := Option.isSome_iff_exists.mp hsome
  have hchoose : choose bound entityName wrapper = choice := by
    have hcandidates : ((List.range (bound.length + 2)).map
        (candidate entityName wrapper.name)).findSome? (choiceOf? bound wrapper) = some choice := by
      rw [List.findSome?_map]
      exact hchoice
    simp only [choose, hcandidates, Option.getD_some]
  rw [hchoose]
  exact findSome?_range_eq_some hchoice

/-- A name that is chosen as fresh belongs to no bound wrapper. -/
theorem choose_fresh {name : String} (hfresh : choose bound entityName wrapper = .fresh name) :
    name ∉ bound.map (·.name) := by
  obtain ⟨number, _, husable, _⟩ := choose_eq_first_usable bound entityName wrapper
  rcases choiceOf?_eq_some husable with ⟨heq, hunbound⟩ | ⟨heq, _⟩
  · rw [hfresh, WrapperChoice.fresh.injEq] at heq
    exact heq ▸ hunbound
  · rw [hfresh] at heq
    contradiction

/-- A name that is chosen to be used again belongs to a bound wrapper with the same body. -/
theorem choose_reuse {name : String} (hreuse : choose bound entityName wrapper = .reuse name) :
    ∃ other, bound.find? (·.name = name) = some other ∧ other.sameBody wrapper := by
  obtain ⟨number, _, husable, _⟩ := choose_eq_first_usable bound entityName wrapper
  rcases choiceOf?_eq_some husable with ⟨heq, _⟩ | ⟨heq, hother⟩
  · rw [hreuse] at heq
    contradiction
  · rw [hreuse, WrapperChoice.reuse.injEq] at heq
    exact heq ▸ hother

end Wrapper
end EntityTables
