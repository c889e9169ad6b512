import Mathlib.Data.List.TakeWhile
import EntityTables.Proofs.Wrapper.Choice

/-!
# Choosing again

A name that was chosen for a wrapper is chosen again, for the same entity, whatever is bound later;
so the name that a column calls can be told from the wrappers that are bound in the end.  Two
entities arrive at one name by the plain name, if it belongs to a wrapper with the body, or because
they have the same variable name.  Otherwise their candidates differ: the numbers behind qualified
names are set off by any character of the wrapper's name that is not a digit.

* `choose_append_of_reuse`, `choose_append_of_fresh`: the choice is settled once it is made;
* `choose_of_plain`, `choose_congr`: how two entities arrive at the same name;
* `of_reuse_eq`: there is no other way.
-/

namespace EntityTables.Wrapper

variable {bound : List Wrapper} {entityName otherName name : String} {wrapper : Wrapper}

/-! ## Choosing with more wrappers bound -/

/-- A first usable candidate is the choice. -/
theorem choose_eq_of_first (number : Nat) {choice : WrapperChoice}
    (husable : choiceOf? bound wrapper (candidate entityName wrapper.name number) = some choice)
    (hfirst : ∀ earlier < number,
      choiceOf? bound wrapper (candidate entityName wrapper.name earlier) = none) :
    choose bound entityName wrapper = choice := by
  obtain ⟨chosen, -, hchosen, hbefore⟩ := choose_eq_first_usable bound entityName wrapper
  rcases Nat.lt_trichotomy number chosen with hlt | rfl | hlt
  · rw [hbefore number hlt] at husable
    contradiction
  · exact Option.some.inj (hchosen.symm.trans husable)
  · rw [hfirst chosen hlt] at hchosen
    contradiction

/-- What a bound name is for a wrapper does not change. -/
theorem choiceOf?_append_of_ne_fresh (hbound : choiceOf? bound wrapper name ≠ some (.fresh name))
    (later : List Wrapper) :
    choiceOf? (bound ++ later) wrapper name = choiceOf? bound wrapper name := by
  cases hfind : bound.find? (·.name = name) with
  | none => simp [choiceOf?, hfind] at hbound
  | some other => simp only [choiceOf?, List.find?_append, hfind, Option.some_or]

/-- A name can be used again if it belongs to a wrapper with the same body. -/
theorem choiceOf?_eq_reuse_iff :
    choiceOf? bound wrapper name = some (.reuse name) ↔
      ∃ other, bound.find? (·.name = name) = some other ∧ other.sameBody wrapper := by
  cases hfind : bound.find? (·.name = name) with
  | none => simp [choiceOf?, hfind]
  | some other => simp [choiceOf?, hfind]

/-- A candidate that could not be used cannot be used when more is bound. -/
theorem choiceOf?_append_of_none (hnone : choiceOf? bound wrapper name = none)
    (later : List Wrapper) : choiceOf? (bound ++ later) wrapper name = none := by
  rw [choiceOf?_append_of_ne_fresh (by simp [hnone]), hnone]

/-- A name that is used again is the first candidate that belongs to a wrapper with the body. -/
theorem exists_candidate_of_reuse (hreuse : choose bound entityName wrapper = .reuse name) :
    ∃ number, candidate entityName wrapper.name number = name ∧
      choiceOf? bound wrapper name = some (.reuse name) ∧
        ∀ earlier < number,
          choiceOf? bound wrapper (candidate entityName wrapper.name earlier) = none := by
  obtain ⟨number, -, husable, hfirst⟩ := choose_eq_first_usable bound entityName wrapper
  rw [hreuse] at husable
  rcases choiceOf?_eq_some husable with ⟨heq, -⟩ | ⟨heq, -⟩
  · contradiction
  · obtain rfl := WrapperChoice.reuse.inj heq
    exact ⟨number, rfl, husable, hfirst⟩

/-- A name that is used again is used again when more is bound. -/
theorem choose_append_of_reuse (hreuse : choose bound entityName wrapper = .reuse name)
    (later : List Wrapper) : choose (bound ++ later) entityName wrapper = .reuse name := by
  obtain ⟨number, rfl, husable, hfirst⟩ := exists_candidate_of_reuse hreuse
  apply choose_eq_of_first number
  · rw [choiceOf?_append_of_ne_fresh (by simp [husable]), husable]
  · intro earlier hearlier
    exact choiceOf?_append_of_none (hfirst earlier hearlier) later

/-- A fresh name is used again as soon as the wrapper is bound to it. -/
theorem choose_append_of_fresh (hfresh : choose bound entityName wrapper = .fresh name) :
    choose (bound ++ [{ wrapper with name }]) entityName wrapper = .reuse name := by
  obtain ⟨number, -, husable, hfirst⟩ := choose_eq_first_usable bound entityName wrapper
  rw [hfresh] at husable
  rcases choiceOf?_eq_some husable with ⟨heq, hunbound⟩ | ⟨heq, -⟩
  · obtain rfl := WrapperChoice.fresh.inj heq
    apply choose_eq_of_first number
    · simp [choiceOf?, find?_of_unbound hunbound, sameBody]
    · intro earlier hearlier
      exact choiceOf?_append_of_none (hfirst earlier hearlier) _
  · contradiction

/-! ## Two entities -/

/-- The plain name is chosen for every entity if it belongs to a wrapper with the body. -/
theorem choose_of_plain (hplain : choiceOf? bound wrapper wrapper.name = some (.reuse wrapper.name))
    (entityName : String) : choose bound entityName wrapper = .reuse wrapper.name :=
  choose_eq_of_first 0 hplain fun _ hearlier => absurd hearlier (Nat.not_lt_zero _)

/-- Entities of one variable name make the same choices. -/
theorem choose_congr (hvariable : variableName entityName = variableName otherName) :
    choose bound entityName wrapper = choose bound otherName wrapper := by
  have hqualified : qualifiedName entityName wrapper.name =
      qualifiedName otherName wrapper.name := by
    rw [qualifiedName, qualifiedName, hvariable]
  have hcandidate : candidate entityName wrapper.name = candidate otherName wrapper.name := by
    funext number
    match number with
    | 0 => rfl
    | 1 => exact hqualified
    | number + 2 => rw [candidate_add_two, candidate_add_two, hqualified]
  rw [choose, choose, hcandidate]

/-- The characters of a qualified candidate: the names of the entity and of the wrapper, and the
digits of a number. -/
theorem exists_toList_candidate (entityName name : String) (number : Nat) :
    ∃ digits : List Char, (∀ c ∈ digits, c.isDigit) ∧
      (candidate entityName name (number + 1)).toList =
        (variableName entityName).toList ++ (objectName name).toList ++ digits := by
  cases number with
  | zero =>
      refine ⟨[], by simp, ?_⟩
      rw [candidate_one, qualifiedName, String.toList_append, List.append_nil]
  | succ number =>
      refine ⟨(toString (number + 2)).toList, ?_, ?_⟩
      · intro c hc
        rw [toList_toString] at hc
        exact Nat.isDigit_of_mem_toDigits (by decide) (by decide) hc
      · rw [candidate_add_two, qualifiedName, String.toList_append, String.toList_append]

/-- Digits are dropped from the end up to what is not a digit in front of them. -/
theorem dropWhile_isDigit_reverse {front middle digits : List Char}
    (hmiddle : ∃ c ∈ middle, ¬c.isDigit) (hdigits : ∀ c ∈ digits, c.isDigit) :
    (front ++ middle ++ digits).reverse.dropWhile Char.isDigit =
      middle.reverse.dropWhile Char.isDigit ++ front.reverse := by
  have hstops : (middle.reverse.dropWhile Char.isDigit).isEmpty = false := by
    rw [List.isEmpty_eq_false_iff, Ne, List.dropWhile_eq_nil_iff]
    obtain ⟨c, hc, hdigit⟩ := hmiddle
    exact fun hall => hdigit (hall c (List.mem_reverse.mpr hc))
  rw [List.reverse_append, List.reverse_append,
    List.dropWhile_append_of_pos (fun c hc => hdigits c (List.mem_reverse.mp hc)),
    List.dropWhile_append, hstops, if_neg Bool.false_ne_true]

theorem eq_of_append_digits {first second middle digits others : List Char}
    (hmiddle : ∃ c ∈ middle, ¬c.isDigit) (hdigits : ∀ c ∈ digits, c.isDigit)
    (hothers : ∀ c ∈ others, c.isDigit)
    (heq : first ++ middle ++ digits = second ++ middle ++ others) : first = second := by
  have hreversed := congrArg (fun chars => chars.reverse.dropWhile Char.isDigit) heq
  simp only [dropWhile_isDigit_reverse hmiddle hdigits,
    dropWhile_isDigit_reverse hmiddle hothers] at hreversed
  exact List.reverse_inj.mp (List.append_cancel_left hreversed)

/-- Two entities arrive at the same name only by the plain name or with one variable name, unless
the wrapper is named by digits alone. -/
theorem of_reuse_eq (hreuse : choose bound entityName wrapper = .reuse name)
    (hother : choose bound otherName wrapper = .reuse name)
    (hname : ∃ c ∈ (objectName wrapper.name).toList, ¬c.isDigit) :
    choiceOf? bound wrapper wrapper.name = some (.reuse wrapper.name) ∨
      variableName entityName = variableName otherName := by
  obtain ⟨number, hcandidate, husable, -⟩ := exists_candidate_of_reuse hreuse
  obtain ⟨otherNumber, hotherCandidate, -, -⟩ := exists_candidate_of_reuse hother
  cases number with
  | zero =>
      obtain rfl : wrapper.name = name := hcandidate
      exact .inl husable
  | succ number =>
      cases otherNumber with
      | zero =>
          obtain rfl : wrapper.name = name := hotherCandidate
          exact .inl husable
      | succ otherNumber =>
          obtain ⟨digits, hdigits, hchars⟩ :=
            exists_toList_candidate entityName wrapper.name number
          obtain ⟨others, hothers, hotherChars⟩ :=
            exists_toList_candidate otherName wrapper.name otherNumber
          rw [hcandidate] at hchars
          rw [hotherCandidate, hchars] at hotherChars
          exact .inr (String.toList_inj.mp (eq_of_append_digits hname hdigits hothers hotherChars))

end EntityTables.Wrapper
