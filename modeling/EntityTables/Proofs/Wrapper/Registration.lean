import EntityTables.Proofs.Wrapper.Choice

/-!
# The search for a wrapper's name

A name for a wrapper is searched for by trying one name after the other.  `Registers` is that search
as it goes, over any sequence of names: every attempt looks its name up, in the unit first and then
in the stage, and either ends the search or goes on to the next name.  No attempt knows how many
there will be, and names may repeat, because the qualified name can be the plain one.  The choice of
`OutputUnit.chooseWrapper` looks through a list of candidates instead.

* `registers_iff`: a search ends at the first usable name, if there is one;
* `registers_iff_of_first`: it ends there in one way;
* `registers_first_usable`: every search for the name of a wrapper ends, with the choice and the
  stage that it leads to, after at most two attempts more than there are wrappers.
-/

namespace EntityTables

section

variable {unit : OutputUnit} {stage after other : Stage} {names : Nat → String} {name : String}
  {wrapper : Wrapper} {attempt iterations : Nat}

/-- A wrapper of the name has the body of another one if it is the other one under this name. -/
theorem Wrapper.sameBody_iff {bound : Wrapper} (hname : bound.name = name) :
    bound.sameBody wrapper ↔ bound = { wrapper with name := name } := by
  cases bound
  cases wrapper
  simp_all [Wrapper.sameBody, and_assoc]

namespace OutputUnit

/-- The wrapper that a name is bound to while a stage is prepared.  The unit is asked before the
stage, and the first wrapper of the name is the one that counts. -/
def bound? (unit : OutputUnit) (stage : Stage) (name : String) : Option Wrapper :=
  (unit.wrapper? name).or (stage.wrapper? name)

theorem bound?_eq_find? :
    unit.bound? stage name = (unit.boundWrappers stage).find? (·.name = name) :=
  List.find?_append.symm

theorem name_of_bound? {bound : Wrapper} (hbound : unit.bound? stage name = some bound) :
    bound.name = name := by
  rw [bound?_eq_find?] at hbound
  simpa using List.find?_some hbound

/-- A wrapper may have a name that is bound to no wrapper, or to one with its type, its converter
and its carrier. -/
def Usable (unit : OutputUnit) (stage : Stage) (wrapper : Wrapper) (name : String) : Prop :=
  unit.bound? stage name = none ∨ unit.bound? stage name = some { wrapper with name := name }

/-- What becomes of the stage when a wrapper gets a name. -/
inductive StagedAs (unit : OutputUnit) (stage : Stage) (wrapper : Wrapper) (name : String) :
    Stage → Prop
  /-- The name is free, and the wrapper is staged under it. -/
  | fresh (hfree : unit.bound? stage name = none) :
      StagedAs unit stage wrapper name
        { stage with wrappers := stage.wrappers ++ [{ wrapper with name := name }] }
  /-- The wrapper is there already under the name. -/
  | reused (hbound : unit.bound? stage name = some { wrapper with name := name }) :
      StagedAs unit stage wrapper name stage

/-- The search through a sequence of names from an attempt on: how many attempts it takes, the name
that it ends with, and the stage behind it. -/
inductive Registers (unit : OutputUnit) (stage : Stage) (names : Nat → String)
    (wrapper : Wrapper) : Nat → Nat → String → Stage → Prop
  | done {attempt : Nat} {after : Stage}
      (hstaged : unit.StagedAs stage wrapper (names attempt) after) :
      Registers unit stage names wrapper attempt 1 (names attempt) after
  /-- The name belongs to a wrapper with another body. -/
  | next {attempt iterations : Nat} {name : String} {bound : Wrapper} {after : Stage}
      (hbound : unit.bound? stage (names attempt) = some bound)
      (hbody : bound ≠ { wrapper with name := names attempt })
      (hrest : Registers unit stage names wrapper (attempt + 1) iterations name after) :
      Registers unit stage names wrapper attempt (iterations + 1) name after

/-! ## One attempt -/

theorem StagedAs.usable (hstaged : unit.StagedAs stage wrapper name after) :
    unit.Usable stage wrapper name := by
  cases hstaged with
  | fresh hfree => exact .inl hfree
  | reused hbound => exact .inr hbound

theorem StagedAs.unique (hstaged : unit.StagedAs stage wrapper name after)
    (hother : unit.StagedAs stage wrapper name other) : after = other := by
  cases hstaged with
  | fresh hfree =>
      cases hother with
      | fresh => rfl
      | reused hbound => simp [hfree] at hbound
  | reused hbound =>
      cases hother with
      | fresh hfree => simp [hfree] at hbound
      | reused => rfl

theorem not_usable_iff :
    ¬unit.Usable stage wrapper name ↔
      ∃ bound, unit.bound? stage name = some bound ∧ bound ≠ { wrapper with name := name } := by
  unfold Usable
  cases unit.bound? stage name <;> simp

/-- An attempt fails if its candidate gives no choice. -/
theorem choiceOf?_eq_none_iff :
    Wrapper.choiceOf? (unit.boundWrappers stage) wrapper name = none ↔
      ¬unit.Usable stage wrapper name := by
  rw [not_usable_iff, Wrapper.choiceOf?, ← bound?_eq_find?]
  cases hbound : unit.bound? stage name with
  | none => simp
  | some bound => simp [← Wrapper.sameBody_iff (name_of_bound? hbound)]

/-- An attempt that gives a choice ends the search with what comes of the choice. -/
theorem stagedAs_of_choiceOf? {choice : WrapperChoice}
    (hchoice : Wrapper.choiceOf? (unit.boundWrappers stage) wrapper name = some choice) :
    choice.name = name ∧ unit.StagedAs stage wrapper name (stage.addWrapper wrapper choice) := by
  rcases Wrapper.choiceOf?_eq_some hchoice with ⟨rfl, hunbound⟩ | ⟨rfl, bound, hbound, hbody⟩
  · refine ⟨rfl, .fresh ?_⟩
    rw [bound?_eq_find?, Wrapper.find?_of_unbound hunbound]
  · rw [← bound?_eq_find?] at hbound
    rw [Wrapper.sameBody_iff (name_of_bound? hbound)] at hbody
    exact ⟨rfl, .reused (hbody ▸ hbound)⟩

/-! ## The search -/

/-- A search ends at the first usable name. -/
theorem registers_iff :
    unit.Registers stage names wrapper attempt iterations name after ↔
      ∃ number, attempt ≤ number ∧ attempt + iterations = number + 1 ∧
        name = names number ∧ unit.StagedAs stage wrapper name after ∧
        ∀ earlier, attempt ≤ earlier → earlier < number →
          ¬unit.Usable stage wrapper (names earlier) := by
  constructor
  · intro hregisters
    induction hregisters with
    | @done attempt _ hstaged =>
        refine ⟨attempt, Nat.le_refl attempt, rfl, rfl, hstaged, ?_⟩
        intro earlier hle hlt
        omega
    | @next attempt iterations _ _ _ hbound hbody _ ih =>
        obtain ⟨number, hle, hlast, hname, hstaged, hfirst⟩ := ih
        refine ⟨number, by omega, by omega, hname, hstaged, ?_⟩
        intro earlier hearlier hlt
        rcases Nat.lt_or_eq_of_le hearlier with hlater | rfl
        · exact hfirst earlier hlater hlt
        · exact not_usable_iff.mpr ⟨_, hbound, hbody⟩
  · rintro ⟨number, hle, hlast, rfl, hstaged, hfirst⟩
    -- the attempts that are left lead up to the usable name
    induction iterations generalizing attempt with
    | zero => omega
    | succ iterations ih =>
        rcases Nat.lt_or_eq_of_le hle with hlt | rfl
        · obtain ⟨bound, hbound, hbody⟩ :=
            not_usable_iff.mp (hfirst attempt (Nat.le_refl attempt) hlt)
          refine .next hbound hbody (ih hlt (by omega) ?_)
          intro earlier hearlier
          exact hfirst earlier (by omega)
        · obtain rfl : iterations = 0 := by omega
          exact .done hstaged

/-- If the first usable name is known, then so is the search. -/
theorem registers_iff_of_first {number : Nat} {found : String}
    (hstaged : unit.StagedAs stage wrapper (names number) after)
    (hfirst : ∀ earlier < number, ¬unit.Usable stage wrapper (names earlier)) :
    unit.Registers stage names wrapper 0 iterations found other ↔
      iterations = number + 1 ∧ found = names number ∧ other = after := by
  rw [registers_iff]
  constructor
  · rintro ⟨last, -, hlast, rfl, hother, hearlier⟩
    -- both names are usable, so neither stands before the other
    obtain rfl : last = number := by
      rcases Nat.lt_trichotomy last number with hlt | heq | hlt
      · exact absurd hother.usable (hfirst last hlt)
      · exact heq
      · exact absurd hstaged.usable (hearlier number (Nat.zero_le number) hlt)
    exact ⟨by omega, rfl, hother.unique hstaged⟩
  · rintro ⟨rfl, rfl, rfl⟩
    exact ⟨number, Nat.zero_le number, by omega, rfl, hstaged, fun earlier _ => hfirst earlier⟩

end OutputUnit
end

/-- The search for the name of a wrapper tries the name of the wrapper, then the entity as a
variable followed by the name as an object, then the same with the numbers from two on.  It ends in
one way, whatever the wrappers of the unit and of the stage are: at the first of these names that is
free or belongs to a wrapper with the same body, after at most two attempts more than there are
wrappers.  Its name and its stage are those of the choice. -/
theorem registers_first_usable (unit : OutputUnit) (stage : Stage) (entityName : String)
    (wrapper : Wrapper) :
    let qualified := variableName entityName ++ objectName wrapper.name
    ∃ names : Nat → String, names 0 = wrapper.name ∧ names 1 = qualified ∧
      (∀ number ≥ 2, names number = qualified ++ toString number) ∧
      ∃ number, number + 1 ≤ unit.wrappers.length + stage.wrappers.length + 2 ∧
        let choice := unit.chooseWrapper stage entityName wrapper
        choice.name = names number ∧
        unit.StagedAs stage wrapper (names number) (stage.addWrapper wrapper choice) ∧
        (∀ earlier < number, ¬unit.Usable stage wrapper (names earlier)) ∧
        ∀ iterations found after,
          unit.Registers stage names wrapper 0 iterations found after ↔
            iterations = number + 1 ∧ found = names number ∧
              after = stage.addWrapper wrapper choice := by
  intro qualified
  obtain ⟨number, hnumber, hchoice, hfirst⟩ :=
    Wrapper.choose_eq_first_usable (unit.boundWrappers stage) entityName wrapper
  obtain ⟨hname, hstaged⟩ := OutputUnit.stagedAs_of_choiceOf? hchoice
  have hunusable : ∀ earlier < number,
      ¬unit.Usable stage wrapper (Wrapper.candidate entityName wrapper.name earlier) := by
    intro earlier hearlier
    exact OutputUnit.choiceOf?_eq_none_iff.mp (hfirst earlier hearlier)
  have hlength : (unit.boundWrappers stage).length =
      unit.wrappers.length + stage.wrappers.length := List.length_append
  refine ⟨Wrapper.candidate entityName wrapper.name, rfl, Wrapper.candidate_one .., ?_, number,
    by omega, hname, hstaged, hunusable, ?_⟩
  · intro number hnumber
    obtain ⟨number, rfl⟩ := Nat.exists_eq_add_of_le' hnumber
    exact Wrapper.candidate_add_two ..
  · intro iterations found after
    exact OutputUnit.registers_iff_of_first hstaged hunusable

/-- In a shop that knows other wrappers as `status` and as `invoiceStatus`, the status of an invoice
gets its wrapper at the third attempt. -/
theorem status_registered_numbered :
    let status : Wrapper := ⟨"status", ⟨"shop", "Status"⟩, "StatusNames", .string⟩
    let unit : OutputUnit :=
      { package := "shop", wrappers := [{ status with converter := "StatusCodes" }] }
    let stage : Stage := { wrappers := [{ status with name := "invoiceStatus", carrier := .long }] }
    ∃ names : Nat → String, names 0 = "status" ∧ names 1 = "invoiceStatus" ∧
      names 2 = "invoiceStatus2" ∧
      unit.Registers stage names status 0 3 "invoiceStatus2"
        { stage with wrappers := stage.wrappers ++ [{ status with name := "invoiceStatus2" }] } := by
  intro status unit stage
  have hchoice : unit.chooseWrapper stage "Invoice" status = .fresh "invoiceStatus2" := by
    decide
  have hqualified : variableName "Invoice" ++ objectName status.name = "invoiceStatus" := by
    decide
  obtain ⟨names, hplain, hsecond, hnumbered, number, hnumber, hname, -, -, hregisters⟩ :=
    registers_first_usable unit stage "Invoice" status
  rw [hqualified] at hsecond hnumbered
  rw [hchoice] at hname hregisters
  have hthird : names 2 = "invoiceStatus2" := hnumbered 2 (Nat.le_refl 2)
  have hnumber : number = 0 ∨ number = 1 ∨ number = 2 ∨ number = 3 := by
    have hwrappers : unit.wrappers.length + stage.wrappers.length = 2 := rfl
    omega
  -- of the names that two wrappers leave to be tried, only the third is that of the choice
  rcases hnumber with rfl | rfl | rfl | rfl
  · exact absurd (hname.trans hplain) (by decide)
  · exact absurd (hname.trans hsecond) (by decide)
  · exact ⟨names, hplain, hsecond, hthird, (hregisters 3 _ _).mpr ⟨rfl, hthird.symm, rfl⟩⟩
  · exact absurd (hname.trans (hnumbered 3 (by decide))) (by decide)

/-- The third attempt can be needed for one wrapper: here the qualified name is the plain one. -/
example :
    let status : Wrapper := ⟨"Status", ⟨"shop", "Status"⟩, "StatusNames", .string⟩
    let unit : OutputUnit := { package := "shop", wrappers := [{ status with carrier := .long }] }
    unit.chooseWrapper {} "" status = .fresh "Status2" := by
  decide

end EntityTables
