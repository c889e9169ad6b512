import EntityTables.Kotlin.Source

/-!
# The calls that make columns

The text of a call starts with the name that is called and an opening parenthesis.  The name of a
constructor has no parenthesis itself, so it is what stands in front of the first one.  The name of
a wrapper can be anything; but nothing that looks like the start of an argument can stand behind
it, because a quote inside a literal has a backslash in front of it.  So it is what stands in front
of the last parenthesis that a quote follows.

* `callee_initializer`: what stands in front of the first parenthesis;
* `not_infix_escaped`: no quote follows a parenthesis inside a literal;
* `name_eq_of_initializer_eq`: calls of wrappers with the same text call the same name.
-/

namespace EntityTables.Kotlin

/-! ## The first parenthesis -/

/-- What stands in front of the first parenthesis. -/
def callee (text : String) : String :=
  String.ofList (text.toList.takeWhile (· ≠ '('))

theorem exists_initializer_toList (recipe : ColumnRecipe) :
    ∃ arguments, (initializer recipe).toList =
      recipe.kind.constructorName.toList ++ '(' :: arguments := by
  simp only [initializer, String.toList_append, List.append_assoc]
  exact ⟨_, rfl⟩

theorem callee_initializer (recipe : ColumnRecipe) :
    callee (initializer recipe) = callee recipe.kind.constructorName := by
  obtain ⟨arguments, htext⟩ := exists_initializer_toList recipe
  have hopen : ('(' :: arguments).takeWhile (· ≠ '(') = [] := List.takeWhile_cons_of_neg (by simp)
  rw [callee, callee, htext, List.takeWhile_append, hopen, List.append_nil]
  split
  · rename_i hlength
    rw [(List.takeWhile_prefix _).eq_of_length hlength]
  · rfl

/-! ## The last parenthesis in front of a quote -/

/-- A text inside a literal. -/
def escaped (text : String) : List Char :=
  text.toList.flatMap literalChar

/-- A character of a literal has a backslash in front of it, or it is no quote. -/
theorem literalChar_cases (c : Char) :
    (∃ shown, literalChar c = ['\\', shown]) ∨ c ≠ '"' ∧ literalChar c = [c] := by
  unfold literalChar
  split <;> simp_all

theorem head?_escaped (chars : List Char) : (chars.flatMap literalChar).head? ≠ some '"' := by
  cases chars with
  | nil => simp
  | cons c chars =>
      rw [List.flatMap_cons]
      rcases literalChar_cases c with ⟨shown, hchar⟩ | ⟨hquote, hchar⟩
      · simp [hchar]
      · simpa [hchar] using hquote

theorem not_infix_escaped (text : String) : ¬['(', '"'] <:+: escaped text := by
  unfold escaped
  induction text.toList with
  | nil => simp
  | cons c chars ih =>
      have hhead : ¬['"'] <+: chars.flatMap literalChar := by
        rintro ⟨rest, hrest⟩
        exact head?_escaped chars (by rw [← hrest]; rfl)
      rw [List.flatMap_cons]
      rcases literalChar_cases c with ⟨shown, hchar⟩ | ⟨-, hchar⟩
      · simp [hchar, List.infix_cons_iff, List.cons_prefix_cons, hhead, ih]
      · simp [hchar, List.infix_cons_iff, List.cons_prefix_cons, hhead, ih]

/-- No argument starts earlier than the one that a literal stands for. -/
theorem eq_nil_of_open_eq {between rest : List Char} {argument : String}
    (heq : '(' :: '"' :: escaped argument = between ++ '(' :: '"' :: rest) : between = [] := by
  match between with
  | [] => rfl
  | [_] => simp at heq
  | _ :: _ :: between =>
      refine absurd ?_ (not_infix_escaped argument)
      simp only [List.cons_append, List.cons.injEq] at heq
      exact ⟨between, rest, by simp [heq.2.2]⟩

theorem eq_of_append_open {first second : List Char} {argument other : String}
    (heq : first ++ '(' :: '"' :: escaped argument = second ++ '(' :: '"' :: escaped other) :
    first = second := by
  rcases List.append_eq_append_iff.mp heq with ⟨between, rfl, hrest⟩ | ⟨between, rfl, hrest⟩
  · rw [eq_nil_of_open_eq hrest, List.append_nil]
  · rw [eq_nil_of_open_eq hrest, List.append_nil]

/-! ## Calls of wrappers -/

/-- The column is made by the wrapper: it is neither counted up nor does it refer to another
table. -/
structure IsWrapperCall (recipe : ColumnRecipe) (wrapper : String) : Prop where
  kind_eq : recipe.kind = .converted wrapper
  autoIncrement_eq : recipe.autoIncrement = false
  references_eq : recipe.references = none

/-- What stands behind the arguments of such a call. -/
def modifiers (primaryKey nullable : Bool) : List Char :=
  (if primaryKey then ".primaryKey()".toList else []) ++
    (if nullable then ".nullable()".toList else [])

/-- No modifier looks like the end of a literal. -/
theorem append_modifiers_inj {first second : List Char}
    {primaryKey nullable otherKey otherNullable : Bool}
    (heq : first ++ '"' :: ')' :: modifiers primaryKey nullable =
      second ++ '"' :: ')' :: modifiers otherKey otherNullable) : first = second := by
  have hreverse := congrArg List.reverse heq
  cases primaryKey <;> cases nullable <;> cases otherKey <;> cases otherNullable <;>
    simp [modifiers] at hreverse
  all_goals exact hreverse

theorem IsWrapperCall.initializer_toList {recipe : ColumnRecipe} {wrapper : String}
    (hcall : IsWrapperCall recipe wrapper) :
    (initializer recipe).toList =
      wrapper.toList ++ '(' :: '"' :: escaped recipe.columnName ++ '"' :: ')' ::
        modifiers recipe.primaryKey recipe.nullable := by
  obtain ⟨hkind, hcount, hreference⟩ := hcall
  cases hkey : recipe.primaryKey <;> cases hnull : recipe.nullable <;>
    simp [initializer, ColumnKind.constructorName, ColumnKind.parameters, literal, modifiers,
      escaped, *]

/-- Calls of wrappers with the same text call the same name. -/
theorem IsWrapperCall.name_eq {recipe other : ColumnRecipe} {wrapper otherWrapper : String}
    (hcall : IsWrapperCall recipe wrapper) (hother : IsWrapperCall other otherWrapper)
    (heq : initializer recipe = initializer other) : wrapper = otherWrapper := by
  have htext := congrArg String.toList heq
  rw [hcall.initializer_toList, hother.initializer_toList] at htext
  exact String.toList_inj.mp (eq_of_append_open (append_modifiers_inj htext))

end EntityTables.Kotlin
