import EntityTables.Proofs.Generation.ColumnTypes
import EntityTables.Proofs.Kotlin.Literals

/-!
# Reading the calls that make columns

The call that makes a native column can be taken apart again, from the front to the back.  The name
of the constructor ends at the first parenthesis, the name of the column is what its literal is read
as, and a number ends at the first character that is no digit.  The modifiers stand in a fixed order
and start with different letters, so each is there or it is not.  Only a reference holds text as it
is: its table must not have the dot that ends it, nor its column the closing parenthesis.

* `append_inj_of_delimited`: a text that ends where characters of another kind begin;
* `parametersText_inj`, `modifiersText_inj`: what stands behind the name of the column;
* `ColumnKind.eq_of_constructorName_eq`: a native kind is its constructor and its parameters;
* `initializer_inj_of_native`: native columns with the same call have the same recipe.
-/

namespace EntityTables

/-- A native kind is told by the name of its constructor and its parameters. -/
theorem ColumnKind.eq_of_constructorName_eq {kind other : ColumnKind} (hkind : kind.isNative)
    (hother : other.isNative) (hname : kind.constructorName = other.constructorName)
    (hparameters : kind.parameters = other.parameters) : kind = other := by
  cases kind <;> cases other <;> simp_all [constructorName, parameters, isNative]

/-- No constructor of native columns has a parenthesis in its name. -/
theorem ColumnKind.not_mem_constructorName {kind : ColumnKind} (hkind : kind.isNative) :
    '(' ∉ kind.constructorName.toList := by
  cases kind with
  | converted wrapper => simp [isNative] at hkind
  | _ => simp [constructorName]

/-- The dot and the closing parenthesis end the two parts of the reference. -/
structure ColumnRef.Delimited (ref : ColumnRef) : Prop where
  tableObject : '.' ∉ ref.tableObject.toList
  column : ')' ∉ ref.column.toList

namespace Kotlin

/-! ## Where a text ends -/

/-- Two texts of characters of one kind end at the same place if characters of another kind stand
behind them. -/
theorem append_inj_of_delimited {p : Char → Bool} {front other rest others : List Char}
    (hfront : ∀ c ∈ front, p c) (hother : ∀ c ∈ other, p c)
    (hrest : ∀ c ∈ rest.head?, ¬p c) (hothers : ∀ c ∈ others.head?, ¬p c)
    (heq : front ++ rest = other ++ others) : front = other ∧ rest = others := by
  have htake : ∀ {rest : List Char}, (∀ c ∈ rest.head?, ¬p c) → rest.takeWhile p = [] := by
    intro rest hrest
    cases rest with
    | nil => rfl
    | cons c rest => exact List.takeWhile_cons_of_neg (hrest c rfl)
  have hfronts := congrArg (List.takeWhile p) heq
  rw [List.takeWhile_append_of_pos hfront, List.takeWhile_append_of_pos hother, htake hrest,
    htake hothers, List.append_nil, List.append_nil] at hfronts
  exact ⟨hfronts, List.append_cancel_left (hfronts ▸ heq)⟩

/-- This is so if the first occurrence of a character ends them. -/
theorem append_cons_inj {stop : Char} {front other rest others : List Char}
    (hfront : stop ∉ front) (hother : stop ∉ other)
    (heq : front ++ stop :: rest = other ++ stop :: others) : front = other ∧ rest = others := by
  have hplain : ∀ {text : List Char}, stop ∉ text → ∀ c ∈ text, decide (c ≠ stop) := by
    rintro text htext c hmem
    exact decide_eq_true fun hstop => htext (hstop ▸ hmem)
  obtain ⟨hfronts, hrests⟩ := append_inj_of_delimited (hplain hfront) (hplain hother)
    (by simp) (by simp) heq
  exact ⟨hfronts, (List.cons.inj hrests).2⟩

/-! ## Parameters -/

theorem parametersText_cons (parameter : UInt32) (parameters : List UInt32) :
    (parametersText (parameter :: parameters)).toList =
      ',' :: ' ' :: (Nat.toDigits 10 parameter.toNat ++ (parametersText parameters).toList) := by
  simp [parametersText]

/-- What stands behind a number is no digit. -/
theorem not_isDigit_of_head_parametersText (parameters : List UInt32) (rest : List Char) :
    ∀ c ∈ ((parametersText parameters).toList ++ ')' :: rest).head?, ¬c.isDigit := by
  cases parameters with
  | nil => simp [parametersText]
  | cons parameter parameters => simp [parametersText_cons]

/-- The parameters up to the closing parenthesis. -/
theorem parametersText_inj {parameters others : List UInt32} {rest more : List Char}
    (heq : (parametersText parameters).toList ++ ')' :: rest =
      (parametersText others).toList ++ ')' :: more) :
    parameters = others ∧ rest = more := by
  induction parameters generalizing others with
  | nil =>
      cases others with
      | nil => simpa [parametersText] using heq
      | cons other others => simp [parametersText] at heq
  | cons parameter parameters ih =>
      cases others with
      | nil => simp [parametersText] at heq
      | cons other others =>
          simp only [parametersText_cons, List.cons_append, List.append_assoc, List.cons.injEq,
            true_and] at heq
          have hdigits : ∀ number, ∀ c ∈ Nat.toDigits 10 number, c.isDigit := fun _ _ =>
            Nat.isDigit_of_mem_toDigits (by decide) (by decide)
          obtain ⟨hnumber, hrest⟩ := append_inj_of_delimited (hdigits _) (hdigits _)
            (not_isDigit_of_head_parametersText _ _) (not_isDigit_of_head_parametersText _ _) heq
          obtain ⟨rfl, rfl⟩ := ih hrest
          rw [UInt32.toNat_inj.mp (toDigits_inj hnumber)]
          exact ⟨rfl, rfl⟩

/-! ## Modifiers -/

/-- Whether a modifier is there can be told if what stands behind it never starts like it. -/
theorem markText_inj {mark : String} {present other : Bool} {rest more : List Char}
    (hrest : ¬mark.toList <+: rest) (hmore : ¬mark.toList <+: more)
    (heq : (markText mark present).toList ++ rest = (markText mark other).toList ++ more) :
    present = other ∧ rest = more := by
  cases present <;> cases other <;> simp only [markText, if_true, Bool.false_eq_true, if_false,
    String.toList_empty, List.nil_append] at heq
  · exact ⟨rfl, heq⟩
  · exact absurd ⟨more, heq.symm⟩ hrest
  · exact absurd ⟨rest, heq⟩ hmore
  · exact ⟨rfl, List.append_cancel_left heq⟩

theorem referencesText_some_toList (ref : ColumnRef) (rest : List Char) :
    (referencesText (some ref)).toList ++ rest =
      ".references(".toList ++
        (ref.tableObject.toList ++ '.' :: (ref.column.toList ++ ')' :: rest)) := by
  simp [referencesText]

theorem referencesText_inj {references others : Option ColumnRef} {rest more : List Char}
    (hreferences : ∀ ref ∈ references, ref.Delimited) (hothers : ∀ ref ∈ others, ref.Delimited)
    (hrest : ¬".references(".toList <+: rest) (hmore : ¬".references(".toList <+: more)
    (heq : (referencesText references).toList ++ rest = (referencesText others).toList ++ more) :
    references = others ∧ rest = more := by
  have hnone : ∀ rest, (referencesText none).toList ++ rest = rest := by simp [referencesText]
  cases references with
  | none =>
      cases others with
      | none => exact ⟨rfl, by rwa [hnone, hnone] at heq⟩
      | some other =>
          rw [hnone, referencesText_some_toList] at heq
          exact absurd ⟨_, heq.symm⟩ hrest
  | some ref =>
      cases others with
      | none =>
          rw [hnone, referencesText_some_toList] at heq
          exact absurd ⟨_, heq⟩ hmore
      | some other =>
          rw [referencesText_some_toList, referencesText_some_toList] at heq
          obtain ⟨htable, hcolumn⟩ := hreferences ref rfl
          obtain ⟨hotherTable, hotherColumn⟩ := hothers other rfl
          obtain ⟨htables, hrests⟩ :=
            append_cons_inj htable hotherTable (List.append_cancel_left heq)
          obtain ⟨hcolumns, rfl⟩ := append_cons_inj hcolumn hotherColumn hrests
          have hsame : ref = other := by
            cases ref
            cases other
            rw [ColumnRef.mk.injEq]
            exact ⟨String.toList_inj.mp htables, String.toList_inj.mp hcolumns⟩
          exact ⟨congrArg some hsame, rfl⟩

/-- The modifiers stand in one order and have different initials. -/
theorem modifiersText_inj {recipe other : ColumnRecipe}
    (hrecipe : ∀ ref ∈ recipe.references, ref.Delimited)
    (hother : ∀ ref ∈ other.references, ref.Delimited)
    (heq : (modifiersText recipe).toList = (modifiersText other).toList) :
    recipe.primaryKey = other.primaryKey ∧ recipe.autoIncrement = other.autoIncrement ∧
      recipe.references = other.references ∧ recipe.nullable = other.nullable := by
  have hlast : ∀ nullable, ¬".references(".toList <+: (markText ".nullable()" nullable).toList := by
    intro nullable
    cases nullable <;> simp [markText]
  have hreferred : ∀ references nullable, ¬".autoIncrement()".toList <+:
      (referencesText references).toList ++ (markText ".nullable()" nullable).toList := by
    intro references nullable
    cases references <;> cases nullable <;> simp [markText, referencesText]
  have hcounted : ∀ count references nullable, ¬".primaryKey()".toList <+:
      (markText ".autoIncrement()" count).toList ++
        ((referencesText references).toList ++ (markText ".nullable()" nullable).toList) := by
    intro count references nullable
    cases count <;> cases references <;> cases nullable <;> simp [markText, referencesText]
  simp only [modifiersText, String.toList_append, List.append_assoc] at heq
  obtain ⟨hkey, heq⟩ := markText_inj (hcounted _ _ _) (hcounted _ _ _) heq
  obtain ⟨hcount, heq⟩ := markText_inj (hreferred _ _) (hreferred _ _) heq
  obtain ⟨hreferences, heq⟩ := referencesText_inj hrecipe hother (hlast _) (hlast _) heq
  rw [← List.append_nil (markText _ recipe.nullable).toList,
    ← List.append_nil (markText _ other.nullable).toList] at heq
  obtain ⟨hnullable, -⟩ := markText_inj (by simp) (by simp) heq
  exact ⟨hkey, hcount, hreferences, hnullable⟩

/-! ## Calls -/

/-- Native columns that are made by the same call have the same recipe, if their references end
where they seem to. -/
theorem initializer_inj_of_native {recipe other : ColumnRecipe}
    (hrecipe : recipe.kind.isNative) (hother : other.kind.isNative)
    (hreferences : ∀ ref ∈ recipe.references, ref.Delimited)
    (hothers : ∀ ref ∈ other.references, ref.Delimited)
    (htext : initializer recipe = initializer other) : recipe = other := by
  rw [initializer_eq, initializer_eq, ← String.toList_inj] at htext
  have hopen : ∀ name rest : String,
      (name ++ "(" ++ rest).toList = name.toList ++ '(' :: rest.toList := by simp
  rw [hopen, hopen] at htext
  obtain ⟨hname, hrest⟩ := append_cons_inj (ColumnKind.not_mem_constructorName hrecipe)
    (ColumnKind.not_mem_constructorName hother) htext
  -- the literal of the column name is read back together with what stands behind it
  have hread := congrArg readLiteral (String.toList_inj.mp hrest)
  rw [readLiteral_literal, readLiteral_literal] at hread
  obtain ⟨hcolumn, hbehind⟩ := Prod.mk.inj (Option.some.inj hread)
  rw [← String.toList_inj] at hbehind
  simp only [String.toList_append, List.append_assoc] at hbehind
  obtain ⟨hparameters, hmodifiers⟩ := parametersText_inj hbehind
  have hkind := ColumnKind.eq_of_constructorName_eq hrecipe hother (String.toList_inj.mp hname)
    hparameters
  obtain ⟨hkey, hcount, hreference, hnullable⟩ := modifiersText_inj hreferences hothers hmodifiers
  cases recipe
  cases other
  rw [ColumnRecipe.mk.injEq]
  exact ⟨hkind, hcolumn, hnullable, hkey, hcount, hreference⟩

/-- A foreign key whose name looks like the end of a call. -/
def lookalikeKey : ColumnRecipe where
  kind := .varchar 20
  columnName := "code\", 5).references(ItemTable.id)"
  nullable := true
  references := some ⟨"CustomerTable", "code"⟩

/-- The key that is built for an association is told from its call, whatever its name looks like. -/
theorem lookalikeKey_read_back :
    ∃ column,
      foreignKeyOf {}
        ⟨"customer", "shop.Customer", .manyToOne,
          { IdField.named "code" NativeType.string.valueType with limits := some (.ofLength 20) },
          some "code\", 5).references(ItemTable.id)", true, none, none⟩
        (Entity.named "shop.Customer" "customers") = .ok column ∧
      initializer column.recipe = "varchar(\"code\\\", 5).references(ItemTable.id)\", 20)" ++
        ".references(CustomerTable.code).nullable()" ∧
      initializer column.recipe = initializer lookalikeKey ∧ column.recipe = lookalikeKey := by
  have hplain : ∀ ref ∈ lookalikeKey.references, ref.Delimited := by
    intro ref href
    obtain rfl := Option.some.inj href
    exact ⟨by decide, by decide⟩
  exact ⟨_, rfl, by decide +kernel, rfl, initializer_inj_of_native rfl rfl hplain hplain rfl⟩

end Kotlin
end EntityTables
