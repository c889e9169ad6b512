import EntityTables.Proofs.Association.Plan

/-!
# The two columns of a join table

The columns of a join table are named after its two entities.  Where an entity is associated with
itself the second column is named after the association instead, so that the columns stay apart.
Nothing of the kind is done for two entities whose names differ at most in the case of the first
letter, such as entities of one name in two packages, nor for an association that has the name of
its entity: there both columns have the same name.

* `variableName_eq_iff`: when two names become one variable name;
* `joinColumns_distinct_iff`: when the columns of a join table that was built are distinct;
* `planOf_joinColumns_distinct_iff`: a many-to-many association of an entity with an id has a join
  table, and its columns are distinct if and only if the names that they are formed from do not
  become one.
-/

namespace EntityTables

/-! ## Names that become one variable name -/

namespace Text

/-- The lower-case form of a letter is a single character, but for one letter. -/
theorem exists_lowerCase_eq_singleton {letter : Char} (hletter : letter ≠ 'İ') :
    ∃ partner, lowerCase letter = [partner] := by
  have hcode : (letter.toNat == 0x130) = false := by
    apply beq_false_of_ne
    intro heq
    exact hletter (Char.toNat_inj.mp heq)
  rw [lowerCase, caseForm, lowerSequences, List.lookup_cons, hcode]
  exact ⟨_, rfl⟩

theorem lowerCase_dotted : lowerCase 'İ' = ['i', '\u0307'] := by decide

theorem lowerCase_ne_nil (letter : Char) : lowerCase letter ≠ [] := by
  by_cases hletter : letter = 'İ'
  · rw [hletter, lowerCase_dotted]
    exact List.cons_ne_nil _ _
  · obtain ⟨partner, hpartner⟩ := exists_lowerCase_eq_singleton hletter
    rw [hpartner]
    exact List.cons_ne_nil _ _

end Text

/-- Two names, as characters, that differ at most in the case of the first letter.  The capital
letter `İ` stands for an `i` and a dot above it, which is a character of its own. -/
inductive AlikeButForCase : List Char → List Char → Prop
  | empty : AlikeButForCase [] []
  | letter {first second : Char} {rest : List Char}
      (hcase : Text.lowerCase first = Text.lowerCase second) :
      AlikeButForCase (first :: rest) (second :: rest)
  | dotted {letter : Char} {rest : List Char} (hcase : Text.lowerCase letter = ['i']) :
      AlikeButForCase ('İ' :: rest) (letter :: '\u0307' :: rest)
  | undotted {letter : Char} {rest : List Char} (hcase : Text.lowerCase letter = ['i']) :
      AlikeButForCase (letter :: '\u0307' :: rest) ('İ' :: rest)

theorem lowerCase_append_eq_iff {first second : Char} {rest others : List Char} :
    Text.lowerCase first ++ rest = Text.lowerCase second ++ others ↔
      AlikeButForCase (first :: rest) (second :: others) := by
  constructor
  · intro heq
    -- a letter with two characters in lower case may meet one with a single character
    by_cases hfirst : first = 'İ' <;> by_cases hsecond : second = 'İ'
    · subst hfirst hsecond
      obtain rfl := List.append_cancel_left heq
      exact .letter rfl
    · obtain ⟨partner, hpartner⟩ := Text.exists_lowerCase_eq_singleton hsecond
      rw [hfirst, Text.lowerCase_dotted, hpartner] at heq
      obtain ⟨rfl, rfl⟩ := List.cons.inj heq
      exact hfirst ▸ .dotted hpartner
    · obtain ⟨partner, hpartner⟩ := Text.exists_lowerCase_eq_singleton hfirst
      rw [hsecond, Text.lowerCase_dotted, hpartner] at heq
      obtain ⟨rfl, rfl⟩ := List.cons.inj heq
      exact hsecond ▸ .undotted hpartner
    · obtain ⟨partner, hpartner⟩ := Text.exists_lowerCase_eq_singleton hfirst
      obtain ⟨other, hother⟩ := Text.exists_lowerCase_eq_singleton hsecond
      rw [hpartner, hother] at heq
      obtain ⟨rfl, rfl⟩ := List.cons.inj heq
      exact .letter (hpartner.trans hother.symm)
  · intro halike
    cases halike with
    | letter hcase => rw [hcase]
    | dotted hcase =>
        rw [hcase, Text.lowerCase_dotted]
        rfl
    | undotted hcase =>
        rw [hcase, Text.lowerCase_dotted]
        rfl

/-- The characters of a variable name. -/
theorem toList_variableName (name : String) :
    (variableName name).toList = match name.toList with
      | [] => []
      | first :: rest => Text.lowerCase first ++ rest := by
  rw [variableName, withFirst]
  cases name.toList with
  | nil => rfl
  | cons first rest => exact String.toList_ofList

/-- Two names become one variable name if and only if they differ at most in the case of the first
letter. -/
theorem variableName_eq_iff {name other : String} :
    variableName name = variableName other ↔ AlikeButForCase name.toList other.toList := by
  rw [← String.toList_inj, toList_variableName, toList_variableName]
  cases name.toList with
  | nil =>
      cases other.toList with
      | nil => exact iff_of_true rfl .empty
      | cons first rest =>
          apply iff_of_false
          · intro heq
            exact Text.lowerCase_ne_nil first (List.append_eq_nil_iff.mp heq.symm).1
          · intro halike
            nomatch halike
  | cons first rest =>
      cases other.toList with
      | nil =>
          apply iff_of_false
          · intro heq
            exact Text.lowerCase_ne_nil first (List.append_eq_nil_iff.mp heq).1
          · intro halike
            nomatch halike
      | cons second others => exact lowerCase_append_eq_iff

instance (name other : String) : Decidable (AlikeButForCase name.toList other.toList) :=
  decidable_of_iff _ variableName_eq_iff

/-! ## The columns that are built -/

section

variable {settings : Settings} {graphs : EntityGraphs} {source target : Entity}
  {association : Association} {table : JoinTable}

/-- What the target's column is named after: the target, but for an entity that is associated with
itself the association. -/
def namedAfter (source : Entity) (association : Association) (target : Entity) : String :=
  if source.key = target.key then association.name else target.name

/-- The two columns of a join table have different names, and different names in the database, if
and only if what they are named after does not differ in case alone. -/
theorem joinColumns_distinct_iff
    (htable : joinTableOf settings source association target = .ok table) :
    (table.sourceColumn.name ≠ table.targetColumn.name ∧
        table.sourceColumn.recipe.columnName ≠ table.targetColumn.recipe.columnName) ↔
      ¬AlikeButForCase source.name.toList (namedAfter source association target).toList := by
  obtain ⟨id, -, rfl⟩ := joinTableOf_eq_ok_iff.mp htable
  have hstem : targetStem source association target =
      variableName (namedAfter source association target) := by
    rw [targetStem, namedAfter]
    split <;> rfl
  -- the two names of a column end alike, so either is the other column's if the stem is
  simp only [joinColumn, hstem, ne_eq, String.append_left_inj, and_self, variableName_eq_iff]

/-- Every many-to-many association of an entity with an id has a join table.  Its two columns are
distinct if and only if what they are named after does not differ in case alone. -/
theorem planOf_joinColumns_distinct_iff (settings : Settings) (hsource : source ∈ graphs.entities)
    (hid : source.id.isSome) (hassociation : association ∈ source.associations)
    (hkind : association.kind = .manyToMany) :
    ∃ target, graphs.entity? association.target = some target ∧
      ∃ table, planOf settings graphs source association = .ok (.joinTable table) ∧
        ((table.sourceColumn.name ≠ table.targetColumn.name ∧
            table.sourceColumn.recipe.columnName ≠ table.targetColumn.recipe.columnName) ↔
          ¬AlikeButForCase source.name.toList (namedAfter source association target).toList) := by
  obtain ⟨target, -, htarget⟩ := EntityGraphs.exists_target hsource hassociation
  obtain ⟨id, hid⟩ := Option.isSome_iff_exists.mp hid
  obtain ⟨table, htable⟩ : ∃ table, joinTableOf settings source association target = .ok table :=
    ⟨_, joinTableOf_eq_ok_iff.mpr ⟨id, hid, rfl⟩⟩
  refine ⟨target, htarget, table, ?_, joinColumns_distinct_iff htable⟩
  rw [planOf_manyToMany hkind htarget, htable]
  rfl

end

/-- An item of a shop with two associations to items, to those of a stock and to others of the
shop. -/
def shopItem : Entity :=
  let id := IdField.named "id" NativeType.long.valueType
  { Entity.named "shop.Item" "items" with
    id := some id
    associations := [
      ⟨"stocked", "stock.Item", .manyToMany, id, none, true, none, none⟩,
      ⟨"similar", "shop.Item", .manyToMany, id, none, true, none, none⟩] }

def shopAndStock : EntityGraphs where
  graphs :=
    let id := IdField.named "id" NativeType.long.valueType
    [⟨"shop", [shopItem]⟩,
      ⟨"stock", [{ Entity.named "stock.Item" "stock_items" with id := some id }]⟩]
  nodup_keys := by decide
  target_mem := by decide

/-- The join table between the items of the shop and those of the stock has two columns of one
name. -/
theorem shopAndStock_joinColumns_equal :
    shopItem ∈ shopAndStock.entities ∧ shopItem.id.isSome ∧
      ∃ association ∈ shopItem.associations, association.kind = .manyToMany ∧
        ∃ table, planOf {} shopAndStock shopItem association = .ok (.joinTable table) ∧
          (table.source, table.target) = ("shop.Item", "stock.Item") ∧
          (table.sourceColumn.name, table.sourceColumn.recipe.columnName) = ("itemId", "item_id") ∧
          (table.targetColumn.name, table.targetColumn.recipe.columnName) = ("itemId", "item_id") :=
  ⟨by decide, rfl, _, List.mem_cons_self, rfl, _, rfl, rfl, rfl, rfl⟩

/-- The columns of the join table between the items of the shop themselves are distinct. -/
theorem shopAndStock_joinColumns_distinct :
    ∃ association ∈ shopItem.associations, association.target = shopItem.key ∧
      ∃ table, planOf {} shopAndStock shopItem association = .ok (.joinTable table) ∧
        table.sourceColumn.name ≠ table.targetColumn.name ∧
        table.sourceColumn.recipe.columnName ≠ table.targetColumn.recipe.columnName := by
  have hsource : shopItem ∈ shopAndStock.entities := by decide
  have hmem : ⟨"similar", "shop.Item", .manyToMany, .named "id" NativeType.long.valueType, none,
      true, none, none⟩ ∈ shopItem.associations := List.mem_cons_of_mem _ List.mem_cons_self
  obtain ⟨target, htarget, table, hplan, hdistinct⟩ :=
    planOf_joinColumns_distinct_iff {} hsource rfl hmem rfl
  obtain rfl : shopItem = target := Option.some.inj htarget
  exact ⟨_, hmem, rfl, table, hplan, hdistinct.mpr (by decide)⟩

end EntityTables
