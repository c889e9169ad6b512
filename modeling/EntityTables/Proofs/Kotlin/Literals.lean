import EntityTables.Proofs.Kotlin.Initializers

/-!
# Reading string literals

A reader of literals takes every escape for the character that it stands for and stops at the first
quote that is no escape.  It refuses what must not stand in a literal as it is: a dollar sign, which
would start a template, and a line feed.  Applied to the literal of a text and any characters behind
it, the reader gives back that text and leaves these characters.

The names of tables and columns in the database stand in literals only, so whatever such a name is,
the code in front of it and behind it is read as the same code.

* `readText_escaped`: a text is read back up to the quote behind it;
* `readLiteral_literal`: so is the text of a literal;
* `QuotesName`: code around a literal that is read as a name, whatever the name is;
* `quotesName_columnLine`, `quotesName_table`, `quotesName_joinTable`: the code of columns, tables
  and join tables;
* `literals_read_back`: all of these together.
-/

namespace EntityTables.Kotlin

/-! ## The reader -/

/-- The character that a backslash and a code stand for. -/
def unescaped? : Char → Option Char
  | '"' => some '"'
  | '\\' => some '\\'
  | '$' => some '$'
  | 'n' => some '\n'
  | _ => none

/-- Reads a text up to the quote that ends it, and gives the characters behind the quote with it. -/
def readText : List Char → Option (List Char × List Char)
  | [] => none
  | '"' :: rest => some ([], rest)
  | '$' :: _ => none
  | '\n' :: _ => none
  | ['\\'] => none
  | '\\' :: code :: rest =>
      (unescaped? code).bind fun c => (readText rest).map fun (text, rest) => (c :: text, rest)
  | c :: rest => (readText rest).map fun (text, rest) => (c :: text, rest)

/-- Reads a literal, and gives what stands behind it with its text. -/
def readLiteral (source : String) : Option (String × String) :=
  match source.toList with
  | '"' :: rest => (readText rest).map fun (text, rest) => (String.ofList text, String.ofList rest)
  | _ => none

/-! ## What is read -/

/-- What stands for a character in a literal is read as the character. -/
theorem readText_literalChar (c : Char) (rest : List Char) :
    readText (literalChar c ++ rest) =
      (readText rest).map fun (text, rest) => (c :: text, rest) := by
  unfold literalChar
  split
  · rfl
  · rfl
  · rfl
  · rfl
  · rename_i hquote hbackslash hdollar hfeed
    -- none of the readings of a special character applies
    rw [List.singleton_append, readText]
    · exact hquote
    · exact hdollar
    · exact hfeed
    · exact fun heq _ => hbackslash heq
    · exact fun _ _ heq _ => hbackslash heq

theorem readText_escaped (text : String) (rest : List Char) :
    readText (escaped text ++ '"' :: rest) = some (text.toList, rest) := by
  unfold escaped
  induction text.toList with
  | nil => rfl
  | cons c chars ih =>
      rw [List.flatMap_cons, List.append_assoc, readText_literalChar, ih]
      rfl

/-- A literal ends where it was ended, and is read as the text that it was written for. -/
theorem readLiteral_literal (text rest : String) :
    readLiteral (literal text ++ rest) = some (text, rest) := by
  have hsource : (literal text ++ rest).toList = '"' :: (escaped text ++ '"' :: rest.toList) := by
    simp [literal, escaped]
  rw [readLiteral, hsource]
  simp [readText_escaped]

/-- What stands in a literal as it is and what needs a backslash. -/
example : readLiteral "\"50\\$ \\\"off\\\"\") ..." = some ("50$ \"off\"", ") ...") ∧
    readLiteral "\"50$\"" = none ∧ readLiteral "\"50\n\"" = none := by decide

theorem literal_injective : Function.Injective literal := by
  intro text other heq
  have hread := readLiteral_literal text ""
  rw [heq, readLiteral_literal] at hread
  exact (Prod.mk.inj (Option.some.inj hread)).1.symm

/-! ## Names in the source -/

/-- Whatever the name is, what is written for it is the same code in front of a literal and behind
it, and the literal is read as the name. -/
def QuotesName (write : String → String) : Prop :=
  ∃ front behind, ∀ name, ∃ text,
    write name = front ++ text ∧ readLiteral text = some (name, behind)

theorem quotesName_of_eq {write : String → String} (front behind : String)
    (hwrite : ∀ name, write name = front ++ (literal name ++ behind)) : QuotesName write :=
  ⟨front, behind, fun name => ⟨_, hwrite name, readLiteral_literal name behind⟩⟩

/-- The arguments behind the name of a column, each with the comma in front of it. -/
def parametersText (parameters : List UInt32) : String :=
  String.join (parameters.map fun parameter => ", " ++ toString parameter.toNat)

/-- A modifier, if it is there. -/
def markText (mark : String) (present : Bool) : String :=
  if present then mark else ""

/-- The modifier that refers to another table, if there is one. -/
def referencesText : Option ColumnRef → String
  | some target => ".references(" ++ target.tableObject ++ "." ++ target.column ++ ")"
  | none => ""

/-- The modifiers of a column, in order. -/
def modifiersText (recipe : ColumnRecipe) : String :=
  markText ".primaryKey()" recipe.primaryKey ++ markText ".autoIncrement()" recipe.autoIncrement ++
    referencesText recipe.references ++ markText ".nullable()" recipe.nullable

theorem intercalate_cons (separator first : String) (texts : List String) :
    separator.intercalate (first :: texts) =
      first ++ String.join (texts.map (separator ++ ·)) := by
  induction texts generalizing first with
  | nil => simp
  | cons second texts ih =>
      rw [String.intercalate_cons_cons, ih, List.map_cons, String.join_cons]
      simp only [String.append_assoc]

theorem initializer_eq (recipe : ColumnRecipe) :
    initializer recipe = recipe.kind.constructorName ++ "(" ++
      (literal recipe.columnName ++
        (parametersText recipe.kind.parameters ++ ")" ++ modifiersText recipe)) := by
  rw [initializer, intercalate_cons, List.map_map]
  simp only [parametersText, modifiersText, markText, Function.comp_def, String.append_assoc]
  cases recipe.references <;> simp only [referencesText, String.append_assoc]

theorem quotesName_columnLine (package : String) (column : ColumnSpec) :
    QuotesName fun name =>
      columnLine package { column with recipe := { column.recipe with columnName := name } } := by
  refine quotesName_of_eq
    ("    val " ++ column.name ++ ": Column<" ++
      typeName package column.recipe.nullable column.valueType ++ "> = " ++
      column.recipe.kind.constructorName ++ "(")
    (parametersText column.recipe.kind.parameters ++ ")" ++ modifiersText column.recipe ++ "\n") ?_
  intro name
  simp only [columnLine, initializer_eq, modifiersText, String.append_assoc]

theorem quotesName_table (package : String) (table : Table) :
    QuotesName fun name => objectText package (.table { table with tableName := name }) := by
  refine quotesName_of_eq ("object " ++ table.objectName ++ " : Table(")
    (") \x7b\n" ++ String.join (table.allColumns.map (columnLine package)) ++ "\x7d\n") ?_
  intro name
  simp only [objectText, Declaration.objectName, Declaration.tableName, Declaration.columns,
    Table.allColumns, String.append_assoc]

theorem quotesName_joinTable (package : String) (table : JoinTable) :
    QuotesName fun name => objectText package (.joinTable { table with tableName := name }) := by
  refine quotesName_of_eq ("object " ++ table.objectName ++ " : Table(")
    (") \x7b\n" ++ String.join (table.columns.map (columnLine package)) ++ "\x7d\n") ?_
  intro name
  simp only [objectText, Declaration.objectName, Declaration.tableName, Declaration.columns,
    JoinTable.columns, String.append_assoc]

/-- The literal of a text is read as that text, whatever stands behind it, and what stands behind it
is left; so different texts have different literals.  In the lines of columns and in the objects of
tables and join tables, all but the literal of the name is the same for all names. -/
theorem literals_read_back :
    (∀ text rest, readLiteral (literal text ++ rest) = some (text, rest)) ∧
      Function.Injective literal ∧
      ∀ package : String,
        (∀ column : ColumnSpec, QuotesName fun name =>
          columnLine package { column with recipe := { column.recipe with columnName := name } }) ∧
        (∀ table : Table, QuotesName fun name =>
          objectText package (.table { table with tableName := name })) ∧
        ∀ table : JoinTable, QuotesName fun name =>
          objectText package (.joinTable { table with tableName := name }) :=
  ⟨readLiteral_literal, literal_injective, fun package =>
    ⟨quotesName_columnLine package, quotesName_table package, quotesName_joinTable package⟩⟩

end EntityTables.Kotlin
