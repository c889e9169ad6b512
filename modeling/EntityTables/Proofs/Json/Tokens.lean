import EntityTables.Proofs.Json.Scanning

/-!
# The tokens of a written value

The text of a value is written with the tokens of the value, under every spacing whose blanks are
blanks.  The text of a value may be followed by anything that cannot belong to a number, which
holds for everything that is written behind a value: a blank, a comma or a closing bracket.

* `Value.tokens`: the tokens of a value;
* `allWritten_text`: the text of a value is written with them.
-/

namespace EntityTables.Json

/-- The blanks of a spacing are blanks. -/
structure Spacing.Blank (spacing : Spacing) : Prop where
  newline : ∀ depth, ∀ c ∈ spacing.newline depth, isBlank c
  afterColon : ∀ c ∈ spacing.afterColon, isBlank c

theorem Spacing.blank_compact : Spacing.compact.Blank where
  newline _ _ hc := absurd hc List.not_mem_nil
  afterColon _ hc := absurd hc List.not_mem_nil

theorem Spacing.blank_indented : Spacing.indented.Blank where
  newline depth c hc := by
    rcases List.mem_cons.mp hc with rfl | hspace
    · rfl
    · rw [List.eq_of_mem_replicate hspace]
      rfl
  afterColon c hc := by
    rw [List.mem_singleton.mp hc]
    rfl

namespace Value

mutual

/-- The tokens of a value. -/
def tokens : Value → List Token
  | .null => [.null]
  | .bool value => [.bool value]
  | .number value => [.number (.ofInt value)]
  | .string text => [.string (.ofText text)]
  | .array [] => [.openBracket, .closeBracket]
  | .array (first :: rest) =>
    .openBracket :: first.tokens ++ itemsTokens rest ++ [.closeBracket]
  | .object [] => [.openBrace, .closeBrace]
  | .object ((key, first) :: rest) =>
    .openBrace :: .string (.ofText key) :: .colon :: first.tokens ++ membersTokens rest ++
      [.closeBrace]

def itemsTokens : List Value → List Token
  | [] => []
  | item :: rest => .comma :: item.tokens ++ itemsTokens rest

def membersTokens : List (String × Value) → List Token
  | [] => []
  | (key, value) :: rest =>
    .comma :: .string (.ofText key) :: .colon :: value.tokens ++ membersTokens rest

end

end Value

/-! ## What stands behind a value -/

theorem isDelimiter_of_isBlank {c : Char} (hblank : isBlank c) : isDelimiter c := by
  simp only [isBlank, Bool.or_eq_true, beq_iff_eq] at hblank
  rcases hblank with ((rfl | rfl) | rfl) | rfl <;> rfl

/-- Blanks in front of a delimiter are delimiters themselves. -/
theorem delimited_blanks {blanks rest : List Char} (hblanks : ∀ c ∈ blanks, isBlank c)
    (hrest : Delimited rest) : Delimited (blanks ++ rest) := by
  cases blanks with
  | nil => exact hrest
  | cons c blanks =>
      exact delimited_cons (isDelimiter_of_isBlank (hblanks c List.mem_cons_self)) _

section

variable {spacing : Spacing}

theorem delimited_itemsText (depth : Nat) (items : List Value) {rest : List Char}
    (hrest : Delimited rest) : Delimited (Value.itemsText spacing depth items ++ rest) := by
  cases items with
  | nil => exact hrest
  | cons item items =>
      simp only [Value.itemsText, List.cons_append]
      exact delimited_cons (by decide) _

theorem delimited_membersText (depth : Nat) (members : List (String × Value)) {rest : List Char}
    (hrest : Delimited rest) : Delimited (Value.membersText spacing depth members ++ rest) := by
  cases members with
  | nil => exact hrest
  | cons member members =>
      simp only [Value.membersText, List.cons_append]
      exact delimited_cons (by decide) _

end

/-! ## Tokens in front of others -/

namespace Token.AllWritten

variable {tokens : List Token} {rest : List Char}

theorem token {token : Token} {text : List Char} (htoken : token.Written text)
    (hend : token.isNumber → Delimited rest) (hrest : AllWritten tokens rest) :
    AllWritten (token :: tokens) (text ++ rest) :=
  .cons (List.forall_mem_nil _) htoken hend hrest

theorem mark {token : Token} {c : Char} (hmark : Token.ofMark? c = some token)
    (hrest : AllWritten tokens rest) : AllWritten (token :: tokens) (c :: rest) := by
  refine .token (.mark hmark) ?_ hrest
  intro hnumber
  unfold Token.ofMark? at hmark
  split at hmark <;> cases hmark <;> contradiction

theorem blanks {blanks : List Char} (hblanks : ∀ c ∈ blanks, isBlank c)
    (hrest : AllWritten tokens rest) : AllWritten tokens (blanks ++ rest) := by
  cases hrest with
  | nil hmore =>
      exact .nil (List.forall_mem_append.mpr ⟨hblanks, hmore⟩)
  | cons hmore htoken hend hrest =>
      rw [← List.append_assoc]
      exact .cons (List.forall_mem_append.mpr ⟨hblanks, hmore⟩) htoken hend hrest

theorem stringText (text : String) (hrest : AllWritten tokens rest) :
    AllWritten (.string (.ofText text) :: tokens) (stringText text ++ rest) :=
  .token (.string (Literal.written_stringText text)) Bool.noConfusion hrest

end Token.AllWritten

/-! ## Values -/

section Values

variable {spacing : Spacing} (hspacing : spacing.Blank)
include hspacing

mutual

/-- The text of a value is written with the tokens of the value. -/
theorem allWritten_textAt (value : Value) (depth : Nat) {behind : List Token} {rest : List Char}
    (hbehind : Token.AllWritten behind rest) (hrest : Delimited rest) :
    Token.AllWritten (value.tokens ++ behind) (value.textAt spacing depth ++ rest) := by
  match value with
  | .null => exact .token .null Bool.noConfusion hbehind
  | .bool true => exact .token .true Bool.noConfusion hbehind
  | .bool false => exact .token .false Bool.noConfusion hbehind
  | .number value =>
      exact .token (.number (Numeral.written_numberText value)) (fun _ => hrest) hbehind
  | .string text => exact hbehind.stringText text
  | .array [] => exact (hbehind.mark rfl).mark rfl
  | .array (first :: items) =>
      have hclose := (hbehind.mark (c := ']') rfl).blanks (hspacing.newline depth)
      -- a number as the last item is cut off by a blank or by the bracket
      have hend : Delimited (spacing.newline depth ++ ']' :: rest) :=
        delimited_blanks (hspacing.newline depth) (delimited_cons (by decide) rest)
      have hitems := allWritten_itemsText items (depth + 1) hclose hend
      have hfirst := allWritten_textAt first (depth + 1) hitems
        (delimited_itemsText (depth + 1) items hend)
      have hopen := (hfirst.blanks (hspacing.newline (depth + 1))).mark (c := '[') rfl
      simpa [Value.tokens, Value.textAt] using hopen
  | .object [] => exact (hbehind.mark rfl).mark rfl
  | .object ((key, first) :: members) =>
      have hclose := (hbehind.mark (c := '\x7d') rfl).blanks (hspacing.newline depth)
      have hend : Delimited (spacing.newline depth ++ '\x7d' :: rest) :=
        delimited_blanks (hspacing.newline depth) (delimited_cons (by decide) rest)
      have hmembers := allWritten_membersText members (depth + 1) hclose hend
      have hfirst := allWritten_textAt first (depth + 1) hmembers
        (delimited_membersText (depth + 1) members hend)
      have hkey := ((hfirst.blanks hspacing.afterColon).mark (c := ':') rfl).stringText key
      have hopen := (hkey.blanks (hspacing.newline (depth + 1))).mark (c := '\x7b') rfl
      simpa [Value.tokens, Value.textAt] using hopen

theorem allWritten_itemsText (items : List Value) (depth : Nat) {behind : List Token}
    {rest : List Char} (hbehind : Token.AllWritten behind rest) (hrest : Delimited rest) :
    Token.AllWritten (Value.itemsTokens items ++ behind)
      (Value.itemsText spacing depth items ++ rest) := by
  match items with
  | [] => exact hbehind
  | item :: items =>
      have hitems := allWritten_itemsText items depth hbehind hrest
      have hitem := allWritten_textAt item depth hitems (delimited_itemsText depth items hrest)
      have hcomma := (hitem.blanks (hspacing.newline depth)).mark (c := ',') rfl
      simpa [Value.itemsTokens, Value.itemsText] using hcomma

theorem allWritten_membersText (members : List (String × Value)) (depth : Nat)
    {behind : List Token} {rest : List Char} (hbehind : Token.AllWritten behind rest)
    (hrest : Delimited rest) :
    Token.AllWritten (Value.membersTokens members ++ behind)
      (Value.membersText spacing depth members ++ rest) := by
  match members with
  | [] => exact hbehind
  | (key, value) :: members =>
      have hmembers := allWritten_membersText members depth hbehind hrest
      have hvalue := allWritten_textAt value depth hmembers
        (delimited_membersText depth members hrest)
      have hkey := ((hvalue.blanks hspacing.afterColon).mark (c := ':') rfl).stringText key
      have hcomma := (hkey.blanks (hspacing.newline depth)).mark (c := ',') rfl
      simpa [Value.membersTokens, Value.membersText] using hcomma

end

/-- The text of a value is written with the tokens of the value and nothing else. -/
theorem allWritten_text (value : Value) :
    Token.AllWritten value.tokens (value.text spacing).toList := by
  have hwritten := allWritten_textAt hspacing value 0 (.nil (List.forall_mem_nil _)) delimited_nil
  simpa [Value.text] using hwritten

end Values

end EntityTables.Json
