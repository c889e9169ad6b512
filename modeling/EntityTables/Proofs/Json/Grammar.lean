import Mathlib.Data.List.Forall2
import EntityTables.Json.Token

/-!
# The grammar of tokens

A token can be written in several ways: a character of a string as it is or by an escape, the
exponent of a number with or without a plus sign.  `Token.Written` says in which, and
`Token.AllWritten` allows blanks between tokens.  A text that is written so is cut into the tokens
that were written.  Only a number has to be told apart from the text behind it: that text must not
go on with a character that could belong to the number.

* `Piece.Written`, `Numeral.Written`, `Token.Written`: how tokens are written;
* `scanLiteral_pieces`, `scanNumeral_written`: strings and numbers are scanned as they were written;
* `tokens_written`: a token is cut off from the text behind it;
* `Token.AllWritten.tokens_eq`: a text is cut into the tokens that were written.
-/

namespace EntityTables.Json

/-! ## Strings -/

/-- How a piece of a string is written. -/
inductive Piece.Written : Piece → List Char → Prop
  | plain {c : Char} (hquote : c ≠ '"') (hbackslash : c ≠ '\\') (hplain : ¬c.toNat < 0x20) :
      Written (.char c) [c]
  | short {c escaped : Char} (hescape : shortEscape? c = some escaped) :
      Written (.char escaped) ['\\', c]
  | unit {a b c d : Char} {code : Nat} (hcode : hexUnit? a b c d = some code) :
      Written (.unit code) ['\\', 'u', a, b, c, d]

/-- A string is written piece by piece, between quotes. -/
structure Literal.Written (literal : Literal) (text : List Char) : Prop where
  fault_eq : literal.fault = none
  pieces : ∃ texts, List.Forall₂ Piece.Written literal.pieces texts ∧
    text = '"' :: texts.flatten ++ ['"']

/-- A piece is scanned as it was written. -/
theorem scanLiteral_written {piece : Piece} {text : List Char} (hpiece : piece.Written text)
    (rest : List Char) :
    scanLiteral (text ++ rest) = Literal.prepend piece (scanLiteral rest) := by
  cases hpiece with
  | plain hquote hbackslash hplain =>
      rw [List.singleton_append, scanLiteral, if_neg hplain] <;> simp [hquote, hbackslash]
  | @short c escaped hescape =>
      have hunit : c ≠ 'u' := by
        rintro rfl
        simp [shortEscape?] at hescape
      rw [List.cons_append, List.singleton_append, scanLiteral, hescape]
      intro a b c' d rest' hc
      exact absurd hc hunit
  | unit hcode => simp only [List.cons_append, List.nil_append, scanLiteral, hcode]

/-- The pieces of a string are scanned up to its closing quote. -/
theorem scanLiteral_pieces {pieces : List Piece} {texts : List (List Char)}
    (hpieces : List.Forall₂ Piece.Written pieces texts) (rest : List Char) :
    scanLiteral (texts.flatten ++ '"' :: rest) = (⟨pieces, none⟩, rest) := by
  induction hpieces with
  | nil => simp [scanLiteral]
  | cons hpiece hpieces ih =>
      rw [List.flatten_cons, List.append_assoc, scanLiteral_written hpiece, ih]
      rfl

theorem scanToken_string {literal : Literal} {text : List Char} (hliteral : literal.Written text)
    (rest : List Char) :
    ∃ more, text ++ rest = '"' :: more ∧ scanToken '"' more = (.string literal, rest) := by
  obtain ⟨hfault, texts, hpieces, rfl⟩ := hliteral
  obtain ⟨pieces, fault⟩ := literal
  obtain rfl : fault = none := hfault
  refine ⟨texts.flatten ++ '"' :: rest, by simp, ?_⟩
  simp only [scanToken, scanLiteral_pieces hpieces]

/-! ## Words -/

theorem scanWord_append (token : Token) (letters rest : List Char) :
    scanWord token letters (letters ++ rest) = (token, rest) := by
  induction letters with
  | nil => cases rest <;> rfl
  | cons letter letters ih => rw [List.cons_append, scanWord, if_pos rfl, ih]

/-! ## Numbers -/

/-- Digits of a number, at least one. -/
def AreDigits (digits : List Char) : Prop :=
  digits ≠ [] ∧ ∀ c ∈ digits, c.isDigit

/-- The sign of an exponent; a plus sign may be left out. -/
def signTexts (negative : Bool) : List (List Char) :=
  if negative then [['-']] else [[], ['+']]

/-- How the exponent of a number is written, if there is one. -/
inductive Exponent.Written : Option Exponent → List Char → Prop
  | none : Written none []
  | some {exponent : Exponent} {mark : Char} {sign : List Char} (hmark : mark = 'e' ∨ mark = 'E')
      (hsign : sign ∈ signTexts exponent.negative) (hdigits : AreDigits exponent.digits) :
      Written (some exponent) (mark :: sign ++ exponent.digits)

/-- How the digits behind a point are written, if there are any. -/
def fractionText (fraction : List Char) : List Char :=
  if fraction = [] then [] else '.' :: fraction

/-- How a number is written behind its sign. -/
structure Numeral.WrittenUnsigned (numeral : Numeral) (text : List Char) : Prop where
  whole : AreDigits numeral.whole
  /-- Only zero is written with a zero in front. -/
  whole_eq : numeral.whole.head? = some '0' → numeral.whole = ['0']
  fraction : ∀ c ∈ numeral.fraction, c.isDigit
  text_eq : ∃ exponent, Exponent.Written numeral.exponent exponent ∧
    text = numeral.whole ++ (fractionText numeral.fraction ++ exponent)

/-- How a number is written. -/
def Numeral.Written (numeral : Numeral) (text : List Char) : Prop :=
  ∃ unsigned, numeral.WrittenUnsigned unsigned ∧
    text = (if numeral.negative then ['-'] else []) ++ unsigned

/-- A character that ends a number. -/
def isDelimiter (c : Char) : Bool :=
  !c.isDigit && c != '.' && c != 'e' && c != 'E'

/-- The text does not go on with a character of a number. -/
def Delimited (text : List Char) : Prop :=
  ∀ c ∈ text.head?, isDelimiter c

theorem Delimited.head {text : List Char} (htext : Delimited text) {c : Char}
    (hc : c ∈ text.head?) : c.isDigit = false ∧ c ≠ '.' ∧ c ≠ 'e' ∧ c ≠ 'E' := by
  have hdelimiter := htext c hc
  simp only [isDelimiter, Bool.and_eq_true, Bool.not_eq_true', bne_iff_ne] at hdelimiter
  obtain ⟨⟨⟨hdigit, hpoint⟩, hsmall⟩, hlarge⟩ := hdelimiter
  exact ⟨hdigit, hpoint, hsmall, hlarge⟩

theorem delimited_nil : Delimited [] := by
  intro c hc
  simp at hc

theorem delimited_cons {c : Char} (hc : isDelimiter c) (rest : List Char) :
    Delimited (c :: rest) := by
  intro first hfirst
  obtain rfl := Option.some.inj hfirst
  exact hc

/-- Digits are scanned up to the first character that is no digit. -/
theorem scanDigits_append {digits rest : List Char} (hdigits : AreDigits digits)
    (hrest : ∀ c ∈ rest.head?, c.isDigit = false) :
    scanDigits (digits ++ rest) = .ok (digits, rest) := by
  obtain ⟨hne, hdigits⟩ := hdigits
  have hstop : rest.takeWhile Char.isDigit = [] ∧ rest.dropWhile Char.isDigit = rest := by
    cases rest with
    | nil => exact ⟨rfl, rfl⟩
    | cons c rest => simp [hrest c rfl]
  have htake : (digits ++ rest).takeWhile Char.isDigit = digits := by
    rw [List.takeWhile_append_of_pos hdigits, hstop.1, List.append_nil]
  have hdrop : (digits ++ rest).dropWhile Char.isDigit = rest := by
    rw [List.dropWhile_append_of_pos hdigits, hstop.2]
  obtain ⟨digit, more, rfl⟩ := List.exists_cons_of_ne_nil hne
  simp only [scanDigits, htake, hdrop]

theorem scanWhole_append {digits rest : List Char} (hdigits : AreDigits digits)
    (hzero : digits.head? = some '0' → digits = ['0'])
    (hrest : ∀ c ∈ rest.head?, c.isDigit = false) :
    scanWhole (digits ++ rest) = .ok (digits, rest) := by
  have hnot : ¬(digits.head? = some '0' ∧ digits ≠ ['0']) := by
    rintro ⟨hhead, hne⟩
    exact hne (hzero hhead)
  simp only [scanWhole, scanDigits_append hdigits hrest, bind, Except.bind, if_neg hnot]

theorem scanFraction_append {fraction rest : List Char} (hfraction : ∀ c ∈ fraction, c.isDigit)
    (hrest : ∀ c ∈ rest.head?, c.isDigit = false ∧ c ≠ '.') :
    scanFraction (fractionText fraction ++ rest) = .ok (fraction, rest) := by
  by_cases hempty : fraction = []
  · rw [fractionText, if_pos hempty, List.nil_append, hempty]
    cases rest with
    | nil => rfl
    | cons c rest =>
        rw [scanFraction]
        simpa using (hrest c rfl).2
  · rw [fractionText, if_neg hempty, List.cons_append, scanFraction]
    exact scanDigits_append ⟨hempty, hfraction⟩ fun c hc => (hrest c hc).1

/-- A sign is told apart from the digits behind it. -/
theorem scanSign_append {negative : Bool} {sign digits : List Char}
    (hsign : sign ∈ signTexts negative) (hdigits : AreDigits digits) (rest : List Char) :
    scanSign (sign ++ (digits ++ rest)) = (negative, digits ++ rest) := by
  cases negative with
  | true =>
      obtain rfl := List.mem_singleton.mp hsign
      rfl
  | false =>
      obtain rfl | rfl : sign = [] ∨ sign = ['+'] := by simpa [signTexts] using hsign
      · obtain ⟨digit, more, rfl⟩ := List.exists_cons_of_ne_nil hdigits.1
        have hdigit := hdigits.2 digit List.mem_cons_self
        have hminus : digit ≠ '-' := by
          rintro rfl
          exact absurd hdigit (by decide)
        have hplus : digit ≠ '+' := by
          rintro rfl
          exact absurd hdigit (by decide)
        rw [List.nil_append, List.cons_append, scanSign] <;> simp [hminus, hplus]
      · rfl

theorem scanExponent_append {exponent : Option Exponent} {text rest : List Char}
    (hexponent : Exponent.Written exponent text) (hrest : Delimited rest) :
    scanExponent (text ++ rest) = .ok (exponent, rest) := by
  cases hexponent with
  | none =>
      cases rest with
      | nil => rfl
      | cons c rest =>
          obtain ⟨-, -, hsmall, hlarge⟩ := hrest.head rfl
          rw [List.nil_append, scanExponent, if_neg (by simp [hsmall, hlarge])]
  | some hmark hsign hdigits =>
      have hstop : ∀ c ∈ rest.head?, c.isDigit = false := fun c hc => (hrest.head hc).1
      simp only [List.cons_append, List.append_assoc, scanExponent, if_pos hmark,
        scanSign_append hsign hdigits, scanDigits_append hdigits hstop, bind, Except.bind]

/-- Neither a digit nor a point stands behind the digits of a number. -/
theorem exponent_head {exponent : Option Exponent} {text rest : List Char}
    (hexponent : Exponent.Written exponent text) (hrest : Delimited rest) :
    ∀ c ∈ (text ++ rest).head?, c.isDigit = false ∧ c ≠ '.' := by
  intro c hc
  cases hexponent with
  | none =>
      obtain ⟨hdigit, hpoint, -, -⟩ := hrest.head hc
      exact ⟨hdigit, hpoint⟩
  | some hmark hsign hdigits =>
      obtain rfl := Option.some.inj hc
      rcases hmark with rfl | rfl <;> decide

/-- A number is scanned as it was written, up to a delimiter. -/
theorem scanNumeral_written {numeral : Numeral} {text rest : List Char}
    (hnumeral : numeral.WrittenUnsigned text) (hrest : Delimited rest) :
    scanNumeral numeral.negative (text ++ rest) = .ok (numeral, rest) := by
  obtain ⟨hwhole, hzero, hfraction, exponent, hexponent, rfl⟩ := hnumeral
  have hbehind := exponent_head hexponent hrest
  have hstop : ∀ c ∈ (fractionText numeral.fraction ++ (exponent ++ rest)).head?,
      c.isDigit = false := by
    intro c hc
    unfold fractionText at hc
    split at hc
    · exact (hbehind c hc).1
    · obtain rfl := Option.some.inj hc
      rfl
  simp only [List.append_assoc, scanNumeral, scanWhole_append hwhole hzero hstop,
    scanFraction_append hfraction hbehind, scanExponent_append hexponent hrest, bind, Except.bind]

/-! ## Tokens -/

/-- The token of a character that is one by itself. -/
def Token.ofMark? : Char → Option Token
  | '[' => some .openBracket
  | ']' => some .closeBracket
  | '\x7b' => some .openBrace
  | '\x7d' => some .closeBrace
  | ',' => some .comma
  | ':' => some .colon
  | _ => none

/-- How a token is written. -/
inductive Token.Written : Token → List Char → Prop
  | mark {c : Char} {token : Token} (hmark : Token.ofMark? c = some token) : Written token [c]
  | null : Written .null ['n', 'u', 'l', 'l']
  | true : Written (.bool true) ['t', 'r', 'u', 'e']
  | false : Written (.bool false) ['f', 'a', 'l', 's', 'e']
  | number {numeral : Numeral} {text : List Char} (hnumeral : numeral.Written text) :
      Written (.number numeral) text
  | string {literal : Literal} {text : List Char} (hliteral : literal.Written text) :
      Written (.string literal) text

def Token.isNumber : Token → Bool
  | .number _ => true
  | _ => false

/-- How tokens are written one behind the other, with blanks between them.  A number goes on as
far as it can. -/
inductive Token.AllWritten : List Token → List Char → Prop
  | nil {blanks : List Char} (hblanks : ∀ c ∈ blanks, isBlank c) : AllWritten [] blanks
  | cons {token : Token} {tokens : List Token} {blanks text rest : List Char}
      (hblanks : ∀ c ∈ blanks, isBlank c) (htoken : token.Written text)
      (hend : token.isNumber → Delimited rest) (hrest : AllWritten tokens rest) :
      AllWritten (token :: tokens) (blanks ++ (text ++ rest))

/-- Blanks have no tokens. -/
theorem tokens_blanks {blanks : List Char} (hblanks : ∀ c ∈ blanks, isBlank c)
    (rest : List Char) : tokens (blanks ++ rest) = tokens rest := by
  induction blanks with
  | nil => rfl
  | cons c blanks ih =>
      obtain ⟨hc, hblanks⟩ := List.forall_mem_cons.mp hblanks
      rw [List.cons_append, tokens, if_pos hc, ih hblanks]

theorem tokens_cons {c : Char} (hc : ¬isBlank c) {rest behind : List Char} {token : Token}
    (hscan : scanToken c rest = (token, behind)) :
    tokens (c :: rest) = token :: tokens behind := by
  rw [tokens, if_neg hc, hscan]

theorem tokens_mark (c : Char) {token : Token} (hmark : Token.ofMark? c = some token)
    (rest : List Char) : tokens (c :: rest) = token :: tokens rest := by
  unfold Token.ofMark? at hmark
  split at hmark
  iterate 6
    obtain rfl := Option.some.inj hmark
    exact tokens_cons (by decide) rfl
  contradiction

/-- A digit starts a number. -/
theorem scanToken_digit {c : Char} (hc : c.isDigit) (rest : List Char) :
    scanToken c rest = numberToken (scanNumeral false (c :: rest)) := by
  unfold scanToken
  split
  all_goals first
    | (rw [if_pos hc])
    | (exact absurd hc (by decide))

theorem not_isBlank_of_isDigit {c : Char} (hc : c.isDigit) : ¬isBlank c := by
  intro hblank
  simp only [isBlank, Bool.or_eq_true, beq_iff_eq] at hblank
  rcases hblank with ((rfl | rfl) | rfl) | rfl <;> exact absurd hc (by decide)

/-- A number is cut off by what stands behind it. -/
theorem tokens_numeral {numeral : Numeral} {text rest : List Char}
    (hnumeral : numeral.Written text) (hrest : Delimited rest) :
    tokens (text ++ rest) = .number numeral :: tokens rest := by
  obtain ⟨unsigned, hunsigned, rfl⟩ := hnumeral
  have hscan := scanNumeral_written hunsigned hrest
  by_cases hnegative : numeral.negative
  · rw [hnegative] at hscan
    rw [if_pos hnegative, List.singleton_append, List.cons_append]
    exact tokens_cons (by decide) (by simp only [scanToken, hscan, numberToken])
  · rw [Bool.eq_false_iff.mpr hnegative] at hscan
    rw [if_neg hnegative, List.nil_append]
    -- without a sign the first digit is where the number starts
    obtain ⟨digit, digits, hdigits⟩ := List.exists_cons_of_ne_nil hunsigned.whole.1
    have hdigit : digit.isDigit := hunsigned.whole.2 digit (hdigits ▸ List.mem_cons_self)
    obtain ⟨exponent, -, rfl⟩ := hunsigned.text_eq
    rw [hdigits, List.cons_append, List.cons_append] at hscan ⊢
    exact tokens_cons (not_isBlank_of_isDigit hdigit)
      (by rw [scanToken_digit hdigit, hscan]; rfl)

/-- A token is cut off from the text behind it. -/
theorem tokens_written {token : Token} {text rest : List Char} (htoken : token.Written text)
    (hend : token.isNumber → Delimited rest) :
    tokens (text ++ rest) = token :: tokens rest := by
  cases htoken with
  | mark hmark => exact tokens_mark _ hmark rest
  | null => exact tokens_cons (by decide) (scanWord_append _ _ _)
  | true => exact tokens_cons (by decide) (scanWord_append _ _ _)
  | false => exact tokens_cons (by decide) (scanWord_append _ _ _)
  | number hnumeral => exact tokens_numeral hnumeral (hend rfl)
  | string hliteral =>
      obtain ⟨more, htext, hscan⟩ := scanToken_string hliteral rest
      rw [htext, tokens_cons (by decide) hscan]

/-- A text is cut into the tokens that were written. -/
theorem Token.AllWritten.tokens_eq {written : List Token} {text : List Char}
    (htext : AllWritten written text) : tokens text = written := by
  induction htext with
  | nil hblanks =>
      have htokens := tokens_blanks hblanks []
      rwa [List.append_nil, tokens] at htokens
  | cons hblanks htoken hend _ ih => rw [tokens_blanks hblanks, tokens_written htoken hend, ih]

end EntityTables.Json
