import EntityTables.Json.Numeral

/-!
# The tokens of a JSON text

A text is cut into tokens up to its end or to the first place that cannot belong to a token.
What is wrong there is a `Fault`; it ends the list of tokens, because nothing behind it is
ever looked at.  A string keeps its `\u` escapes as they are: whether surrogates come in pairs
matters only to a reader of the text, not to one that skips it.
-/

namespace EntityTables.Json

/-- Why a text cannot be read further. -/
inductive Fault where
  /-- The text ends where something has to follow. -/
  | ended
  /-- A character stands where it cannot. -/
  | unexpected
  /-- The text ends inside `null`, `true` or `false`. -/
  | cutWord
  /-- The text ends inside a number. -/
  | cutNumber
deriving DecidableEq, Repr

/-- A part of a string: a character, written as it is or by a short escape, or the 16-bit unit
of a `\u` escape. -/
inductive Piece where
  | char (c : Char)
  | unit (code : Nat)
deriving DecidableEq, Repr

/-- A string as it is written, with the fault that ends it in place of the closing quote. -/
structure Literal where
  pieces : List Piece
  fault : Option Fault := none
deriving DecidableEq, Repr

namespace Literal

def pairChar (high low : Nat) : Char :=
  Char.ofNat (0x10000 + (high - 0xD800) * 0x400 + (low - 0xDC00))

/-- The characters of a string.  A first surrogate has to be followed by a second one, and a
second one has to follow a first one; a string that stops short of that has the fault at which
it stops. -/
def charsOf (fault : Option Fault) : List Piece → Except Fault (List Char)
  | [] =>
    match fault with
    | none => .ok []
    | some f => .error f
  | .char c :: rest => (c :: ·) <$> charsOf fault rest
  | .unit code :: rest =>
    if code < 0xD800 ∨ 0xDFFF < code then
      (Char.ofNat code :: ·) <$> charsOf fault rest
    else if 0xDC00 ≤ code then
      .error .unexpected
    else
      match rest with
      | [] => .error (fault.getD .unexpected)
      | .char _ :: _ => .error .unexpected
      | .unit low :: rest =>
        if 0xDC00 ≤ low ∧ low ≤ 0xDFFF then
          (pairChar code low :: ·) <$> charsOf fault rest
        else
          .error .unexpected

def text (l : Literal) : Except Fault String :=
  String.ofList <$> charsOf l.fault l.pieces

end Literal

/-- A token, or the fault that stands in place of one. -/
inductive Token where
  | openBracket
  | closeBracket
  | openBrace
  | closeBrace
  | comma
  | colon
  | null
  | bool (value : Bool)
  | number (numeral : Numeral)
  | string (literal : Literal)
  | broken (fault : Fault)
deriving DecidableEq, Repr

/-- The blanks between tokens. -/
def isBlank (c : Char) : Bool :=
  c == ' ' || c == '\n' || c == '\t' || c == '\r'

def hexDigit? (c : Char) : Option Nat :=
  if '0' ≤ c ∧ c ≤ '9' then some (c.toNat - 48)
  else if 'a' ≤ c ∧ c ≤ 'f' then some (c.toNat - 87)
  else if 'A' ≤ c ∧ c ≤ 'F' then some (c.toNat - 55)
  else none

/-- The unit of four hexadecimal digits. -/
def hexUnit? (a b c d : Char) : Option Nat := do
  let a ← hexDigit? a
  let b ← hexDigit? b
  let c ← hexDigit? c
  let d ← hexDigit? d
  pure (((a * 16 + b) * 16 + c) * 16 + d)

def shortEscape? (c : Char) : Option Char :=
  match c with
  | '"' => some '"'
  | '\\' => some '\\'
  | '/' => some '/'
  | 'b' => some '\x08'
  | 'f' => some '\x0c'
  | 'n' => some '\n'
  | 'r' => some '\r'
  | 't' => some '\t'
  | _ => none

/-- The piece in front of the rest of a string. -/
def Literal.prepend (piece : Piece) (scanned : Literal × List Char) : Literal × List Char :=
  (⟨piece :: scanned.1.pieces, scanned.1.fault⟩, scanned.2)

/-- A string that stops at a fault; no text is left behind it. -/
def Literal.stopped (fault : Fault) : Literal × List Char :=
  (⟨[], some fault⟩, [])

/-- The string behind an opening quote, and the text behind its closing quote.  A `\u` escape
takes four bytes of the text, so it is cut off by the end of the text only where fewer are
left. -/
def scanLiteral : List Char → Literal × List Char
  | [] => Literal.stopped .ended
  | '"' :: rest => (⟨[], none⟩, rest)
  | ['\\'] => Literal.stopped .ended
  | '\\' :: 'u' :: a :: b :: c :: d :: rest =>
    match hexUnit? a b c d with
    | some code => Literal.prepend (.unit code) (scanLiteral rest)
    | none => Literal.stopped .unexpected
  | '\\' :: c :: rest =>
    match shortEscape? c with
    | some escaped => Literal.prepend (.char escaped) (scanLiteral rest)
    | none =>
      if c = 'u' ∧ (String.ofList rest).utf8ByteSize < 4 then Literal.stopped .ended
      else Literal.stopped .unexpected
  | c :: rest =>
    if c.toNat < 0x20 then Literal.stopped .unexpected
    else Literal.prepend (.char c) (scanLiteral rest)

/-- The rest of a word that stands for a token. -/
def scanWord (token : Token) : List Char → List Char → Token × List Char
  | [], text => (token, text)
  | _ :: _, [] => (.broken .cutWord, [])
  | expected :: letters, c :: text =>
    if c = expected then scanWord token letters text else (.broken .unexpected, [])

def scanDigits (text : List Char) : Except Fault (List Char × List Char) :=
  match text.takeWhile Char.isDigit with
  | [] => .error (if text.isEmpty then .cutNumber else .unexpected)
  | digit :: digits => .ok (digit :: digits, text.dropWhile Char.isDigit)

def scanWhole (text : List Char) : Except Fault (List Char × List Char) := do
  let (digits, rest) ← scanDigits text
  if digits.head? = some '0' ∧ digits ≠ ['0'] then .error .unexpected else .ok (digits, rest)

/-- The digits behind a point, none when there is no point. -/
def scanFraction : List Char → Except Fault (List Char × List Char)
  | '.' :: rest => scanDigits rest
  | text => .ok ([], text)

def scanSign : List Char → Bool × List Char
  | '-' :: rest => (true, rest)
  | '+' :: rest => (false, rest)
  | text => (false, text)

def scanExponent : List Char → Except Fault (Option Exponent × List Char)
  | c :: rest =>
    if c = 'e' ∨ c = 'E' then do
      let (negative, rest) := scanSign rest
      let (digits, rest) ← scanDigits rest
      .ok (some ⟨negative, digits⟩, rest)
    else
      .ok (none, c :: rest)
  | [] => .ok (none, [])

/-- A number behind its sign. -/
def scanNumeral (negative : Bool) (text : List Char) : Except Fault (Numeral × List Char) := do
  let (whole, text) ← scanWhole text
  let (fraction, text) ← scanFraction text
  let (exponent, text) ← scanExponent text
  .ok (⟨negative, whole, fraction, exponent⟩, text)

def numberToken : Except Fault (Numeral × List Char) → Token × List Char
  | .ok (numeral, rest) => (.number numeral, rest)
  | .error fault => (.broken fault, [])

/-- The token that starts with a character, and the text behind it. -/
def scanToken (c : Char) (rest : List Char) : Token × List Char :=
  match c with
  | '[' => (.openBracket, rest)
  | ']' => (.closeBracket, rest)
  | '\x7b' => (.openBrace, rest)
  | '\x7d' => (.closeBrace, rest)
  | ',' => (.comma, rest)
  | ':' => (.colon, rest)
  | 'n' => scanWord .null ['u', 'l', 'l'] rest
  | 't' => scanWord (.bool true) ['r', 'u', 'e'] rest
  | 'f' => scanWord (.bool false) ['a', 'l', 's', 'e'] rest
  | '"' =>
    let (literal, rest) := scanLiteral rest
    (.string literal, rest)
  | '-' => numberToken (scanNumeral true rest)
  | c => if c.isDigit then numberToken (scanNumeral false (c :: rest)) else (.broken .unexpected, [])

/-! ## A token takes text away -/

private theorem scanLiteral_rest_le (text : List Char) :
    (scanLiteral text).2.length ≤ text.length := by
  fun_induction scanLiteral text <;> simp_all [Literal.stopped, Literal.prepend] <;> omega

private theorem scanWord_rest_le (token : Token) (letters text : List Char) :
    (scanWord token letters text).2.length ≤ text.length := by
  fun_induction scanWord token letters text <;> simp_all
  omega

private theorem scanDigits_rest_lt {text : List Char} {scanned : List Char × List Char}
    (h : scanDigits text = .ok scanned) : scanned.2.length < text.length := by
  unfold scanDigits at h
  split at h
  · contradiction
  · rename_i digit more heq
    injection h with h
    subst h
    have hsplit := congrArg List.length
      (List.takeWhile_append_dropWhile (p := Char.isDigit) (l := text))
    rw [heq] at hsplit
    simp at hsplit
    simp only
    omega

private theorem scanWhole_rest_lt {text : List Char} {scanned : List Char × List Char}
    (h : scanWhole text = .ok scanned) : scanned.2.length < text.length := by
  unfold scanWhole at h
  cases hscan : scanDigits text with
  | error fault => simp [hscan, bind, Except.bind] at h
  | ok digits =>
    simp only [hscan, bind, Except.bind] at h
    split at h
    · contradiction
    · injection h with h
      exact h ▸ scanDigits_rest_lt hscan

private theorem scanFraction_rest_le {text : List Char} {scanned : List Char × List Char}
    (h : scanFraction text = .ok scanned) : scanned.2.length ≤ text.length := by
  unfold scanFraction at h
  split at h
  · have := scanDigits_rest_lt h
    simp only [List.length_cons]
    omega
  · injection h with h
    exact h ▸ Nat.le_refl _

private theorem scanSign_rest_le (text : List Char) :
    (scanSign text).2.length ≤ text.length := by
  unfold scanSign
  split <;> simp

private theorem scanExponent_rest_le {text : List Char} {scanned : Option Exponent × List Char}
    (h : scanExponent text = .ok scanned) : scanned.2.length ≤ text.length := by
  unfold scanExponent at h
  split at h
  · rename_i c more
    split at h
    · have hsign := scanSign_rest_le more
      cases hscan : scanDigits (scanSign more).2 with
      | error fault => simp [hscan, bind, Except.bind] at h
      | ok digits =>
        simp only [hscan, bind, Except.bind] at h
        injection h with h
        subst h
        have := scanDigits_rest_lt hscan
        simp only [List.length_cons]
        omega
    · injection h with h
      exact h ▸ Nat.le_refl _
  · injection h with h
    exact h ▸ Nat.le_refl _

private theorem scanNumeral_rest_lt {negative : Bool} {text : List Char}
    {scanned : Numeral × List Char} (h : scanNumeral negative text = .ok scanned) :
    scanned.2.length < text.length := by
  unfold scanNumeral at h
  cases hwhole : scanWhole text with
  | error fault => simp [hwhole, bind, Except.bind] at h
  | ok whole =>
    cases hfraction : scanFraction whole.2 with
    | error fault => simp [hwhole, hfraction, bind, Except.bind] at h
    | ok fraction =>
      cases hexponent : scanExponent fraction.2 with
      | error fault => simp [hwhole, hfraction, hexponent, bind, Except.bind] at h
      | ok exponent =>
        simp only [hwhole, hfraction, hexponent, bind, Except.bind] at h
        injection h with h
        subst h
        have h₁ := scanWhole_rest_lt hwhole
        have h₂ := scanFraction_rest_le hfraction
        have h₃ := scanExponent_rest_le hexponent
        simp only
        omega

private theorem numberToken_rest_lt {negative : Bool} {text : List Char} (h : text ≠ []) :
    (numberToken (scanNumeral negative text)).2.length < text.length := by
  cases hscan : scanNumeral negative text with
  | error fault => simpa [numberToken] using List.length_pos_iff.mpr h
  | ok scanned => exact scanNumeral_rest_lt hscan

theorem scanToken_rest_le (c : Char) (rest : List Char) :
    (scanToken c rest).2.length ≤ rest.length := by
  unfold scanToken
  split
  iterate 6 exact Nat.le_refl _
  iterate 3 exact scanWord_rest_le _ _ _
  · exact scanLiteral_rest_le _
  · cases rest with
    | nil => simp [scanNumeral, scanWhole, scanDigits, numberToken, bind, Except.bind]
    | cons digit more => exact Nat.le_of_lt (numberToken_rest_lt (List.cons_ne_nil _ _))
  · split
    · exact Nat.le_of_lt_succ (numberToken_rest_lt (List.cons_ne_nil _ _))
    · exact Nat.zero_le _

def tokens : List Char → List Token
  | [] => []
  | c :: rest =>
    if isBlank c then
      tokens rest
    else
      have := scanToken_rest_le c rest
      (scanToken c rest).1 :: tokens (scanToken c rest).2
termination_by text => text.length

end EntityTables.Json
