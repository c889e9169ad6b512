import EntityTables.Json.Choice
import EntityTables.Proofs.Json.Nodes

/-!
# Lawful codecs

A codec is lawful when it reads back what it writes.  It must not write a value as `null`, which
stands for an absent value wherever a value may be absent.

* `Codec.Lawful`: what a lawful codec is;
* `Codec.lawful_string`, `lawful_bool`, `lawful_uint32`, `lawful_list`: the simple codecs;
* `Choice.lawful_codec`: a choice is lawful when every variant is found under its name;
* `Codec.ofText_written`: a text is read as the tree from which it was written;
* `Codec.Lawful.ofText_toText`: a written text is read back.
-/

namespace EntityTables.Json

/-- The codec reads back what it writes, and never writes `null`. -/
structure Codec.Lawful {α : Type} (codec : Codec α) : Prop where
  read_write : ∀ value, codec.read (codec.write value).node = .ok value
  write_ne_null : ∀ value, codec.write value ≠ .null

/-! ## Tokens and numerals -/

@[simp] theorem Token.readText_ofText (expected text : String) :
    Token.readText expected (.string (.ofText text)) = .ok text := by
  simp [Token.readText]

@[simp] theorem Token.readKey_ofText (text : String) :
    Token.readKey (.string (.ofText text)) = .ok text := by
  simp [Token.readKey]

/-- A whole number without sign that fits into 64 bits is read as it is written. -/
theorem Numeral.value?_of_isWhole {numeral : Numeral} (hwhole : numeral.isWhole)
    (hsign : numeral.negative = false) (hsize : Nat.ofDigitChars 10 numeral.whole 0 < UInt64.size) :
    numeral.value? = some (.integer (Nat.ofDigitChars 10 numeral.whole 0)) := by
  have hfits : numeral.isWhole ∧ !numeral.negative ∧
      Nat.ofDigitChars 10 numeral.whole 0 < UInt64.size := by
    rw [hsign]
    exact ⟨hwhole, rfl, hsize⟩
  unfold Numeral.value?
  dsimp only
  rw [if_pos hfits]

theorem Numeral.negative_ofInt (n : Nat) : (Numeral.ofInt n).negative = false := by
  show decide ((n : Int) < 0) = false
  exact decide_eq_false (by omega)

theorem Numeral.value?_ofInt {n : Nat} (hn : n < UInt64.size) :
    (Numeral.ofInt n).value? = some (.integer n) := by
  have hsize : Nat.ofDigitChars 10 (Numeral.ofInt n).whole 0 = n := Nat.ofDigitChars_ten_toDigits
  rw [Numeral.value?_of_isWhole rfl (Numeral.negative_ofInt n) (by rwa [hsize]), hsize]

namespace Codec

variable {α : Type} {codec : Codec α}

/-! ## Simple codecs -/

theorem lawful_string : string.Lawful where
  read_write text := by
    show Token.readText "a string" (.string (.ofText text)) = .ok text
    exact Token.readText_ofText _ _
  write_ne_null _ := Value.noConfusion

theorem lawful_bool : bool.Lawful where
  read_write _ := rfl
  write_ne_null _ := Value.noConfusion

theorem uint32_read_of_value? {numeral : Numeral} {value : UInt32}
    (hvalue : numeral.value? = some (.integer value.toNat)) :
    uint32.read (.leaf (.number numeral)) = .ok value := by
  have hlt : value.toNat < UInt32.size := value.toNat_lt_size
  have hfits : 0 ≤ (value.toNat : Int) ∧ (value.toNat : Int) < UInt32.size := by omega
  have hread : uint32.read (.leaf (.number numeral)) = uint32OfNumber (.integer value.toNat) := by
    simp only [uint32, hvalue]
  rw [hread, uint32OfNumber, if_pos hfits, Int.toNat_natCast, UInt32.ofNat_toNat]

theorem lawful_uint32 : uint32.Lawful where
  read_write value := by
    have hlt : value.toNat < UInt64.size := Nat.lt_trans value.toNat_lt_size (by decide)
    exact uint32_read_of_value? (Numeral.value?_ofInt hlt)
  write_ne_null _ := Value.noConfusion

theorem mapM_read_write (hcodec : codec.Lawful) (values : List α) :
    ((values.map codec.write).map Value.node).mapM codec.read = .ok values := by
  induction values with
  | nil => rfl
  | cons value values ih =>
      rw [List.map_cons, List.map_cons, List.mapM_cons, hcodec.read_write, ih]
      rfl

theorem lawful_list (hcodec : codec.Lawful) : codec.list.Lawful where
  read_write values := by
    show (do
      let values ← (Value.itemNodes (values.map codec.write)).mapM codec.read
      Ending.closed.check
      pure values) = .ok values
    rw [Value.itemNodes_eq_map, mapM_read_write hcodec]
    rfl
  write_ne_null _ := Value.noConfusion

theorem optional_read {node : Node} (hnode : node ≠ .leaf .null) :
    codec.optional.read node = some <$> codec.read node := by
  unfold optional
  dsimp only
  split
  · contradiction
  · rfl

/-- A value that may be absent is read back although `null` is written for an absent one. -/
theorem optional_read_write (hcodec : codec.Lawful) (value : Option α) :
    codec.optional.read (codec.optional.write value).node = .ok value := by
  cases value with
  | none => rfl
  | some value =>
      -- only `null` has the tree that stands for an absent value
      have hnode : (codec.write value).node ≠ .leaf .null := by
        have hwritten := hcodec.write_ne_null value
        cases hwrite : codec.write value <;> simp_all [Value.node]
      calc
        codec.optional.read (codec.write value).node
            = some <$> codec.read (codec.write value).node := optional_read hnode
        _ = some <$> .ok value := by rw [hcodec.read_write]
        _ = .ok (some value) := rfl

/-! ## Texts -/

/-- A text is read as the tree from which it was written. -/
theorem ofText_written (codec : Codec α) {node : Node} {text : String}
    (htext : node.Written text) : codec.ofText text = codec.read node := by
  rw [ofText, htext.ofText_eq]
  show (do
    let value ← codec.read node
    if false then .error .malformed else .ok value) = codec.read node
  cases codec.read node <;> rfl

/-- What a lawful codec writes as a text it reads back. -/
theorem Lawful.ofText_toText (hcodec : codec.Lawful) {spacing : Spacing}
    (hspacing : spacing.Blank) (value : α) :
    codec.ofText (codec.toText spacing value) = .ok value := by
  rw [toText, ofText_written codec (Value.written_text hspacing _), hcodec.read_write]

end Codec

/-! ## Choices -/

/-- A choice is lawful when every variant is found under its name. -/
theorem Choice.lawful_codec {α : Type} {choice : Choice α}
    (hvariants : ∀ value, choice.variants.lookup (choice.name value) = some value) :
    choice.codec.Lawful where
  read_write value := by
    show (do
      choice.ofName (← Token.readKey (.string (.ofText (choice.name value))))) = .ok value
    rw [Token.readKey_ofText]
    show choice.ofName (choice.name value) = .ok value
    rw [Choice.ofName, hvariants]
  write_ne_null _ := Value.noConfusion

end EntityTables.Json
