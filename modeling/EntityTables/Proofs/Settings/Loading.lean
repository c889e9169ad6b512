import EntityTables.Proofs.Json.Overrides
import EntityTables.Proofs.Settings.Rules

/-!
# Settings are loaded exactly

A text gives some of the settings, in any order and however the values are spelled.  Its settings
are the defaults with these in place of theirs.  They are accepted if and only if they are valid,
and otherwise the report is exact.  Settings that are accepted can be written and are read back,
because the text that is written gives all of them.

* `Setting.WrittenAs`: a member of an object gives a setting;
* `Setting.WrittenAs.overrides`: a member overrides its own setting and leaves the others;
* `Settings.ofText_written`, `Settings.ofText_toText`: what becomes of a text;
* `Settings.ofText_loads_exactly`: what is accepted, what is reported and what is read back.
-/

namespace EntityTables

open Json (Codec Field Node Record Spacing Token Value)

namespace Setting

/-- The value of the setting, as it is written. -/
def value : Setting → Value
  | varcharLength value | decimalPrecision value | decimalScale value => .number value.toNat
  | tableSuffix value | fileName value | dslPackage value | runtimePackage value => .string value

/-- The member of an object gives the setting. -/
structure WrittenAs (setting : Setting) (member : Token × Node) : Prop where
  key : member.1.readKey = .ok setting.key
  value : member.2.Spells setting.value

theorem WrittenAs.overrides {setting : Setting} {member : Token × Node}
    (hmember : setting.WrittenAs member) :
    Settings.record.Overrides setting.key setting.override member where
  key_eq := hmember.key
  known := by cases setting <;> simp [Settings.record, Field.defaulted, Setting.key]
  read_eq settings := by
    obtain ⟨-, hvalue⟩ := hmember
    cases setting with
    | varcharLength | decimalPrecision | decimalScale =>
        have hread := Codec.uint32_read_of_spells hvalue
        simpa [Settings.record, Field.defaulted, Setting.key, Setting.override] using hread
    | tableSuffix | fileName | dslPackage | runtimePackage =>
        have hread := Codec.string_read_of_spells hvalue
        simpa [Settings.record, Field.defaulted, Setting.key, Setting.override] using hread
  others_eq settings := by
    cases setting <;> simp [Settings.record, Field.defaulted, Setting.key, Setting.override]

end Setting

namespace Settings

theorem field_names_nodup : (record.fields.map Field.name).Nodup := by decide

/-- What a text does not give has its default. -/
theorem absent_eq_default : ∀ field ∈ record.fields, field.absent = some (field.get {}) := by
  simp [record, Field.defaulted]

theorem lawful_codec : record.codec.Lawful := by
  refine Record.lawful_codec field_names_nodup ?_
  simp only [record, List.forall_mem_cons]
  exact ⟨Field.lawful_defaulted Codec.lawful_uint32 _ _ _,
    Field.lawful_defaulted Codec.lawful_uint32 _ _ _,
    Field.lawful_defaulted Codec.lawful_uint32 _ _ _,
    Field.lawful_defaulted Codec.lawful_string _ _ _,
    Field.lawful_defaulted Codec.lawful_string _ _ _,
    Field.lawful_defaulted Codec.lawful_string _ _ _,
    Field.lawful_defaulted Codec.lawful_string _ _ _, List.forall_mem_nil _⟩

/-- A text that can be read is left with the check. -/
theorem ofText_of_read {text : String} {settings : Settings}
    (hread : record.codec.ofText text = .ok settings) : ofText text = settings.checked := by
  rw [ofText, ofTextUnchecked, hread]
  rfl

/-- The settings of a text are the defaults with the settings that it gives in place of theirs. -/
theorem ofText_written {overrides : List Setting} {members : List (Token × Node)} {text : String}
    (hkeys : (overrides.map Setting.key).Nodup)
    (hmembers : List.Forall₂ Setting.WrittenAs overrides members)
    (htext : (Node.object members .closed).Written text) :
    ofText text = (overriddenBy {} overrides).checked := by
  apply ofText_of_read
  rw [Codec.ofText_written _ htext]
  exact Record.read_overrides field_names_nodup absent_eq_default
    (hmembers.imp fun _ _ hmember => hmember.overrides) hkeys

/-- Only valid settings are accepted. -/
theorem valid_of_ofText {text : String} {settings : Settings} (htext : ofText text = .ok settings) :
    settings.Valid := by
  cases hread : ofTextUnchecked text with
  | error error =>
      rw [ofText, hread] at htext
      contradiction
  | ok unchecked =>
      rw [ofText, hread] at htext
      obtain ⟨hvalid, rfl⟩ := checked_eq_ok_iff.mp htext
      exact hvalid

/-- Valid settings are read back. -/
theorem ofText_toText {settings : Settings} (hvalid : settings.Valid) {spacing : Spacing}
    (hspacing : spacing.Blank) : ofText (record.codec.toText spacing settings) = .ok settings := by
  rw [ofText_of_read (lawful_codec.ofText_toText hspacing settings)]
  exact checked_eq_ok_iff.mpr ⟨hvalid, rfl⟩

/-- A text that gives some of the settings stands for the defaults with these in place of theirs.
It is accepted if and only if they are valid, and otherwise the report of them is exact.  Whatever
is accepted can be written and is read back. -/
theorem ofText_loads_exactly {overrides : List Setting} {members : List (Token × Node)}
    {text : String} (hkeys : (overrides.map Setting.key).Nodup)
    (hmembers : List.Forall₂ Setting.WrittenAs overrides members)
    (htext : (Node.object members .closed).Written text) :
    let settings := overriddenBy {} overrides
    (∀ setting, setting ∈ settings.all ↔ setting ∈ overrides ∨
      setting ∈ all {} ∧ setting.key ∉ overrides.map Setting.key) ∧
    (ofText text = .ok settings ↔ settings.Valid) ∧
    (¬settings.Valid → ∃ violations, ofText text = .error (.invalid violations) ∧
      settings.ReportedAs violations) ∧
    ∀ source accepted, ofText source = .ok accepted → ∀ spacing : Spacing, spacing.Blank →
      ofText (record.codec.toText spacing accepted) = .ok accepted := by
  intro settings
  have hload : ofText text = settings.checked := ofText_written hkeys hmembers htext
  refine ⟨fun setting => mem_all_overriddenBy hkeys, ?_, ?_, ?_⟩
  · rw [hload, checked_eq_ok_iff]
    exact and_iff_left rfl
  · intro hvalid
    exact ⟨settings.violations, hload.trans (checked_of_not_valid hvalid),
      reportedAs_violations hvalid⟩
  · intro source accepted haccepted spacing hspacing
    exact ofText_toText (valid_of_ofText haccepted) hspacing

/-! ## Two settings, out of order -/

/-- An object that gives the scale before the precision. -/
def decimalObject : Value :=
  .object [("default_decimal_scale", .number 2), ("default_decimal_precision", .number 10)]

theorem decimalObject_loads :
    ofText (decimalObject.text .indented) = .ok { decimalPrecision := 10, decimalScale := 2 } := by
  have hkeys : ([Setting.decimalScale 2, .decimalPrecision 10].map Setting.key).Nodup := by decide
  obtain ⟨-, hload, -, -⟩ := ofText_loads_exactly hkeys
    (.cons ⟨Json.Token.readKey_ofText _, Node.spells_number 2⟩
      (.cons ⟨Json.Token.readKey_ofText _, Node.spells_number 10⟩ .nil))
    (decimalObject.written_text Json.Spacing.blank_indented)
  exact hload.mpr (by decide)

end Settings
end EntityTables
