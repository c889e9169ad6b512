import EntityTables.Proofs.Json.EditedRecords

/-!
# Objects that override a record

Where every field of a record may be left out, the record in which all of them are is its default.
A member of an object then overrides one field: it is read into the slot of that field, and what
the slots stand for changes in that field only.  An object with members for different fields is
read as the default with all of these fields overridden, one after the other.

* `Node.Spells`: a tree is a way to write a number or a text;
* `Slots.StandsFor`: the record that is complete when nothing else is put into the slots;
* `Record.Overrides`: a member overrides a field of a record;
* `Slots.StandsFor.exists_put?`, `Record.exists_putMembers`: what one member does, and what all do;
* `Record.read_overrides`: an object is read as the default with its members in place.
-/

namespace EntityTables.Json

/-! ## Numbers and texts -/

/-- The tree is a way to write the number or the text. -/
inductive Node.Spells : Node → Value → Prop
  | number {numeral : Numeral} {n : Nat} (hwhole : numeral.isWhole)
      (hsign : numeral.negative = false) (hdigits : Nat.ofDigitChars 10 numeral.whole 0 = n) :
      Spells (.leaf (.number numeral)) (.number n)
  | string {literal : Literal} {text : String} (htext : literal.text = .ok text) :
      Spells (.leaf (.string literal)) (.string text)

/-- A number is spelled by the tree it is written as. -/
theorem Node.spells_number (n : Nat) : (Value.number n).node.Spells (.number n) :=
  .number rfl (Numeral.negative_ofInt n) Nat.ofDigitChars_ten_toDigits

namespace Codec

variable {node : Node}

theorem uint32_read_of_spells {value : UInt32} (hnode : node.Spells (.number value.toNat)) :
    uint32.read node = .ok value := by
  generalize hnumber : Value.number value.toNat = spelled at hnode
  cases hnode with
  | @number numeral n hwhole hsign hdigits =>
      obtain rfl : value.toNat = n := Int.ofNat_inj.mp (Value.number.inj hnumber)
      have hsize : Nat.ofDigitChars 10 numeral.whole 0 < UInt64.size := by
        rw [hdigits]
        exact Nat.lt_trans value.toNat_lt_size (by decide)
      have hvalue := Numeral.value?_of_isWhole hwhole hsign hsize
      rw [hdigits] at hvalue
      exact uint32_read_of_value? hvalue
  | string => contradiction

theorem string_read_of_spells {text : String} (hnode : node.Spells (.string text)) :
    string.read node = .ok text := by
  cases hnode with
  | @string literal _ htext =>
      show Token.readText "a string" (.string literal) = .ok text
      rw [Token.readText, htext]

end Codec

variable {ρ : Type}

/-! ## Slots -/

namespace Slots

variable {field : Field ρ} {fields : List (Field ρ)} {key : String} {node : Node}

/-- The slots stand for the record when nothing else is put into them. -/
def StandsFor : (fields : List (Field ρ)) → Slots fields → ρ → Prop
  | [], _, _ => True
  | field :: fields, (slot, slots), record =>
    slot.or field.absent = some (field.get record) ∧ StandsFor fields slots record

theorem standsFor_cons {slot : Option field.Content} {slots : Slots fields} {record : ρ} :
    StandsFor (field :: fields) (cons slot slots) record ↔
      slot.or field.absent = some (field.get record) ∧ StandsFor fields slots record :=
  Iff.rfl

/-- Empty slots stand for the record of all defaults. -/
theorem standsFor_empty {record : ρ}
    (hdefault : ∀ field ∈ fields, field.absent = some (field.get record)) :
    StandsFor fields (empty fields) record := by
  induction fields with
  | nil => trivial
  | cons field fields ih =>
      obtain ⟨hfirst, hrest⟩ := List.forall_mem_cons.mp hdefault
      exact ⟨Option.none_or.trans hfirst, ih hrest⟩

theorem StandsFor.contents_eq {slots : Slots fields} {record : ρ}
    (hslots : StandsFor fields slots record) :
    contents fields slots = .ok (Contents.ofRecord record fields) := by
  induction fields with
  | nil => rfl
  | cons field fields ih =>
      obtain ⟨slot, slots, rfl⟩ := slots.exists_cons
      obtain ⟨hfirst, hrest⟩ := standsFor_cons.mp hslots
      rw [contents_cons hfirst, ih hrest]
      rfl

theorem StandsFor.congr {slots : Slots fields} {record record' : ρ}
    (hslots : StandsFor fields slots record)
    (hsame : ∀ field ∈ fields, field.get record' = field.get record) :
    StandsFor fields slots record' := by
  induction fields with
  | nil => trivial
  | cons field fields ih =>
      obtain ⟨slot, slots, rfl⟩ := slots.exists_cons
      obtain ⟨hfirst, hrest⟩ := standsFor_cons.mp hslots
      obtain ⟨hget, hsame⟩ := List.forall_mem_cons.mp hsame
      exact standsFor_cons.mpr ⟨hget ▸ hfirst, ih hrest hsame⟩

/-- A member that is read into an empty slot changes what the slots stand for in its field only. -/
theorem StandsFor.exists_put? {slots : Slots fields} {record record' : ρ}
    (hslots : StandsFor fields slots record) (hnames : (fields.map Field.name).Nodup)
    (hkey : key ∈ fields.map Field.name) (hlacks : Lacks key fields slots)
    (hread : ∀ field ∈ fields, field.name = key →
      field.codec.read node = .ok (field.get record'))
    (hothers : ∀ field ∈ fields, field.name ≠ key → field.get record' = field.get record) :
    ∃ after, put? key node slots = some after ∧ StandsFor fields after record' := by
  induction fields with
  | nil => simp at hkey
  | cons field fields ih =>
      obtain ⟨slot, slots, rfl⟩ := slots.exists_cons
      obtain ⟨hfirst, hrest⟩ := standsFor_cons.mp hslots
      obtain ⟨hfresh, hnames⟩ := List.nodup_cons.mp hnames
      obtain ⟨hreadFirst, hread⟩ := List.forall_mem_cons.mp hread
      obtain ⟨hotherFirst, hothers⟩ := List.forall_mem_cons.mp hothers
      rw [lacks_cons] at hlacks
      by_cases hname : key = field.name
      · subst hname
        obtain rfl : slot = none := (if_pos rfl).mp hlacks
        have hsame : ∀ other ∈ fields, other.get record' = other.get record := by
          intro other hother
          refine hothers other hother fun hname => hfresh ?_
          exact hname ▸ List.mem_map_of_mem hother
        refine ⟨cons (some (field.get record')) slots, ?_, Option.some_or, hrest.congr hsame⟩
        rw [put?_first, hreadFirst rfl]
        rfl
      · rw [if_neg hname] at hlacks
        obtain ⟨after, hput, hafter⟩ :=
          ih hrest hnames ((List.mem_cons.mp hkey).resolve_left hname) hlacks hread hothers
        refine ⟨cons slot after, ?_, ?_, hafter⟩
        · rw [put?_other hname, hput]
          rfl
        · rw [hotherFirst (Ne.symm hname)]
          exact hfirst

end Slots

/-! ## Records -/

namespace Record

variable {description : Record ρ}

/-- The member overrides the field of the key: it is read as what the field is in the updated
record, and the other fields stay what they are. -/
structure Overrides (description : Record ρ) (key : String) (update : ρ → ρ)
    (member : Token × Node) : Prop where
  key_eq : member.1.readKey = .ok key
  known : key ∈ description.fields.map Field.name
  read_eq : ∀ record, ∀ field ∈ description.fields, field.name = key →
    field.codec.read member.2 = .ok (field.get (update record))
  others_eq : ∀ record, ∀ field ∈ description.fields, field.name ≠ key →
    field.get (update record) = field.get record

variable {ι : Type} {key : ι → String} {update : ι → ρ → ρ}

/-- Members for different fields are put one after the other, each overriding its own field. -/
theorem exists_putMembers (hnames : (description.fields.map Field.name).Nodup)
    {overrides : List ι} {members : List (Token × Node)}
    (hmembers : List.Forall₂
      (fun override => description.Overrides (key override) (update override)) overrides members)
    (hkeys : (overrides.map key).Nodup) {slots : Slots description.fields} {record : ρ}
    (hslots : slots.StandsFor _ record)
    (hlacks : ∀ override ∈ overrides, slots.Lacks (key override)) :
    ∃ after, description.putMembers members slots = some after ∧
      after.StandsFor _ (overrides.foldl (fun record override => update override record) record) := by
  induction hmembers generalizing slots record with
  | nil => exact ⟨slots, rfl, hslots⟩
  | @cons override member overrides members hmember _ ih =>
      obtain ⟨hfresh, hkeys⟩ := List.nodup_cons.mp hkeys
      obtain ⟨hfirst, hlacks⟩ := List.forall_mem_cons.mp hlacks
      obtain ⟨between, hput, hbetween⟩ := hslots.exists_put? hnames hmember.known hfirst
        (hmember.read_eq record) (hmember.others_eq record)
      have hothers : ∀ other ∈ overrides, between.Lacks (key other) := by
        intro other hother
        refine (hlacks other hother).put (fun hsame => hfresh ?_) hput
        exact hsame ▸ List.mem_map_of_mem hother
      rw [putMembers_cons, readMember_of_key hmember.key_eq, hput, Option.bind_some]
      exact ih hkeys hbetween hothers

/-- An object with members for different fields is read as the default with these fields
overridden. -/
theorem read_overrides (hnames : (description.fields.map Field.name).Nodup) {record : ρ}
    (hdefault : ∀ field ∈ description.fields, field.absent = some (field.get record))
    {overrides : List ι} {members : List (Token × Node)}
    (hmembers : List.Forall₂
      (fun override => description.Overrides (key override) (update override)) overrides members)
    (hkeys : (overrides.map key).Nodup) :
    description.codec.read (.object members .closed) =
      .ok (overrides.foldl (fun record override => update override record) record) := by
  obtain ⟨after, hput, hafter⟩ := exists_putMembers hnames hmembers hkeys
    (Slots.standsFor_empty hdefault) fun _ _ => Slots.lacks_empty _ _
  have hread : (description.codec.read (.object members .closed)).toOption =
      some (overrides.foldl (fun record override => update override record) record) := by
    rw [toOption_read_object, hput, Option.bind_some, hafter.contents_eq]
    exact congrArg some (description.build_ofRecord _)
  cases hresult : description.codec.read (.object members .closed) with
  | error error =>
      rw [hresult] at hread
      contradiction
  | ok value =>
      rw [hresult] at hread
      exact congrArg Except.ok (Option.some.inj hread)

end Record
end EntityTables.Json
