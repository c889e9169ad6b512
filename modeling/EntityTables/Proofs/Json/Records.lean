import EntityTables.Json.Record
import EntityTables.Proofs.Json.Codecs

/-!
# Lawful records

A field is lawful when what it writes is read back, and when it is left out only where the
content is that of an absent field.  A record whose fields are lawful and have different names is
lawful: each member that is written finds its own field, still empty, and the fields without a
member have the content that they had.

* `Field.lawful_required`, `lawful_defaulted`, `lawful_optional`: the fields there are;
* `Slots.putAll_members`: the members of a record fill the slots of the fields that are written;
* `Record.lawful_codec`: a record of lawful fields is lawful.
-/

namespace EntityTables.Json

/-- What the field writes is read back, and what it leaves out is the content of an absent
field. -/
structure Field.Lawful {ρ : Type} (field : Field ρ) : Prop where
  read_write : ∀ content, field.isWritten content →
    field.codec.read (field.codec.write content).node = .ok content
  absent_eq : ∀ content, field.isWritten content = false → field.absent = some content

variable {ρ : Type}

namespace Field

variable {α : Type} {codec : Codec α}

theorem lawful_required (hcodec : codec.Lawful) (name : String) (get : ρ → α) :
    (required name codec get).Lawful where
  read_write content _ := hcodec.read_write content
  absent_eq _ hwritten := by simp [required] at hwritten

theorem lawful_defaulted (hcodec : codec.Lawful) (name : String) (get : ρ → α) (value : α) :
    (defaulted name codec get value).Lawful where
  read_write content _ := hcodec.read_write content
  absent_eq _ hwritten := by simp [defaulted] at hwritten

theorem lawful_optional (hcodec : codec.Lawful) (name : String) (get : ρ → Option α) :
    (optional name codec get).Lawful where
  read_write content _ := Codec.optional_read_write hcodec content
  absent_eq content hwritten := by
    have hnone : content = none := Option.not_isSome_iff_eq_none.mp (Bool.eq_false_iff.mp hwritten)
    rw [hnone]
    rfl

/-- The member that a field of a record is written as, if it is written. -/
def member? (field : Field ρ) (record : ρ) : Option (String × Value) :=
  if field.isWritten (field.get record) then
    some (field.name, field.codec.write (field.get record))
  else
    none

/-- What the slot of a field holds when the members of a record have been read. -/
def slot (field : Field ρ) (record : ρ) : Option field.Content :=
  if field.isWritten (field.get record) then some (field.get record) else none

/-- A field that is left out has the content of an absent field. -/
theorem Lawful.slot_or_absent {field : Field ρ} (hfield : field.Lawful) (record : ρ) :
    (field.slot record).or field.absent = some (field.get record) := by
  unfold slot
  split
  · rw [Option.some_or]
  · rename_i hwritten
    rw [Option.none_or]
    exact hfield.absent_eq _ (Bool.eq_false_iff.mpr hwritten)

theorem member?_name {field : Field ρ} {record : ρ} {member : String × Value}
    (hmember : field.member? record = some member) : field.name = member.1 := by
  unfold member? at hmember
  split at hmember
  · rw [← Option.some.inj hmember]
  · contradiction

end Field

namespace Slots

variable {field : Field ρ} {fields : List (Field ρ)}

/-- The slots of fields from those of the first field and of the others. -/
def cons (slot : Option field.Content) (slots : Slots fields) : Slots (field :: fields) :=
  (slot, slots)

/-- The slots of a record whose members have all been read. -/
def ofRecord (record : ρ) : (fields : List (Field ρ)) → Slots fields
  | [] => ()
  | field :: fields => cons (field.slot record) (ofRecord record fields)

/-- Members are put one after the other. -/
def putAll (fields : List (Field ρ)) (slots : Slots fields) (members : List (String × Value)) :
    Except ReadError (Slots fields) :=
  members.foldlM (fun slots member => put member.1 member.2.node fields slots) slots

theorem putAll_cons (slots : Slots fields) (member : String × Value)
    (members : List (String × Value)) :
    putAll fields slots (member :: members) =
      put member.1 member.2.node fields slots >>= fun after => putAll fields after members := by
  rw [putAll, List.foldlM_cons]
  rfl

/-- The member of the first field is put into its slot, which is still empty. -/
theorem put_first (node : Node) (slots : Slots fields) :
    put field.name node (field :: fields) (cons none slots) =
      (fun content => cons (some content) slots) <$> field.codec.read node := by
  have hput : put field.name node (field :: fields) (cons none slots) =
      field.codec.read node >>= fun content => .ok (cons (some content) slots) := if_pos rfl
  rw [hput]
  cases field.codec.read node <;> rfl

/-- A second member of the first field has no slot left. -/
theorem put_again (node : Node) (content : field.Content) (slots : Slots fields) :
    put field.name node (field :: fields) (cons (some content) slots) =
      .error (.duplicateField field.name) :=
  if_pos rfl

/-- A member of another name passes the first field by. -/
theorem put_other {key : String} (hkey : key ≠ field.name) (node : Node)
    (slot : Option field.Content) (slots : Slots fields) :
    put key node (field :: fields) (cons slot slots) = cons slot <$> put key node fields slots :=
  if_neg hkey

/-- Members of other names pass the first field by. -/
theorem putAll_others (slot : Option field.Content) (slots : Slots fields)
    {members : List (String × Value)} (hnames : ∀ member ∈ members, member.1 ≠ field.name) :
    putAll (field :: fields) (cons slot slots) members =
      cons slot <$> putAll fields slots members := by
  induction members generalizing slots with
  | nil => rfl
  | cons member members ih =>
      obtain ⟨hname, hnames⟩ := List.forall_mem_cons.mp hnames
      rw [putAll_cons, putAll_cons, put_other hname]
      cases put member.1 member.2.node fields slots with
      | error error => rfl
      | ok after => exact ih after hnames

/-- The members of a record fill the slots of the fields that are written. -/
theorem putAll_members (record : ρ) (hnames : (fields.map Field.name).Nodup)
    (hfields : ∀ field ∈ fields, field.Lawful) :
    putAll fields (empty fields) (fields.filterMap (·.member? record)) =
      .ok (ofRecord record fields) := by
  induction fields with
  | nil => rfl
  | cons field fields ih =>
      obtain ⟨hname, hnames⟩ := List.nodup_cons.mp hnames
      obtain ⟨hfield, hfields⟩ := List.forall_mem_cons.mp hfields
      have hothers : ∀ member ∈ fields.filterMap (·.member? record), member.1 ≠ field.name := by
        intro member hmember heq
        obtain ⟨other, hother, hwritten⟩ := List.mem_filterMap.mp hmember
        exact hname (List.mem_map.mpr ⟨other, hother, (Field.member?_name hwritten).trans heq⟩)
      -- the members of the other fields fill their slots, whatever stands in the first one
      have hrest : ∀ slot : Option field.Content,
          putAll (field :: fields) (cons slot (empty fields))
            (fields.filterMap (·.member? record)) = .ok (cons slot (ofRecord record fields)) := by
        intro slot
        rw [putAll_others slot _ hothers, ih hnames hfields]
        rfl
      -- the first field has the first member, if it is written at all
      by_cases hwritten : field.isWritten (field.get record)
      · have hmember : field.member? record =
            some (field.name, field.codec.write (field.get record)) := if_pos hwritten
        have hmembers : (field :: fields).filterMap (·.member? record) =
            (field.name, field.codec.write (field.get record)) ::
              fields.filterMap (·.member? record) := List.filterMap_cons_some hmember
        have hslot : field.slot record = some (field.get record) := if_pos hwritten
        rw [hmembers, putAll_cons, ofRecord, hslot]
        show put field.name (field.codec.write (field.get record)).node (field :: fields)
          (cons none (empty fields)) >>= _ = _
        rw [put_first, hfield.read_write _ hwritten]
        exact hrest _
      · have hmember : field.member? record = none := if_neg hwritten
        have hmembers : (field :: fields).filterMap (·.member? record) =
            fields.filterMap (·.member? record) := List.filterMap_cons_none hmember
        have hslot : field.slot record = none := if_neg hwritten
        rw [hmembers, ofRecord, hslot]
        exact hrest none

theorem contents_cons {slot : Option field.Content} {content : field.Content}
    (hslot : slot.or field.absent = some content) (slots : Slots fields) :
    contents (field :: fields) (cons slot slots) =
      (content, ·) <$> contents fields slots := by
  simp only [contents, cons, hslot]
  rfl

/-- The slots that the members of a record fill hold the contents of the record. -/
theorem contents_ofRecord (record : ρ) (hfields : ∀ field ∈ fields, field.Lawful) :
    contents fields (ofRecord record fields) = .ok (Contents.ofRecord record fields) := by
  induction fields with
  | nil => rfl
  | cons field fields ih =>
      obtain ⟨hfield, hfields⟩ := List.forall_mem_cons.mp hfields
      rw [ofRecord, contents_cons (hfield.slot_or_absent record), ih hfields]
      rfl

end Slots

namespace Record

/-- A record of lawful fields with different names is lawful. -/
theorem lawful_codec {description : Record ρ}
    (hnames : (description.fields.map Field.name).Nodup)
    (hfields : ∀ field ∈ description.fields, field.Lawful) : description.codec.Lawful where
  read_write record := by
    have hslots : (Value.memberNodes (description.members record)).foldlM description.readMember
        (Slots.empty description.fields) = .ok (Slots.ofRecord record description.fields) := by
      rw [Value.memberNodes_eq_map, List.foldlM_map, ← Slots.putAll_members record hnames hfields]
      have hstep : (fun (slots : Slots description.fields) (member : String × Value) =>
          description.readMember slots (.string (.ofText member.1), member.2.node)) =
            fun slots member => slots.put member.1 member.2.node := by
        funext slots member
        rw [readMember, Token.readKey_ofText]
        rfl
      exact congrArg (fun step => List.foldlM step _ _) hstep
    show (do
      let slots ← (Value.memberNodes (description.members record)).foldlM description.readMember
        (Slots.empty description.fields)
      Ending.closed.check
      description.build <$> slots.contents) = .ok record
    rw [hslots]
    show description.build <$> (Slots.ofRecord record description.fields).contents = .ok record
    rw [Slots.contents_ofRecord record hfields]
    exact congrArg Except.ok (description.build_ofRecord record)
  write_ne_null _ := Value.noConfusion

end Record
end EntityTables.Json
