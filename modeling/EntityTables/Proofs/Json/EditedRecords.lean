import Mathlib.Data.List.Forall2
import EntityTables.Proofs.Json.Edits
import EntityTables.Proofs.Json.Records

/-!
# Records overlook edits

A record is read member by member into the slots of its fields.  Two members can be read in either
order: they go into different slots, or the second of them fails, whichever it is.  So a member can
be thought of as the first of its object, or as the last.  As the first, one that no field knows is
passed over; as the last, a default that is spelled out finds its slot empty and fills it with what
the field is when it is absent.

* `Slots.put?_comm`, `Record.putMembers_perm`: the order of members does not matter;
* `Slots.put?_unknown`, `Slots.exists_put?_default`: members that add nothing;
* `Field.Follows`: a field is the one that documents know;
* `Record.overlooks_codec`: a record overlooks the edits of its members and of their contents.
-/

namespace EntityTables.Json

/-! ## Steps that may fail -/

theorem toOption_foldlM {ε α σ : Type} (f : σ → α → Except ε σ) (elements : List α) (state : σ) :
    (elements.foldlM f state).toOption =
      elements.foldlM (fun state element => (f state element).toOption) state := by
  induction elements generalizing state with
  | nil => rfl
  | cons element elements ih =>
      rw [List.foldlM_cons, List.foldlM_cons, toOption_bind]
      exact congrArg _ (funext ih)

/-- Steps that commute can be taken in any order. -/
theorem foldlM_eq_of_perm {α σ : Type} {f : σ → α → Option σ}
    (hcomm : ∀ state first second,
      (f state first).bind (f · second) = (f state second).bind (f · first))
    {elements elements' : List α} (hperm : elements.Perm elements') (state : σ) :
    elements.foldlM f state = elements'.foldlM f state := by
  induction hperm generalizing state with
  | nil => rfl
  | cons element _ ih =>
      rw [List.foldlM_cons, List.foldlM_cons]
      exact congrArg _ (funext ih)
  | swap first second elements =>
      simp only [List.foldlM_cons, Option.bind_eq_bind, ← Option.bind_assoc, hcomm state second]
  | trans _ _ ih ih' => exact (ih state).trans (ih' state)

variable {α ρ : Type}

/-! ## Members of records -/

namespace Slots

variable {field : Field ρ} {fields : List (Field ρ)} {key other : String}

theorem exists_cons (slots : Slots (field :: fields)) :
    ∃ (slot : Option field.Content) (rest : Slots fields), slots = cons slot rest :=
  ⟨slots.1, slots.2, rfl⟩

/-- The slots behind a member, unless reading it fails. -/
def put? (key : String) (node : Node) (slots : Slots fields) : Option (Slots fields) :=
  (put key node fields slots).toOption

theorem put?_first (node : Node) (slots : Slots fields) :
    put? field.name node (cons none slots) =
      (field.codec.read node).toOption.map fun content => cons (some content) slots := by
  rw [put?, put_first, toOption_map]

theorem put?_again (node : Node) (content : field.Content) (slots : Slots fields) :
    put? field.name node (cons (some content) slots) = none := by
  rw [put?, put_again]
  rfl

theorem put?_other (hkey : key ≠ field.name) (node : Node) (slot : Option field.Content)
    (slots : Slots fields) :
    put? key node (cons slot slots) = (put? key node slots).map (cons slot) := by
  rw [put?, put_other hkey, toOption_map, put?]

/-- A member of the first field can be read before or behind one of another name. -/
theorem put?_first_comm (hother : other ≠ field.name) (slot : Option field.Content)
    (slots : Slots fields) (node node' : Node) :
    (put? field.name node (cons slot slots)).bind (put? other node') =
      (put? other node' (cons slot slots)).bind (put? field.name node) := by
  rw [put?_other hother]
  cases slot with
  | some content => cases put? other node' slots <;> simp [put?_again]
  | none =>
      rw [put?_first]
      cases hread : (field.codec.read node).toOption <;> cases hput : put? other node' slots <;>
        simp [put?_first, put?_other hother, hread, hput]

/-- Two members can be read in either order. -/
theorem put?_comm (slots : Slots fields) (node node' : Node) :
    (put? key node slots).bind (put? other node') =
      (put? other node' slots).bind (put? key node) := by
  induction fields with
  | nil =>
      -- members that no field knows are passed over
      have hskip : ∀ key node, put? key node slots = node.skip.toOption.map fun _ => slots := by
        intro key node
        rw [put?, put]
        cases node.skip <;> rfl
      cases hnode : node.skip <;> cases hnode' : node'.skip <;>
        simp [hskip, hnode, hnode', Except.toOption]
  | cons field fields ih =>
      obtain ⟨slot, slots, rfl⟩ := slots.exists_cons
      by_cases hkey : key = field.name <;> by_cases hother : other = field.name
      · subst hkey
        rw [hother]
        -- the second of two members of one field fails, whichever it is
        cases slot with
        | some content =>
            rw [put?_again, put?_again]
            rfl
        | none =>
            rw [put?_first, put?_first]
            cases (field.codec.read node).toOption <;> cases (field.codec.read node').toOption <;>
              simp [put?_again]
      · subst hkey
        exact put?_first_comm hother slot slots node node'
      · subst hother
        exact (put?_first_comm hkey slot slots node' node).symm
      · have hrest := congrArg (Option.map (cons slot)) (ih slots)
        simpa only [put?_other hkey, put?_other hother, Option.bind_map, Option.map_bind,
          Function.comp_def] using hrest

/-- A member that no field knows changes nothing. -/
theorem put?_unknown (hkey : key ∉ fields.map Field.name) {node : Node} (hnode : node.WellFormed)
    (slots : Slots fields) : put? key node slots = some slots := by
  induction fields with
  | nil =>
      rw [put?, put, hnode.skip]
      rfl
  | cons field fields ih =>
      obtain ⟨slot, slots, rfl⟩ := slots.exists_cons
      rw [List.map_cons, List.mem_cons, not_or] at hkey
      rw [put?_other hkey.1, ih hkey.2, Option.map_some]

/-- A member can be exchanged for one that its field reads alike. -/
theorem put?_congr (hkey : key ∈ fields.map Field.name) {node node' : Node}
    (hread : ∀ field ∈ fields, field.name = key →
      (field.codec.read node).toOption = (field.codec.read node').toOption)
    (slots : Slots fields) : put? key node slots = put? key node' slots := by
  induction fields with
  | nil => simp at hkey
  | cons field fields ih =>
      obtain ⟨slot, slots, rfl⟩ := slots.exists_cons
      obtain ⟨hfirst, hrest⟩ := List.forall_mem_cons.mp hread
      by_cases hname : key = field.name
      · subst hname
        cases slot with
        | some content => rw [put?_again, put?_again]
        | none => rw [put?_first, put?_first, hfirst rfl]
      · rw [put?_other hname, put?_other hname,
          ih ((List.mem_cons.mp hkey).resolve_left hname) hrest]

/-! ## Defaults -/

/-- No member of the key has been read. -/
def Lacks (key : String) : (fields : List (Field ρ)) → Slots fields → Prop
  | [], _ => True
  | field :: fields, (slot, slots) =>
    if key = field.name then slot = none else Lacks key fields slots

theorem lacks_cons {slot : Option field.Content} {slots : Slots fields} :
    Lacks key (field :: fields) (cons slot slots) ↔
      if key = field.name then slot = none else Lacks key fields slots :=
  Iff.rfl

theorem lacks_empty (key : String) (fields : List (Field ρ)) : Lacks key fields (empty fields) := by
  induction fields with
  | nil => trivial
  | cons field fields ih =>
      show if key = field.name then none = none else Lacks key fields (empty fields)
      split
      · rfl
      · exact ih

/-- Members of other keys do not fill the slot. -/
theorem Lacks.put {slots after : Slots fields} {node : Node} (hlacks : Lacks key fields slots)
    (hother : other ≠ key) (hput : put? other node slots = some after) :
    Lacks key fields after := by
  induction fields with
  | nil => trivial
  | cons field fields ih =>
      obtain ⟨slot, slots, rfl⟩ := slots.exists_cons
      rw [lacks_cons] at hlacks
      by_cases hname : other = field.name
      · subst hname
        rw [if_neg hother.symm] at hlacks
        cases slot with
        | some content => simp [put?_again] at hput
        | none =>
            rw [put?_first, Option.map_eq_some_iff] at hput
            obtain ⟨content, -, rfl⟩ := hput
            rw [lacks_cons, if_neg hother.symm]
            exact hlacks
      · rw [put?_other hname, Option.map_eq_some_iff] at hput
        obtain ⟨rest, hput, rfl⟩ := hput
        rw [lacks_cons]
        split
        · rename_i hkey
          rwa [if_pos hkey] at hlacks
        · rename_i hkey
          rw [if_neg hkey] at hlacks
          exact ih hlacks hput

/-- Where no member of the key has been read, a default that is spelled out comes to the same as
none at all. -/
theorem exists_put?_default (hkey : key ∈ fields.map Field.name) {node : Node}
    (hdefault : ∀ field ∈ fields, field.name = key →
      ∃ content, field.codec.read node = .ok content ∧ field.absent = some content)
    {slots : Slots fields} (hlacks : Lacks key fields slots) :
    ∃ after, put? key node slots = some after ∧ contents fields after = contents fields slots := by
  induction fields with
  | nil => simp at hkey
  | cons field fields ih =>
      obtain ⟨slot, slots, rfl⟩ := slots.exists_cons
      obtain ⟨hfirst, hrest⟩ := List.forall_mem_cons.mp hdefault
      rw [lacks_cons] at hlacks
      by_cases hname : key = field.name
      · obtain rfl : slot = none := (if_pos hname).mp hlacks
        obtain ⟨content, hread, habsent⟩ := hfirst hname.symm
        subst hname
        refine ⟨cons (some content) slots, by rw [put?_first, hread]; rfl, ?_⟩
        have habsent : (none : Option field.Content).or field.absent = some content := by
          rw [Option.none_or, habsent]
        rw [contents_cons Option.some_or, contents_cons habsent]
      · rw [if_neg hname] at hlacks
        obtain ⟨after, hput, hcontents⟩ :=
          ih ((List.mem_cons.mp hkey).resolve_left hname) hrest hlacks
        refine ⟨cons slot after, by rw [put?_other hname, hput]; rfl, ?_⟩
        simp only [contents, cons, hcontents]

end Slots

/-! ## Records -/

/-- The field is the one that documents know. -/
structure Field.Follows (field : Field ρ) (schema : FieldSchema Schema) : Prop where
  name_eq : field.name = schema.name
  overlooks : field.codec.Overlooks schema.content
  default_eq : ∀ node, schema.default? = some node →
    ∃ content, field.codec.read node = .ok content ∧ field.absent = some content

namespace Field

variable {codec : Codec α} {schema : Schema}

theorem follows_required (hcodec : codec.Overlooks schema) (name : String) (get : ρ → α) :
    (required name codec get).Follows (.required name schema) where
  name_eq := rfl
  overlooks := hcodec
  default_eq _ hnone := nomatch hnone

theorem follows_optional (hcodec : codec.Overlooks schema) (name : String) (get : ρ → Option α) :
    (optional name codec get).Follows (.optional name schema) where
  name_eq := rfl
  overlooks := Codec.overlooks_optional hcodec
  default_eq node hnode := by
    obtain rfl := Option.some.inj hnode
    exact ⟨none, rfl, rfl⟩

theorem follows_defaulted (hcodec : codec.Overlooks schema) (name : String) (get : ρ → α)
    {value : α} {node : Node} (hread : codec.read node = .ok value) :
    (defaulted name codec get value).Follows (.defaulted name schema node) where
  name_eq := rfl
  overlooks := hcodec
  default_eq other hother := by
    obtain rfl := Option.some.inj hother
    exact ⟨value, hread, rfl⟩

end Field

section Follows

variable {fields : List (Field ρ)} {schemas : List (FieldSchema Schema)}

theorem names_eq_of_follows (hfields : List.Forall₂ Field.Follows fields schemas) :
    fields.map Field.name = schemas.map FieldSchema.name := by
  induction hfields with
  | nil => rfl
  | cons hfirst _ ih => rw [List.map_cons, List.map_cons, hfirst.name_eq, ih]

/-- Fields are told apart by their names, so the field of a name follows the schema of the name. -/
theorem follows_of_name_eq (hfields : List.Forall₂ Field.Follows fields schemas)
    (hnames : (fields.map Field.name).Nodup) {field : Field ρ} {schema : FieldSchema Schema}
    (hfield : field ∈ fields) (hschema : schema ∈ schemas) (hname : field.name = schema.name) :
    field.Follows schema := by
  induction hfields with
  | nil => simp at hfield
  | @cons first firstSchema fields schemas hfirst hfields ih =>
      obtain ⟨hfresh, hnames⟩ := List.nodup_cons.mp hnames
      have hsame := names_eq_of_follows hfields
      rcases List.mem_cons.mp hfield with rfl | hfield
      · rcases List.mem_cons.mp hschema with rfl | hschema
        · exact hfirst
        · refine absurd ?_ hfresh
          rw [hsame, hname]
          exact List.mem_map_of_mem hschema
      · rcases List.mem_cons.mp hschema with rfl | hschema
        · refine absurd ?_ hfresh
          rw [hfirst.name_eq, ← hname]
          exact List.mem_map_of_mem hfield
        · exact ih hnames hfield hschema

end Follows

namespace Record

variable {description : Record ρ} {schemas : List (FieldSchema Schema)}

/-- The slots behind all members of an object, unless reading one of them fails. -/
def putMembers (description : Record ρ) (members : List (Token × Node))
    (slots : Slots description.fields) : Option (Slots description.fields) :=
  members.foldlM (fun slots member => (description.readMember slots member).toOption) slots

theorem toOption_readMember (slots : Slots description.fields) (member : Token × Node) :
    (description.readMember slots member).toOption =
      member.1.readKey.toOption.bind fun key => slots.put? key member.2 :=
  toOption_bind _ _

theorem readMember_of_key {key : Token} {name : String} (hkey : key.readKey = .ok name)
    (slots : Slots description.fields) (node : Node) :
    (description.readMember slots (key, node)).toOption = slots.put? name node := by
  rw [toOption_readMember, hkey]
  rfl

theorem putMembers_cons (member : Token × Node) (members : List (Token × Node))
    (slots : Slots description.fields) :
    description.putMembers (member :: members) slots =
      (description.readMember slots member).toOption.bind (description.putMembers members) := by
  rw [putMembers, List.foldlM_cons]
  rfl

/-- The members of an object can be read in any order. -/
theorem putMembers_perm {members members' : List (Token × Node)}
    (hperm : members.Perm members') (slots : Slots description.fields) :
    description.putMembers members slots = description.putMembers members' slots := by
  refine foldlM_eq_of_perm ?_ hperm slots
  intro slots first second
  simp only [toOption_readMember]
  cases first.1.readKey.toOption <;> cases second.1.readKey.toOption <;>
    simp [Slots.put?_comm]

/-- A slot stays empty if no member has its key. -/
theorem lacks_putMembers {key : String} {members : List (Token × Node)}
    (habsent : ∀ member ∈ members, member.1.readKey ≠ .ok key) {slots after : Slots description.fields}
    (hlacks : slots.Lacks key) (hput : description.putMembers members slots = some after) :
    after.Lacks key := by
  induction members generalizing slots with
  | nil =>
      obtain rfl := Option.some.inj hput
      exact hlacks
  | cons member members ih =>
      obtain ⟨hfirst, habsent⟩ := List.forall_mem_cons.mp habsent
      rw [putMembers_cons, Option.bind_eq_some_iff] at hput
      obtain ⟨between, hmember, hput⟩ := hput
      cases hname : member.1.readKey with
      | error error =>
          rw [toOption_readMember, hname] at hmember
          contradiction
      | ok name =>
          rw [readMember_of_key hname] at hmember
          have hother : name ≠ key := by
            rintro rfl
            exact hfirst hname
          exact ih habsent (hlacks.put hother hmember) hput

theorem toOption_read_object (description : Record ρ) (members : List (Token × Node)) :
    (description.codec.read (.object members .closed)).toOption =
      (description.putMembers members (Slots.empty _)).bind fun slots =>
        slots.contents.toOption.map description.build := by
  show (members.foldlM description.readMember (Slots.empty description.fields) >>= fun slots =>
    description.build <$> slots.contents).toOption = _
  rw [toOption_bind, toOption_foldlM]
  simp only [toOption_map]
  rfl

/-- A default that is spelled out is read like none at all. -/
theorem read_default {members : List (Token × Node)} {key : Token} {name : String} {node : Node}
    (hkey : key.readKey = .ok name) (hname : name ∈ description.fields.map Field.name)
    (hdefault : ∀ field ∈ description.fields, field.name = name →
      ∃ content, field.codec.read node = .ok content ∧ field.absent = some content)
    (habsent : ∀ member ∈ members, member.1.readKey ≠ .ok name) :
    (description.codec.read (.object ((key, node) :: members) .closed)).toOption =
      (description.codec.read (.object members .closed)).toOption := by
  -- read behind all others, the member finds its slot empty
  have hlast : ((key, node) :: members).Perm (members ++ [(key, node)]) :=
    (List.perm_append_singleton _ _).symm
  rw [toOption_read_object, toOption_read_object, putMembers_perm hlast]
  have happend : description.putMembers (members ++ [(key, node)]) (Slots.empty _) =
      (description.putMembers members (Slots.empty _)).bind (Slots.put? name node) := by
    rw [putMembers, List.foldlM_append]
    apply congrArg
    funext slots
    rw [List.foldlM_cons, readMember_of_key hkey]
    exact bind_pure _
  rw [happend]
  cases hput : description.putMembers members (Slots.empty _) with
  | none => rfl
  | some slots =>
      have hlacks := lacks_putMembers habsent (Slots.lacks_empty name _) hput
      obtain ⟨after, hafter, hcontents⟩ := Slots.exists_put?_default hname hdefault hlacks
      simp only [Option.bind_some, hafter, hcontents]

/-- A field of a record that is written as an array can be exchanged for one that is read alike. -/
theorem toOption_ofItems_congr {fields : List (Field ρ)} {before after : List Node}
    {value value' : Node} (hread : ∀ field, fields[before.length]? = some field →
      (field.codec.read value).toOption = (field.codec.read value').toOption)
    (record : String) (total : Nat) (ending : Ending) (position : Nat) :
    (Contents.ofItems record total ending fields position (before ++ value :: after)).toOption =
      (Contents.ofItems record total ending fields position (before ++ value' :: after)).toOption := by
  induction before generalizing fields position with
  | nil =>
      cases fields with
      | nil => rfl
      | cons field fields =>
          simp only [List.nil_append, Contents.ofItems, toOption_bind, hread field rfl]
  | cons item before ih =>
      cases fields with
      | nil => rfl
      | cons field fields =>
          have hrest := ih fun other (hother : fields[before.length]? = some other) =>
            hread other hother
          simp only [List.cons_append, Contents.ofItems, toOption_bind, hrest]

/-- A record overlooks the edits of its members, of their defaults and of their contents. -/
theorem overlooks_codec (hnames : (description.fields.map Field.name).Nodup)
    (hfields : List.Forall₂ Field.Follows description.fields schemas) :
    description.codec.Overlooks (.record schemas) := by
  have hsame := names_eq_of_follows hfields
  intro node node' hedit
  cases hedit with
  | reorder hperm => rw [toOption_read_object, toOption_read_object, putMembers_perm hperm]
  | addUnknown hkey hunknown hvalue =>
      rw [toOption_read_object, toOption_read_object, putMembers_cons, readMember_of_key hkey,
        Slots.put?_unknown (hsame ▸ hunknown) hvalue, Option.bind_some]
  | addDefault hschema hkey hdefault habsent =>
      refine (read_default hkey (hsame ▸ List.mem_map_of_mem hschema) ?_ habsent).symm
      intro field hfield hname
      exact (follows_of_name_eq hfields hnames hfield hschema hname).default_eq _ hdefault
  | member hschema hkey hedit =>
      rw [toOption_read_object, toOption_read_object, putMembers_cons, putMembers_cons,
        readMember_of_key hkey, readMember_of_key hkey]
      rw [Slots.put?_congr (hsame ▸ List.mem_map_of_mem hschema)]
      intro field hfield hname
      exact (follows_of_name_eq hfields hnames hfield hschema hname).overlooks _ _ hedit
  | @field _ before after schema value value' hschema hedit =>
      have hread : ∀ field, description.fields[before.length]? = some field →
          (field.codec.read value).toOption = (field.codec.read value').toOption := by
        intro field hfield
        obtain ⟨hindex, rfl⟩ := List.getElem?_eq_some_iff.mp hfield
        obtain ⟨hindex', rfl⟩ := List.getElem?_eq_some_iff.mp hschema
        exact (hfields.get hindex hindex').overlooks _ _ hedit
      show (description.build <$> Contents.ofItems _ _ _ _ _ _).toOption =
        (description.build <$> Contents.ofItems _ _ _ _ _ _).toOption
      rw [toOption_map, toOption_map, toOption_ofItems_congr hread]

end Record

end EntityTables.Json
