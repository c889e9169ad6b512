import EntityTables.Proofs.Model.Graphs

/-!
# Which graphs are accepted

Graphs are accepted if and only if their entities have different keys and every association has
its target among them.  A repeated key is reported before any target that is missing, and each
of them is reported where it is first met in the order of graphs, entities and associations.  The
index of accepted graphs leads from the key of every entity to the slot in which it stands.

* `FirstRepeated`, `FirstUnresolved`: what is met first;
* `EntityGraphs.ofList_cases`: everything that can become of graphs;
* `EntityGraphs.exists_firstRepeated`, `EntityGraphs.exists_firstUnresolved`: what is reported is
  what is met first;
* `mem_slotsOf`, `slotsOf_map_snd`: every entity stands in one slot;
* `EntityGraphs.entity?_eq_index`: an entity is found where the index leads;
* `EntityGraphs.ofList_exact`: which graphs are accepted, and what is reported of the others.
-/

namespace EntityTables

/-! ## What is met first -/

/-- The associations of all entities with their entities, in the order of graphs, entities and
associations. -/
def associationsOf (graphs : List EntityGraph) : List (Entity × Association) :=
  (entitiesOf graphs).flatMap fun entity => entity.associations.map (entity, ·)

/-- The association has its target among the entities. -/
def Association.Resolves (association : Association) (graphs : List EntityGraph) : Prop :=
  ∃ target ∈ entitiesOf graphs, target.qualifiedName = association.target

/-- All entities have different qualified names. -/
def KeysDiffer (graphs : List EntityGraph) : Prop :=
  ((entitiesOf graphs).map (·.qualifiedName)).Nodup

def AllResolve (graphs : List EntityGraph) : Prop :=
  ∀ entity ∈ entitiesOf graphs, ∀ association ∈ entity.associations, association.Resolves graphs

/-- The first entity that repeats the key of an earlier one has this key. -/
def FirstRepeated (graphs : List EntityGraph) (key : EntityKey) : Prop :=
  ∃ before entity after, entitiesOf graphs = before ++ entity :: after ∧
    (before.map (·.qualifiedName)).Nodup ∧
    (∃ earlier ∈ before, earlier.qualifiedName = entity.qualifiedName) ∧
    entity.qualifiedName = key

/-- The association of the entity is the first one without its target among the entities. -/
def FirstUnresolved (graphs : List EntityGraph) (entity : Entity) (association : Association) :
    Prop :=
  ∃ before after, associationsOf graphs = before ++ (entity, association) :: after ∧
    (∀ earlier ∈ before, earlier.2.Resolves graphs) ∧ ¬association.Resolves graphs

section

variable {graphs : List EntityGraph}

theorem target_mem_iff {association : Association} :
    association.target ∈ (entitiesOf graphs).map Entity.key ↔ association.Resolves graphs := by
  rw [List.mem_map]
  rfl

theorem allResolve_iff :
    AllResolve graphs ↔ ∀ entity ∈ entitiesOf graphs, ∀ association ∈ entity.associations,
      association.target ∈ (entitiesOf graphs).map Entity.key := by
  simp only [AllResolve, target_mem_iff]

/-- A key is reported where it is met for the second time, and the keys in front of that place are
all different. -/
theorem exists_split_of_firstRepeated? {earlier keys : List EntityKey} {key : EntityKey}
    (hrepeated : firstRepeated? earlier keys = some key) :
    ∃ before after, keys = before ++ key :: after ∧ before.Nodup ∧
      (∀ other ∈ before, other ∉ earlier) ∧ (key ∈ earlier ∨ key ∈ before) := by
  induction keys generalizing earlier with
  | nil => simp [firstRepeated?] at hrepeated
  | cons first keys ih =>
      rw [firstRepeated?] at hrepeated
      split at hrepeated
      · rename_i hmem
        obtain rfl := Option.some.inj hrepeated
        exact ⟨[], keys, rfl, List.nodup_nil, by simp, .inl hmem⟩
      · rename_i hfirst
        obtain ⟨before, after, rfl, hnodup, hnew, hkey⟩ := ih hrepeated
        refine ⟨first :: before, after, rfl, List.nodup_cons.mpr ⟨?_, hnodup⟩, ?_, ?_⟩
        · intro hmem
          exact hnew first hmem List.mem_cons_self
        · rw [List.forall_mem_cons]
          exact ⟨hfirst, fun other hother hmem =>
            hnew other hother (List.mem_cons_of_mem _ hmem)⟩
        · rcases hkey with hearlier | hbefore
          · rcases List.mem_cons.mp hearlier with rfl | hmem
            · exact .inr List.mem_cons_self
            · exact .inl hmem
          · exact .inr (List.mem_cons_of_mem _ hbefore)

theorem firstRepeated_of_some {key : EntityKey}
    (hrepeated : firstRepeated? [] ((entitiesOf graphs).map Entity.key) = some key) :
    FirstRepeated graphs key := by
  obtain ⟨keysBefore, keysAfter, hkeys, hnodup, -, hkey⟩ :=
    exists_split_of_firstRepeated? hrepeated
  obtain ⟨before, rest, hentities, rfl, hrest⟩ := List.map_eq_append_iff.mp hkeys
  obtain ⟨entity, after, rfl, rfl, -⟩ := List.map_eq_cons_iff.mp hrest
  have hearlier := hkey.resolve_left List.not_mem_nil
  exact ⟨before, entity, after, hentities, hnodup, List.mem_map.mp hearlier, rfl⟩

/-- The associations without a target are taken from all associations in their order. -/
theorem unresolved_eq_filter (keys : List EntityKey) (graphs : List EntityGraph) :
    unresolved keys (entitiesOf graphs) =
      (associationsOf graphs).filter fun declared => declared.2.target ∉ keys := by
  rw [unresolved, associationsOf, List.filter_flatMap]
  apply List.flatMap_congr
  intro entity _
  rw [List.filter_map]
  rfl

theorem firstUnresolved_of_cons {entity : Entity} {association : Association}
    {rest : List (Entity × Association)}
    (hunresolved : unresolved ((entitiesOf graphs).map Entity.key) (entitiesOf graphs) =
      (entity, association) :: rest) :
    FirstUnresolved graphs entity association := by
  rw [unresolved_eq_filter, List.filter_eq_cons_iff] at hunresolved
  obtain ⟨before, after, hsplit, hbefore, hunknown, -⟩ := hunresolved
  refine ⟨before, after, hsplit, ?_, ?_⟩
  · intro earlier hearlier
    have hknown := hbefore earlier hearlier
    rw [decide_eq_true_iff, not_not] at hknown
    exact target_mem_iff.mp hknown
  · intro hresolves
    exact of_decide_eq_true hunknown (target_mem_iff.mpr hresolves)

/-! ## Slots -/

/-- A slot is listed with the entity that stands in it. -/
theorem mem_slotsOf {slot : Slot} {entity : Entity} :
    (slot, entity) ∈ slotsOf graphs ↔ slot.entity? graphs = some entity := by
  simp only [slotsOf, Slot.entity?, List.mem_flatMap, List.mem_map, Prod.exists,
    List.mem_zipIdx_iff_getElem?, Option.bind_eq_some_iff, Prod.mk.injEq]
  constructor
  · rintro ⟨graph, position, hgraph, other, place, hentity, rfl, rfl⟩
    exact ⟨graph, hgraph, hentity⟩
  · rintro ⟨graph, hgraph, hentity⟩
    exact ⟨graph, slot.graph, hgraph, entity, slot.entity, hentity, rfl, rfl⟩

/-- Every entity stands in one slot. -/
theorem slotsOf_map_snd (graphs : List EntityGraph) :
    (slotsOf graphs).map Prod.snd = entitiesOf graphs := by
  rw [slotsOf, List.map_flatMap, entitiesOf]
  conv_rhs => rw [← List.zipIdx_map_fst 0 graphs, List.flatMap_map]
  apply List.flatMap_congr
  rintro ⟨graph, position⟩ -
  rw [List.map_map]
  exact List.zipIdx_map_fst _ _

end

namespace EntityGraphs

/-! ## What is reported -/

/-- Everything that can become of graphs: the first repeated key is reported, or the first
association without a target, or the graphs are accepted as they are. -/
theorem ofList_cases (graphs : List EntityGraph) :
    (∃ key, firstRepeated? [] ((entitiesOf graphs).map Entity.key) = some key ∧
        ofList graphs = .error (.duplicateEntity key)) ∨
      (firstRepeated? [] ((entitiesOf graphs).map Entity.key) = none ∧
        ∃ entity association rest,
          unresolved ((entitiesOf graphs).map Entity.key) (entitiesOf graphs) =
              (entity, association) :: rest ∧
            ofList graphs =
              .error (.unresolvedTarget entity.key association.name association.target)) ∨
      ∃ accepted, accepted.graphs = graphs ∧ ofList graphs = .ok accepted := by
  unfold ofList
  dsimp only
  split
  · rename_i key hrepeated
    exact .inl ⟨key, hrepeated, rfl⟩
  · rename_i hnone
    split
    · rename_i entity association rest hunresolved
      exact .inr (.inl ⟨hnone, entity, association, rest, hunresolved, rfl⟩)
    · exact .inr (.inr ⟨_, rfl, rfl⟩)

theorem graphs_of_ofList {graphs : List EntityGraph} {accepted : EntityGraphs}
    (haccepted : ofList graphs = .ok accepted) : accepted.graphs = graphs := by
  rcases ofList_cases graphs with ⟨_, -, herror⟩ | ⟨-, _, _, _, -, herror⟩ | ⟨_, hgraphs, hok⟩
  · exact absurd (herror.symm.trans haccepted) (by simp)
  · exact absurd (herror.symm.trans haccepted) (by simp)
  · rw [← Except.ok.inj (hok.symm.trans haccepted), hgraphs]

/-- Where keys repeat, the first one that does so is reported, whatever targets are missing. -/
theorem exists_firstRepeated {graphs : List EntityGraph} (hrepeat : ¬KeysDiffer graphs) :
    ∃ key, FirstRepeated graphs key ∧ ofList graphs = .error (.duplicateEntity key) := by
  rcases ofList_cases graphs with ⟨key, hkey, herror⟩ | ⟨hnone, -⟩ | ⟨accepted, rfl, -⟩
  · exact ⟨key, firstRepeated_of_some hkey, herror⟩
  · exact absurd ((firstRepeated?_eq_none_iff _ _).mp hnone).1 hrepeat
  · exact absurd accepted.nodup_keys hrepeat

/-- Where all keys are different, the first association without a target is reported. -/
theorem exists_firstUnresolved {graphs : List EntityGraph} (hkeys : KeysDiffer graphs)
    (hmissing : ¬AllResolve graphs) :
    ∃ entity association, FirstUnresolved graphs entity association ∧
      ofList graphs =
        .error (.unresolvedTarget entity.key association.name association.target) := by
  rcases ofList_cases graphs with ⟨key, hkey, -⟩ |
      ⟨-, entity, association, _, hunresolved, herror⟩ | ⟨accepted, rfl, -⟩
  · have hnone := (firstRepeated?_eq_none_iff [] _).mpr ⟨hkeys, fun _ _ => List.not_mem_nil⟩
    exact absurd (hkey.symm.trans hnone) (by simp)
  · exact ⟨entity, association, firstUnresolved_of_cons hunresolved, herror⟩
  · exact absurd (allResolve_iff.mpr accepted.target_mem) hmissing

/-- Graphs that were accepted are accepted again, as the same graphs. -/
theorem ofList_graphs (graphs : EntityGraphs) : ofList graphs.graphs = .ok graphs := by
  rcases ofList_cases graphs.graphs with ⟨key, hkey, -⟩ | ⟨-, _, _, _, hunresolved, -⟩ |
      ⟨accepted, hgraphs, hok⟩
  · have hnone := (firstRepeated?_eq_none_iff [] _).mpr
      ⟨graphs.nodup_keys, fun _ _ => List.not_mem_nil⟩
    exact absurd (hkey.symm.trans hnone) (by simp)
  · have hnil := (unresolved_eq_nil_iff _ _).mpr graphs.target_mem
    exact absurd (hunresolved.symm.trans hnil) (by simp)
  · cases accepted
    cases graphs
    cases hgraphs
    exact hok

variable {graphs : EntityGraphs}

/-! ## The index -/

theorem mem_index {key : EntityKey} {slot : Slot} :
    (key, slot) ∈ graphs.index ↔
      ∃ entity, slot.entity? graphs.graphs = some entity ∧ entity.key = key := by
  simp only [index, List.mem_map, Prod.exists, mem_slotsOf, Prod.mk.injEq]
  constructor
  · rintro ⟨_, entity, hentity, hkey, rfl⟩
    exact ⟨entity, hentity, hkey⟩
  · rintro ⟨entity, hentity, hkey⟩
    exact ⟨slot, entity, hentity, hkey, rfl⟩

/-- An entity is found where the index leads. -/
theorem entity?_eq_index (graphs : EntityGraphs) (key : EntityKey) :
    graphs.entity? key = (graphs.index.lookup key).bind (·.entity? graphs.graphs) := by
  cases hslot : graphs.index.lookup key with
  | none =>
      -- an entity with the key would have its slot in the index
      have hnone := List.lookup_eq_none_iff.mp hslot
      refine Option.eq_none_iff_forall_ne_some.mpr ?_
      intro entity hentity
      obtain ⟨hmem, hkey⟩ := entity?_eq_some_iff.mp hentity
      rw [entities, ← slotsOf_map_snd] at hmem
      obtain ⟨⟨slot, _⟩, hslot, rfl⟩ := List.mem_map.mp hmem
      have hentry := hnone _ (mem_index.mpr ⟨_, mem_slotsOf.mp hslot, hkey⟩)
      simp at hentry
  | some slot =>
      obtain ⟨before, after, hsplit, -⟩ := List.lookup_eq_some_iff.mp hslot
      obtain ⟨entity, hentity, hkey⟩ : ∃ entity, slot.entity? graphs.graphs = some entity ∧
          entity.key = key := by
        rw [← mem_index, hsplit]
        exact List.mem_append_right _ List.mem_cons_self
      have hmem : entity ∈ graphs.entities := by
        rw [entities, ← slotsOf_map_snd]
        exact List.mem_map_of_mem (mem_slotsOf.mpr hentity)
      rw [Option.bind_some, hentity]
      exact entity?_eq_some_iff.mpr ⟨hmem, hkey⟩

theorem length_index (graphs : EntityGraphs) : graphs.index.length = graphs.entities.length := by
  rw [index, entities, ← slotsOf_map_snd, List.length_map, List.length_map]

/-- What is found under a key is the only entity with that key. -/
theorem entity?_eq_some_iff_filter {key : EntityKey} {entity : Entity} :
    graphs.entity? key = some entity ↔
      graphs.entities.filter (·.qualifiedName = key) = [entity] := by
  constructor
  · intro hfound
    obtain ⟨hmem, rfl⟩ := entity?_eq_some_iff.mp hfound
    exact filter_eq_singleton_of_nodup_map graphs.nodup_keys hmem
  · intro honly
    have hmem : entity ∈ graphs.entities.filter (·.qualifiedName = key) :=
      honly ▸ List.mem_singleton_self entity
    obtain ⟨hmem, hkey⟩ := List.mem_filter.mp hmem
    exact entity?_eq_some_iff.mpr ⟨hmem, of_decide_eq_true hkey⟩

theorem entity?_eq_none_iff {key : EntityKey} :
    graphs.entity? key = none ↔ ∀ entity ∈ graphs.entities, entity.qualifiedName ≠ key := by
  simp only [entity?, List.find?_eq_none, decide_eq_true_eq]
  rfl

/-- The index has one slot for each entity, and an entity is found under its key and under no
other. -/
structure IndexFaithful (graphs : EntityGraphs) : Prop where
  /-- Under every key the entity in the slot is found to which the index leads. -/
  slot : ∀ key, graphs.entity? key = (graphs.index.lookup key).bind (·.entity? graphs.graphs)
  /-- It is the only one of all entities with the key. -/
  found : ∀ key entity, graphs.entity? key = some entity ↔
    graphs.entities.filter (·.qualifiedName = key) = [entity]
  missing : ∀ key, graphs.entity? key = none ↔
    ∀ entity ∈ graphs.entities, entity.qualifiedName ≠ key
  size : graphs.size = graphs.entities.length
  isEmpty : graphs.isEmpty ↔ graphs.entities = []

theorem indexFaithful (graphs : EntityGraphs) : graphs.IndexFaithful where
  slot := graphs.entity?_eq_index
  found _ _ := entity?_eq_some_iff_filter
  missing _ := entity?_eq_none_iff
  size := graphs.length_index
  isEmpty := by
    rw [isEmpty, List.isEmpty_iff, ← List.length_eq_zero_iff, length_index,
      List.length_eq_zero_iff]

/-! ## Acceptance -/

/-- Graphs are accepted, as they are and with a faithful index, if and only if their entities have
different keys and every association resolves.  Otherwise the first repeated key is reported or,
if there is none, the first association that does not resolve. -/
theorem ofList_exact (graphs : List EntityGraph) :
    ((∃ accepted, ofList graphs = .ok accepted) ↔ KeysDiffer graphs ∧ AllResolve graphs) ∧
      (¬KeysDiffer graphs → ∃ key, FirstRepeated graphs key ∧
        ofList graphs = .error (.duplicateEntity key)) ∧
      (KeysDiffer graphs → ¬AllResolve graphs →
        ∃ entity association, FirstUnresolved graphs entity association ∧
          ofList graphs =
            .error (.unresolvedTarget entity.key association.name association.target)) ∧
      ∀ accepted, ofList graphs = .ok accepted →
        accepted.graphs = graphs ∧ accepted.IndexFaithful := by
  refine ⟨⟨?_, ?_⟩, exists_firstRepeated, exists_firstUnresolved, ?_⟩
  · rintro ⟨accepted, haccepted⟩
    obtain rfl := graphs_of_ofList haccepted
    exact ⟨accepted.nodup_keys, allResolve_iff.mpr accepted.target_mem⟩
  · rintro ⟨hkeys, hall⟩
    exact ⟨_, ofList_graphs ⟨graphs, hkeys, allResolve_iff.mp hall⟩⟩
  · intro accepted haccepted
    exact ⟨graphs_of_ofList haccepted, accepted.indexFaithful⟩

/-- An order and its customer in two graphs, each with an association to the other. -/
def shopAndCrm (customer nobody : EntityKey) : List EntityGraph :=
  let toOne (name : String) (target : EntityKey) : Association :=
    ⟨name, target, .manyToOne, IdField.named "id" NativeType.long.valueType, none, true, none, none⟩
  [⟨"shop", [{ Entity.named "shop.Order" "orders" with
      associations := [toOne "customer" "crm.Customer", toOne "agent" nobody] }]⟩,
    ⟨"crm", [{ Entity.named customer "customers" with
      associations := [toOne "last" "shop.Order", toOne "owner" nobody] }]⟩]

/-- The graphs are accepted if every target is there.  Without the agent it is the association of
the order that is reported, and if the customer is a second order, this comes before everything
else. -/
theorem shopAndCrm_judged :
    (∃ accepted, ofList (shopAndCrm "crm.Customer" "shop.Order") = .ok accepted ∧
        accepted.IndexFaithful ∧ accepted.size = 2 ∧
        accepted.index.lookup "crm.Customer" = some ⟨1, 0⟩) ∧
      (∃ entity association,
        FirstUnresolved (shopAndCrm "crm.Customer" "crm.Agent") entity association ∧
          (entity.key, association.name) = ("shop.Order", "agent")) ∧
      FirstRepeated (shopAndCrm "shop.Order" "crm.Agent") "shop.Order" := by
  refine ⟨?_, ?_, ?_⟩
  · have haccepted : ∃ accepted, ofList (shopAndCrm "crm.Customer" "shop.Order") = .ok accepted ∧
        accepted.size = 2 ∧ accepted.index.lookup "crm.Customer" = some ⟨1, 0⟩ :=
      ⟨_, rfl, rfl, rfl⟩
    obtain ⟨accepted, haccepted, hsize, hslot⟩ := haccepted
    obtain ⟨-, -, -, hindex⟩ := ofList_exact (shopAndCrm "crm.Customer" "shop.Order")
    exact ⟨accepted, haccepted, (hindex accepted haccepted).2, hsize, hslot⟩
  · obtain ⟨haccepts, -, hunresolved, -⟩ := ofList_exact (shopAndCrm "crm.Customer" "crm.Agent")
    have herror : ofList (shopAndCrm "crm.Customer" "crm.Agent") =
        .error (.unresolvedTarget "shop.Order" "agent" "crm.Agent") := rfl
    have hkeys : KeysDiffer (shopAndCrm "crm.Customer" "crm.Agent") :=
      show ["shop.Order", "crm.Customer"].Nodup by decide
    have hmissing : ¬AllResolve (shopAndCrm "crm.Customer" "crm.Agent") := by
      intro hall
      obtain ⟨accepted, haccepted⟩ := haccepts.mpr ⟨hkeys, hall⟩
      exact absurd (herror.symm.trans haccepted) (by simp)
    obtain ⟨entity, association, hfirst, hreported⟩ := hunresolved hkeys hmissing
    refine ⟨entity, association, hfirst, ?_⟩
    rw [herror, Except.error.injEq, ModelError.unresolvedTarget.injEq] at hreported
    rw [← hreported.1, ← hreported.2.1]
  · obtain ⟨-, hrepeated, -, -⟩ := ofList_exact (shopAndCrm "shop.Order" "crm.Agent")
    have herror : ofList (shopAndCrm "shop.Order" "crm.Agent") =
        .error (.duplicateEntity "shop.Order") := rfl
    have hrepeat : ¬KeysDiffer (shopAndCrm "shop.Order" "crm.Agent") :=
      show ¬["shop.Order", "shop.Order"].Nodup by decide
    obtain ⟨key, hfirst, hreported⟩ := hrepeated hrepeat
    rw [herror, Except.error.injEq, ModelError.duplicateEntity.injEq] at hreported
    obtain rfl := hreported
    exact hfirst

end EntityGraphs
end EntityTables
