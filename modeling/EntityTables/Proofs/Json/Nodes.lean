import EntityTables.Json.Codec
import EntityTables.Proofs.Json.Tokens

/-!
# The tree of a text

A text is JSON when it is written with the tokens of a well-formed tree.  The machine that builds
trees takes these tokens and is then where it would be if the whole value had been a single token:
the tree is complete and part of the innermost frame.  So the document of a text is the tree that
was written.

* `Node.WellFormed`, `Node.Written`: the trees and the texts of JSON;
* `Node.WellFormed.build_tokens`: the machine behind the tokens of a tree;
* `Node.Written.ofText_eq`: the document of a text is the tree that was written, with nothing behind
  it;
* `Value.node`: the tree of a value, which is what the text of the value is written from.
-/

namespace EntityTables.Json

namespace Node

mutual

/-- The tokens of a tree. -/
def tokens : Node → List Token
  | .leaf token => [token]
  | .array [] _ => [.openBracket, .closeBracket]
  | .array (first :: rest) _ => .openBracket :: first.tokens ++ itemsTokens rest ++ [.closeBracket]
  | .object [] _ => [.openBrace, .closeBrace]
  | .object ((key, first) :: rest) _ =>
    .openBrace :: key :: .colon :: first.tokens ++ membersTokens rest ++ [.closeBrace]

def itemsTokens : List Node → List Token
  | [] => []
  | item :: rest => .comma :: item.tokens ++ itemsTokens rest

def membersTokens : List (Token × Node) → List Token
  | [] => []
  | (key, value) :: rest => .comma :: key :: .colon :: value.tokens ++ membersTokens rest

end

/-- The tree has no fault: its leaves are values, its keys are strings, and its arrays and objects
are closed. -/
inductive WellFormed : Node → Prop
  | leaf {token : Token} (htoken : token.fault? = none) : WellFormed (.leaf token)
  | array {items : List Node} (hitems : ∀ item ∈ items, WellFormed item) :
      WellFormed (.array items .closed)
  | object {members : List (Token × Node)} (hkeys : ∀ member ∈ members, member.1.keyFault? = none)
      (hvalues : ∀ member ∈ members, WellFormed member.2) : WellFormed (.object members .closed)

/-- The text is JSON, written from the tree. -/
structure Written (node : Node) (text : String) : Prop where
  wellFormed : node.WellFormed
  tokens : Token.AllWritten node.tokens text.toList

/-- A tree without a fault is passed over. -/
theorem WellFormed.skip {node : Node} (hnode : node.WellFormed) : node.skip = .ok () := by
  cases hnode with
  | leaf htoken => rw [Node.skip, htoken]
  | array _ => rfl
  | object _ _ => rfl

/-- No tree starts with a closing bracket, so the first item of an array is read as any other
value. -/
theorem WellFormed.exists_first_token {node : Node} (hnode : node.WellFormed) :
    ∃ token rest, node.tokens = token :: rest ∧ token ≠ .closeBracket := by
  cases hnode with
  | @leaf token htoken =>
      refine ⟨token, [], rfl, ?_⟩
      rintro rfl
      contradiction
  | @array items _ =>
      cases items with
      | nil => exact ⟨_, _, rfl, by simp⟩
      | cons first items => exact ⟨_, _, rfl, by simp⟩
  | @object members _ _ =>
      cases members with
      | nil => exact ⟨_, _, rfl, by simp⟩
      | cons member members => exact ⟨_, _, rfl, by simp⟩

end Node

/-! ## The machine -/

/-- How the machine goes on after a step. -/
def Step.run : Step → List Token → Node × List Token
  | .go place stack, rest => build place stack rest
  | .complete root, rest => (root, rest)
  | .stop root, _ => (root, [])

theorem build_cons (place : Place) (stack : List Frame) (token : Token) (rest : List Token) :
    build place stack (token :: rest) = (Step.ofToken place stack token).run rest := by
  rw [build]
  cases Step.ofToken place stack token <;> rfl

theorem build_openBracket (stack : List Frame) (rest : List Token) :
    build .value stack (.openBracket :: rest) = build .firstItem (.items [] :: stack) rest :=
  build_cons ..

theorem build_openBrace (stack : List Frame) (rest : List Token) :
    build .value stack (.openBrace :: rest) = build .firstKey (.members [] :: stack) rest :=
  build_cons ..

/-- A closing bracket completes an array, before its first item as well as behind any other. -/
theorem build_closeBracket {place : Place} (hplace : place = .firstItem ∨ place = .next)
    (done : List Node) (stack : List Frame) (rest : List Token) :
    build place (.items done :: stack) (.closeBracket :: rest) =
      (Step.ofValue (.array done.reverse .closed) stack).run rest := by
  rcases hplace with rfl | rfl <;> exact build_cons ..

/-- A closing brace completes an object, before its first key as well as behind any member. -/
theorem build_closeBrace {place : Place} (hplace : place = .firstKey ∨ place = .next)
    (done : List (Token × Node)) (stack : List Frame) (rest : List Token) :
    build place (.members done :: stack) (.closeBrace :: rest) =
      (Step.ofValue (.object done.reverse .closed) stack).run rest := by
  rcases hplace with rfl | rfl <;> exact build_cons ..

/-- A token that is a value by itself. -/
theorem build_leaf {token : Token} (hvalue : token.fault? = none) (stack : List Frame)
    (rest : List Token) :
    build .value stack (token :: rest) = (Step.ofValue (.leaf token) stack).run rest := by
  rw [build_cons]
  cases token <;> simp_all [Step.ofToken, Step.atValue, Token.fault?]

/-- The key of a member and the colon behind it. -/
theorem build_key {place : Place} (hplace : place = .firstKey ∨ place = .key) {key : Token}
    (hkey : key.keyFault? = none) (done : List (Token × Node)) (stack : List Frame)
    (rest : List Token) :
    build place (.members done :: stack) (key :: .colon :: rest) =
      build .value (.member done key :: stack) rest := by
  have hatKey : Step.atKey (.members done :: stack) key = .go .colon (.member done key :: stack) := by
    simp only [Step.atKey, hkey]
  have hstep : Step.ofToken place (.members done :: stack) key =
      Step.atKey (.members done :: stack) key := by
    rcases hplace with rfl | rfl
    · cases key <;> first | rfl | contradiction
    · cases key <;> rfl
  rw [build_cons, hstep, hatKey]
  rfl

namespace Node

/-- Behind its tokens the tree is complete. -/
def Complete (node : Node) : Prop :=
  ∀ stack rest, build .value stack (node.tokens ++ rest) = (Step.ofValue node stack).run rest

/-- The first item of an array is a value. -/
theorem WellFormed.build_firstItem {node : Node} (hnode : node.WellFormed) (stack : List Frame)
    (rest : List Token) :
    build .firstItem stack (node.tokens ++ rest) = build .value stack (node.tokens ++ rest) := by
  obtain ⟨token, more, htokens, hopen⟩ := hnode.exists_first_token
  have hstep : Step.ofToken .firstItem stack token = Step.atValue stack token := by
    cases token <;> first | rfl | contradiction
  rw [htokens, List.cons_append, build_cons, build_cons, hstep]
  rfl

/-- Behind the further items and the closing bracket an array is complete. -/
theorem build_itemsTokens {items : List Node} (hitems : ∀ item ∈ items, item.Complete)
    (done : List Node) (stack : List Frame) (rest : List Token) :
    build .next (.items done :: stack) (itemsTokens items ++ .closeBracket :: rest) =
      (Step.ofValue (.array (done.reverse ++ items) .closed) stack).run rest := by
  induction items generalizing done with
  | nil => rw [itemsTokens, List.nil_append, build_closeBracket (.inr rfl), List.append_nil]
  | cons item items ih =>
      obtain ⟨hitem, hitems⟩ := List.forall_mem_cons.mp hitems
      have hfirst : build .next (.items done :: stack)
          (itemsTokens (item :: items) ++ .closeBracket :: rest) =
            build .next (.items (item :: done) :: stack)
              (itemsTokens items ++ .closeBracket :: rest) := by
        simp only [itemsTokens, List.cons_append, List.append_assoc]
        exact hitem (.items done :: stack) _
      rw [hfirst, ih hitems, List.reverse_cons, List.append_assoc, List.singleton_append]

/-- Behind the further members and the closing brace an object is complete. -/
theorem build_membersTokens {members : List (Token × Node)}
    (hkeys : ∀ member ∈ members, member.1.keyFault? = none)
    (hvalues : ∀ member ∈ members, member.2.Complete) (done : List (Token × Node))
    (stack : List Frame) (rest : List Token) :
    build .next (.members done :: stack) (membersTokens members ++ .closeBrace :: rest) =
      (Step.ofValue (.object (done.reverse ++ members) .closed) stack).run rest := by
  induction members generalizing done with
  | nil => rw [membersTokens, List.nil_append, build_closeBrace (.inr rfl), List.append_nil]
  | cons member members ih =>
      obtain ⟨key, value⟩ := member
      obtain ⟨hkey, hkeys⟩ := List.forall_mem_cons.mp hkeys
      obtain ⟨hvalue, hvalues⟩ := List.forall_mem_cons.mp hvalues
      have hfirst : build .next (.members done :: stack)
          (membersTokens ((key, value) :: members) ++ .closeBrace :: rest) =
            build .next (.members ((key, value) :: done) :: stack)
              (membersTokens members ++ .closeBrace :: rest) := by
        simp only [membersTokens, List.cons_append, List.append_assoc]
        rw [build_cons]
        refine (build_key (.inr rfl) hkey done stack _).trans ?_
        exact hvalue (.member done key :: stack) _
      rw [hfirst, ih hkeys hvalues, List.reverse_cons, List.append_assoc, List.singleton_append]

theorem WellFormed.complete {node : Node} (hnode : node.WellFormed) : node.Complete := by
  induction hnode with
  | leaf htoken => exact build_leaf htoken
  | @array items hitems ih =>
      intro stack rest
      cases items with
      | nil =>
          simp only [tokens, List.cons_append, List.nil_append]
          rw [build_openBracket, build_closeBracket (.inl rfl)]
          rfl
      | cons first items =>
          obtain ⟨hfirst, hmore⟩ := List.forall_mem_cons.mp ih
          simp only [tokens, List.cons_append, List.append_assoc, List.nil_append]
          rw [build_openBracket, (hitems first List.mem_cons_self).build_firstItem, hfirst]
          exact build_itemsTokens hmore [first] stack rest
  | @object members hkeys _ ih =>
      intro stack rest
      cases members with
      | nil =>
          simp only [tokens, List.cons_append, List.nil_append]
          rw [build_openBrace, build_closeBrace (.inl rfl)]
          rfl
      | cons member members =>
          obtain ⟨key, first⟩ := member
          obtain ⟨hkey, hkeys⟩ := List.forall_mem_cons.mp hkeys
          obtain ⟨hfirst, hmore⟩ := List.forall_mem_cons.mp ih
          simp only [tokens, List.cons_append, List.append_assoc, List.nil_append]
          rw [build_openBrace, build_key (.inl rfl) hkey, hfirst]
          exact build_membersTokens hkeys hmore [(key, first)] stack rest

/-- The document of a text is the tree that was written, with nothing behind it. -/
theorem Written.ofText_eq {node : Node} {text : String} (htext : node.Written text) :
    Document.ofText text = ⟨node, false⟩ := by
  have hbuild : build .value [] node.tokens = (node, []) := by
    have hcomplete := htext.wellFormed.complete [] []
    rwa [List.append_nil] at hcomplete
  rw [Document.ofText, htext.tokens.tokens_eq, hbuild]
  rfl

end Node

/-! ## Values -/

namespace Value

mutual

def node : Value → Node
  | .null => .leaf .null
  | .bool value => .leaf (.bool value)
  | .number value => .leaf (.number (.ofInt value))
  | .string text => .leaf (.string (.ofText text))
  | .array items => .array (itemNodes items) .closed
  | .object members => .object (memberNodes members) .closed

def itemNodes : List Value → List Node
  | [] => []
  | item :: rest => item.node :: itemNodes rest

def memberNodes : List (String × Value) → List (Token × Node)
  | [] => []
  | (key, value) :: rest => (.string (.ofText key), value.node) :: memberNodes rest

end

theorem itemNodes_eq_map (items : List Value) : itemNodes items = items.map node := by
  induction items with
  | nil => rfl
  | cons item items ih => rw [itemNodes, ih, List.map_cons]

theorem memberNodes_eq_map (members : List (String × Value)) :
    memberNodes members = members.map fun (key, value) => (.string (.ofText key), value.node) := by
  induction members with
  | nil => rfl
  | cons member members ih => rw [memberNodes, ih, List.map_cons]

mutual

theorem node_tokens (value : Value) : value.node.tokens = value.tokens := by
  match value with
  | .null | .bool _ | .number _ | .string _ | .array [] | .object [] => rfl
  | .array (first :: items) =>
      rw [node, itemNodes, Node.tokens, node_tokens first, itemNodes_tokens items, tokens]
  | .object ((key, first) :: members) =>
      rw [node, memberNodes, Node.tokens, node_tokens first, memberNodes_tokens members, tokens]

theorem itemNodes_tokens (items : List Value) :
    Node.itemsTokens (itemNodes items) = itemsTokens items := by
  match items with
  | [] => rfl
  | item :: items =>
      rw [itemNodes, Node.itemsTokens, node_tokens item, itemNodes_tokens items, itemsTokens]

theorem memberNodes_tokens (members : List (String × Value)) :
    Node.membersTokens (memberNodes members) = membersTokens members := by
  match members with
  | [] => rfl
  | (key, value) :: members =>
      rw [memberNodes, Node.membersTokens, node_tokens value, memberNodes_tokens members,
        membersTokens]

end

mutual

theorem wellFormed_node (value : Value) : value.node.WellFormed := by
  match value with
  | .null | .bool _ | .number _ | .string _ => exact .leaf rfl
  | .array items => exact .array (wellFormed_itemNodes items)
  | .object members =>
      exact .object (fun member hmember => (wellFormed_memberNodes members member hmember).1)
        fun member hmember => (wellFormed_memberNodes members member hmember).2

theorem wellFormed_itemNodes (items : List Value) : ∀ item ∈ itemNodes items, item.WellFormed := by
  match items with
  | [] => exact List.forall_mem_nil _
  | item :: items =>
      exact List.forall_mem_cons.mpr ⟨wellFormed_node item, wellFormed_itemNodes items⟩

theorem wellFormed_memberNodes (members : List (String × Value)) :
    ∀ member ∈ memberNodes members, member.1.keyFault? = none ∧ member.2.WellFormed := by
  match members with
  | [] => exact List.forall_mem_nil _
  | (key, value) :: members =>
      exact List.forall_mem_cons.mpr
        ⟨⟨rfl, wellFormed_node value⟩, wellFormed_memberNodes members⟩

end

/-- The text of a value is written from the tree of the value. -/
theorem written_text {spacing : Spacing} (hspacing : spacing.Blank) (value : Value) :
    value.node.Written (value.text spacing) where
  wellFormed := value.wellFormed_node
  tokens := value.node_tokens ▸ allWritten_text hspacing value

end Value

end EntityTables.Json
