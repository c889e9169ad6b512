/-!
# Ordered sets

A finite set is kept as the list of its elements in strictly ascending order.
-/

namespace EntityTables.Ordered

variable {α : Type} [Ord α]

def insert (a : α) : List α → List α
  | [] => [a]
  | b :: set =>
    match compare a b with
    | .lt => a :: b :: set
    | .eq => b :: set
    | .gt => b :: insert a set

def insertAll (set : List α) (elements : List α) : List α :=
  elements.foldl (fun set a => insert a set) set

def ofList (elements : List α) : List α :=
  insertAll [] elements

/-- What every set keeps: its elements stand in strictly ascending order. -/
def Ascending (set : List α) : Prop :=
  set.Pairwise fun a b => compare a b = .lt

/-! ## The elements of a set -/

section

variable [Std.LawfulEqOrd α]

@[simp] theorem mem_insert {a b : α} {set : List α} :
    b ∈ insert a set ↔ b = a ∨ b ∈ set := by
  induction set with
  | nil => simp [insert]
  | cons c set ih =>
    unfold insert
    split
    · simp
    · rename_i heq
      have : a = c := Std.LawfulEqCmp.eq_of_compare heq
      subst this
      simp
    · simp only [List.mem_cons, ih]
      grind

@[simp] theorem mem_insertAll {b : α} {set elements : List α} :
    b ∈ insertAll set elements ↔ b ∈ set ∨ b ∈ elements := by
  induction elements generalizing set with
  | nil => simp [insertAll]
  | cons a elements ih =>
    rw [insertAll, List.foldl_cons, ← insertAll, ih]
    simp only [mem_insert, List.mem_cons]
    grind

@[simp] theorem mem_ofList {b : α} {elements : List α} : b ∈ ofList elements ↔ b ∈ elements := by
  simp [ofList]

end

/-! ## The order of a set -/

theorem ascending_insert [Std.LawfulEqOrd α] [Std.TransOrd α] {a : α} {set : List α}
    (hset : Ascending set) : Ascending (insert a set) := by
  induction set with
  | nil => exact List.pairwise_singleton _ _
  | cons b set ih =>
    obtain ⟨hfirst, hrest⟩ := List.pairwise_cons.mp hset
    unfold insert
    split
    · rename_i hlt
      refine List.pairwise_cons.mpr ⟨?_, hset⟩
      intro c hmem
      rcases List.mem_cons.mp hmem with rfl | hmem
      · exact hlt
      · exact Std.TransCmp.lt_trans hlt (hfirst c hmem)
    · exact hset
    · rename_i hgt
      refine List.pairwise_cons.mpr ⟨?_, ih hrest⟩
      intro c hmem
      rcases mem_insert.mp hmem with rfl | hmem
      · exact Std.OrientedCmp.gt_iff_lt.mp hgt
      · exact hfirst c hmem

theorem ascending_insertAll [Std.LawfulEqOrd α] [Std.TransOrd α] {set elements : List α}
    (hset : Ascending set) : Ascending (insertAll set elements) := by
  induction elements generalizing set with
  | nil => exact hset
  | cons a elements ih => exact ih (ascending_insert hset)

end EntityTables.Ordered
