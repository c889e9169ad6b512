import Mathlib.Data.List.TakeWhile
import EntityTables.Proofs.Model.Graphs

/-!
# Names of entities

A name can be put together of two parts with a separator between them.  Parts that contain the
separator themselves can give the name of other parts.

A qualified name consists of a package and a last segment with a dot between them, or of the last
segment alone.  An entity that is named by its last segment is identified by its package and its
name, unless a name starts with a dot: then its package is empty, as if there were no dot.

* `append_separator_eq_iff`: when parts with a separator between them give one name;
* `toList_of_dot`, `lastSegment_of_no_dot`: the parts of a qualified name;
* `eq_of_packageOf_eq`: the parts determine a qualified name without empty segments;
* `EntityGraphs.eq_of_name_eq`: the entities of a package have different names.
-/

namespace EntityTables

/-! ## Parts with a separator -/

/-- If one name in front of a separator goes on where another ends, the names are the same, or the
separator stands where the other ends. -/
private theorem of_append_separator_eq {separator : String} {c : Char}
    (hseparator : separator.toList = [c]) {front back otherFront otherBack : String}
    {middle : List Char} (hfront : otherFront.toList = front.toList ++ middle)
    (hback : c :: back.toList = middle ++ c :: otherBack.toList) :
    (front = otherFront ∧ back = otherBack) ∨
      ∃ shared, otherFront = front ++ separator ++ shared ∧
        back = shared ++ separator ++ otherBack := by
  cases middle with
  | nil =>
      left
      rw [List.append_nil] at hfront
      have hbacks := (List.cons.inj hback).2
      exact ⟨(String.toList_inj.mp hfront).symm, String.toList_inj.mp hbacks⟩
  | cons first shared =>
      right
      rw [List.cons_append, List.cons.injEq] at hback
      obtain ⟨rfl, hback⟩ := hback
      refine ⟨String.ofList shared, ?_, ?_⟩
      · simp [← String.toList_inj, hfront, hseparator]
      · simp [← String.toList_inj, hback, hseparator]

/-- Two names of two parts are the same if their parts are, or if the first part of one goes on
behind that of the other, with the separator and a text.  In the other name the text stands at the
start of the second part, before a separator. -/
theorem append_separator_eq_iff {separator : String} {c : Char}
    (hseparator : separator.toList = [c]) {front back otherFront otherBack : String} :
    front ++ separator ++ back = otherFront ++ separator ++ otherBack ↔
      (front = otherFront ∧ back = otherBack) ∨
        (∃ shared, otherFront = front ++ separator ++ shared ∧
          back = shared ++ separator ++ otherBack) ∨
        ∃ shared, front = otherFront ++ separator ++ shared ∧
          otherBack = shared ++ separator ++ back := by
  constructor
  · intro heq
    simp only [← String.toList_inj, String.toList_append, hseparator, List.append_assoc,
      List.singleton_append] at heq
    rcases List.append_eq_append_iff.mp heq with ⟨middle, hfront, hback⟩ | ⟨middle, hfront, hback⟩
    · exact (of_append_separator_eq hseparator hfront hback).imp_right .inl
    · refine (of_append_separator_eq hseparator hfront hback).imp ?_ .inr
      rintro ⟨rfl, rfl⟩
      exact ⟨rfl, rfl⟩
  · rintro (⟨rfl, rfl⟩ | ⟨shared, rfl, rfl⟩ | ⟨shared, rfl, rfl⟩)
    · rfl
    · simp only [String.append_assoc]
    · simp only [String.append_assoc]

/-- The segment before every dot of a qualified name is not empty. -/
def WellQualified (qualifiedName : String) : Prop :=
  ∀ segment ∈ (qualifiedName.toList.splitOn '.').dropLast, segment ≠ []

instance (qualifiedName : String) : Decidable (WellQualified qualifiedName) :=
  inferInstanceAs
    (Decidable (∀ segment ∈ (qualifiedName.toList.splitOn '.').dropLast, segment ≠ []))

section

variable {qualifiedName other : String}

/-! ## The parts of a qualified name -/

/-- No character of the list is a dot, in the form in which the parts of a name are cut off. -/
private theorem ne_dot_of_not_mem {chars : List Char} (hfree : '.' ∉ chars) :
    ∀ c ∈ chars, decide (c ≠ '.') = true := by
  intro c hc
  apply decide_eq_true
  rintro rfl
  exact hfree hc

theorem toList_of_dot (hdot : '.' ∈ qualifiedName.toList) :
    qualifiedName.toList =
      (packageOf qualifiedName).toList ++ '.' :: (lastSegment qualifiedName).toList := by
  -- the last dot is the first one from behind
  obtain ⟨behind, before, hreversed, hfree⟩ :=
    List.eq_append_cons_of_mem (List.mem_reverse.mpr hdot)
  have hbehind := ne_dot_of_not_mem hfree
  have hsegment : lastSegment qualifiedName = String.ofList behind.reverse := by
    rw [lastSegment, hreversed, List.takeWhile_append_of_pos hbehind,
      List.takeWhile_cons_of_neg (by simp), List.append_nil]
  have hpackage : packageOf qualifiedName = String.ofList before.reverse := by
    rw [packageOf, hreversed, List.dropWhile_append_of_pos hbehind,
      List.dropWhile_cons_of_neg (by simp), List.drop_succ_cons, List.drop_zero]
  calc qualifiedName.toList
      = (behind ++ '.' :: before).reverse := by rw [← hreversed, List.reverse_reverse]
    _ = before.reverse ++ '.' :: behind.reverse := by
        rw [List.reverse_append, List.reverse_cons, List.append_assoc, List.singleton_append]
    _ = (packageOf qualifiedName).toList ++ '.' :: (lastSegment qualifiedName).toList := by
        rw [hpackage, hsegment, String.toList_ofList, String.toList_ofList]

theorem lastSegment_of_no_dot (hdot : '.' ∉ qualifiedName.toList) :
    lastSegment qualifiedName = qualifiedName := by
  have hfree := ne_dot_of_not_mem fun hmem => hdot (List.mem_reverse.mp hmem)
  rw [lastSegment, List.takeWhile_eq_self_iff.mpr hfree, List.reverse_reverse, String.ofList_toList]

theorem packageOf_of_no_dot (hdot : '.' ∉ qualifiedName.toList) :
    packageOf qualifiedName = "" := by
  have hfree := ne_dot_of_not_mem fun hmem => hdot (List.mem_reverse.mp hmem)
  rw [packageOf, List.dropWhile_eq_nil_iff.mpr hfree]
  rfl

/-- What stands before the last dot is not empty, because the first segment is not. -/
theorem WellQualified.packageOf_ne_empty (hqualified : WellQualified qualifiedName)
    (hdot : '.' ∈ qualifiedName.toList) : packageOf qualifiedName ≠ "" := by
  intro hempty
  have hparts := toList_of_dot hdot
  rw [hempty, String.toList_empty, List.nil_append] at hparts
  apply hqualified [] ?_ rfl
  rw [hparts, List.splitOn, List.splitOnP_cons_eq_if_modifyHead, if_pos (by simp),
    List.dropLast_cons_of_ne_nil (List.splitOnP_ne_nil _ _)]
  exact List.mem_cons_self

/-- Qualified names without empty segments are equal if their parts are. -/
theorem eq_of_packageOf_eq (hqualified : WellQualified qualifiedName)
    (hother : WellQualified other) (hpackage : packageOf qualifiedName = packageOf other)
    (hsegment : lastSegment qualifiedName = lastSegment other) : qualifiedName = other := by
  by_cases hdot : '.' ∈ qualifiedName.toList
  · by_cases hotherDot : '.' ∈ other.toList
    · apply String.toList_inj.mp
      rw [toList_of_dot hdot, toList_of_dot hotherDot, hpackage, hsegment]
    · exact absurd (hpackage.trans (packageOf_of_no_dot hotherDot))
        (hqualified.packageOf_ne_empty hdot)
  · by_cases hotherDot : '.' ∈ other.toList
    · exact absurd (hpackage.symm.trans (packageOf_of_no_dot hdot))
        (hother.packageOf_ne_empty hotherDot)
    · rw [← lastSegment_of_no_dot hdot, hsegment, lastSegment_of_no_dot hotherDot]

end

namespace EntityGraphs

/-! ## The names of entities -/

/-- Every entity is named by the last segment of its qualified name. -/
def NamedByKeys (graphs : EntityGraphs) : Prop :=
  ∀ entity ∈ graphs.entities, entity.name = lastSegment entity.qualifiedName

instance (graphs : EntityGraphs) : Decidable graphs.NamedByKeys :=
  inferInstanceAs
    (Decidable (∀ entity ∈ graphs.entities, entity.name = lastSegment entity.qualifiedName))

/-- The entities of a package have different names. -/
theorem eq_of_name_eq {graphs : EntityGraphs} {entity other : Entity}
    (hnames : graphs.NamedByKeys)
    (hqualified : ∀ entity ∈ graphs.entities, WellQualified entity.qualifiedName)
    (hentity : entity ∈ graphs.entities) (hother : other ∈ graphs.entities)
    (hpackage : entity.package = other.package) (hname : entity.name = other.name) :
    entity = other := by
  apply eq_of_key_eq hentity hother
  apply eq_of_packageOf_eq (hqualified entity hentity) (hqualified other hother) hpackage
  rw [← hnames entity hentity, ← hnames other hother, hname]

end EntityGraphs
end EntityTables
