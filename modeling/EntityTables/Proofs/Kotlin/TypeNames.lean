import EntityTables.Generation
import EntityTables.Proofs.Model.Names

/-!
# What the names of types tell

A file writes types by name, and each by a name that can be shorter than its qualified one: a type
of the file's own package and a type of the default package are both written by their simple names.
Two different types of a file have the same name in two cases.

* They are namesakes: a type of the file's own package has the simple name of a type of the default
  package, in whichever way the second is spelled.
* The simple name of one has a dot, and reads as a part of the package of the other.

Spellings of one native type are not told apart, and need not be.

* `ValueType.sameAs_iff`: which types are the same;
* `ValueType.qualifiedName_eq_iff`: when qualified names are the same;
* `simpleTypeName_eq`: the name of a type is the qualified name of the type that it is shown as;
* `typeName_tells_apart_iff`: when names tell two types apart.
-/

namespace EntityTables

variable {type other : ValueType}

/-! ## The same type -/

namespace NativeType

variable {native : NativeType}

theorem package_ne_empty (native : NativeType) : native.valueType.package ≠ "" := by
  cases native <;> decide

/-- A native type is spelled by its boxed type. -/
theorem native?_of_boxed (hboxed : native.boxed? = some type) : type.native? = some native := by
  cases native <;> cases hboxed <;> decide

/-- Only native types of the default package have a boxed type. -/
theorem default_of_boxed (hboxed : native.boxed? = some type) :
    native.valueType.package = Kotlin.defaultPackage := by
  cases native <;> cases hboxed <;> rfl

/-- No boxed type belongs to the default package. -/
theorem package_of_boxed (hboxed : native.boxed? = some type) :
    type.package ≠ Kotlin.defaultPackage := by
  cases native <;> cases hboxed <;> decide

end NativeType

namespace ValueType

theorem native?_eq_some_iff {native : NativeType} :
    type.native? = some native ↔ type = native.valueType ∨ some type = native.boxed? := by
  constructor
  · intro hnative
    have hspelled := List.find?_some hnative
    simpa [NativeType.isSpelled] using hspelled
  · rintro (rfl | hboxed)
    · exact native.native?_valueType
    · exact NativeType.native?_of_boxed hboxed.symm

/-- The types are the same, or spell the same native type. -/
def SameAs (type other : ValueType) : Prop :=
  type = other ∨ ∃ native, type.native? = some native ∧ other.native? = some native

/-- The declared type of the native type that a type spells, or else the type itself. -/
def canonical (type : ValueType) : ValueType :=
  (type.native?.map NativeType.valueType).getD type

theorem canonical_of_native? {native : NativeType} (hnative : type.native? = some native) :
    type.canonical = native.valueType := by
  rw [canonical, hnative, Option.map_some, Option.getD_some]

theorem canonical_of_none (hnone : type.native? = none) : type.canonical = type := by
  rw [canonical, hnone, Option.map_none, Option.getD_none]

/-- The declared type of a native type spells that type and no other. -/
theorem native?_canonical : type.canonical.native? = type.native? := by
  cases hnative : type.native? with
  | none => rw [canonical_of_none hnative, hnative]
  | some native => rw [canonical_of_native? hnative, native.native?_valueType]

theorem sameAs_iff : type.SameAs other ↔ type.canonical = other.canonical := by
  constructor
  · rintro (rfl | ⟨native, htype, hother⟩)
    · rfl
    · rw [canonical_of_native? htype, canonical_of_native? hother]
  · intro heq
    have hnatives : type.native? = other.native? := by
      rw [← native?_canonical, heq, native?_canonical]
    cases hother : other.native? with
    | none =>
        rw [hother] at hnatives
        rw [canonical_of_none hnatives, canonical_of_none hother] at heq
        exact .inl heq
    | some native => exact .inr ⟨native, hnatives.trans hother, hother⟩

instance : DecidableRel SameAs := fun _ _ => decidable_of_iff _ sameAs_iff.symm

theorem SameAs.symm (hsame : type.SameAs other) : other.SameAs type :=
  sameAs_iff.mpr (sameAs_iff.mp hsame).symm

/-- A type of the default package is not another spelling. -/
theorem canonical_of_default (hdefault : type.package = Kotlin.defaultPackage) :
    type.canonical = type := by
  cases hnative : type.native? with
  | none => exact canonical_of_none hnative
  | some native =>
      rw [canonical_of_native? hnative]
      rcases native?_eq_some_iff.mp hnative with rfl | hboxed
      · rfl
      · exact absurd hdefault (NativeType.package_of_boxed hboxed.symm)

theorem package_canonical_ne_empty (htype : type.package ≠ "") : type.canonical.package ≠ "" := by
  cases hnative : type.native? with
  | none => rwa [canonical_of_none hnative]
  | some native =>
      rw [canonical_of_native? hnative]
      exact native.package_ne_empty

/-! ## Qualified names -/

/-- The package of the other type goes on where that of this type ends, with a text that stands in
the simple name of this type, before a dot. -/
def RunsInto (type other : ValueType) : Prop :=
  other.package ≠ "" ∧ ∃ shared, other.package = qualifiedName ⟨type.package, shared⟩ ∧
    type.simpleName = shared ++ "." ++ other.simpleName

theorem qualifiedName_of_root (hroot : type.package = "") :
    type.qualifiedName = type.simpleName :=
  if_pos hroot

theorem qualifiedName_of_package (hpackage : type.package ≠ "") :
    type.qualifiedName = type.package ++ "." ++ type.simpleName :=
  if_neg hpackage

theorem RunsInto.mem_simpleName (hruns : type.RunsInto other) : '.' ∈ type.simpleName.toList := by
  obtain ⟨-, shared, -, hname⟩ := hruns
  simp [hname]

theorem not_runsInto_of_root (hroot : other.package = "") : ¬type.RunsInto other :=
  fun hruns => hruns.1 hroot

theorem not_runsInto_self (type : ValueType) : ¬type.RunsInto type := by
  rintro ⟨-, shared, -, hname⟩
  have hlength := congrArg String.length hname
  simp only [String.length_append] at hlength
  have hdot : ".".length = 1 := rfl
  omega

/-- A type without a package has the qualified name of another if its simple name is that name. -/
theorem qualifiedName_eq_iff_of_root (hroot : type.package = "") (hother : other.package ≠ "") :
    type.qualifiedName = other.qualifiedName ↔ type.RunsInto other := by
  simp [RunsInto, qualifiedName, hroot, hother]

/-- Two types have the same qualified name if they are the same, or one runs into the other. -/
theorem qualifiedName_eq_iff :
    type.qualifiedName = other.qualifiedName ↔
      type = other ∨ type.RunsInto other ∨ other.RunsInto type := by
  by_cases hroot : type.package = ""
  · by_cases hother : other.package = ""
    · cases type
      cases other
      simp_all [not_runsInto_of_root, qualifiedName_of_root]
    · have hne : type ≠ other := fun heq => hother (heq ▸ hroot)
      simp [hne, not_runsInto_of_root hroot, qualifiedName_eq_iff_of_root hroot hother]
  · by_cases hother : other.package = ""
    · have hne : type ≠ other := fun heq => hroot (heq ▸ hother)
      rw [eq_comm, qualifiedName_eq_iff_of_root hother hroot]
      simp [hne, not_runsInto_of_root hother]
    · rw [qualifiedName_of_package hroot, qualifiedName_of_package hother,
        append_separator_eq_iff (rfl : ".".toList = ['.'])]
      cases type
      cases other
      simp_all [RunsInto, qualifiedName]

end ValueType

namespace Kotlin

variable {package : String}

/-! ## Names in a file -/

/-- A type without its package, if that is the default package. -/
def unqualified (type : ValueType) : ValueType :=
  if type.package = defaultPackage then ⟨"", type.simpleName⟩ else type

/-- The type that a type is shown as in a file of the package: one of the same package without its
package, and any other as it is spelled canonically. -/
def shown (package : String) (type : ValueType) : ValueType :=
  if type.package = package then ⟨"", type.simpleName⟩ else unqualified type.canonical

/-- The name of a type is the qualified name of what it is shown as. -/
theorem simpleTypeName_eq (package : String) (type : ValueType) :
    simpleTypeName package type = (shown package type).qualifiedName := by
  by_cases hown : type.package = package
  · rw [simpleTypeName, if_pos (.inr hown), shown, if_pos hown]
    rfl
  · rw [shown, if_neg hown, unqualified]
    by_cases hdefault : type.package = defaultPackage
    · rw [simpleTypeName, if_pos (.inl hdefault), ValueType.canonical_of_default hdefault,
        if_pos hdefault]
      rfl
    · rw [simpleTypeName, if_neg (by simp [hown, hdefault])]
      cases hnative : type.native? with
      | none => rw [ValueType.canonical_of_none hnative, if_neg hdefault]
      | some native =>
          rw [ValueType.canonical_of_native? hnative]
          by_cases hhome : native.valueType.package = defaultPackage
          · simp only [if_pos hhome]
            rfl
          · simp only [if_neg hhome]

theorem typeName_eq_iff (package : String) (nullable : Bool) (type other : ValueType) :
    typeName package nullable type = typeName package nullable other ↔
      simpleTypeName package type = simpleTypeName package other := by
  cases nullable <;> simp [typeName]

theorem unqualified_eq_iff (htype : type.package ≠ "") {name : String} :
    unqualified type = ⟨"", name⟩ ↔ type = ⟨defaultPackage, name⟩ := by
  obtain ⟨package, simpleName⟩ := type
  by_cases hdefault : package = defaultPackage
  · simp [unqualified, hdefault]
  · simp_all [unqualified]

theorem unqualified_inj (htype : type.package ≠ "") (hother : other.package ≠ "")
    (heq : unqualified type = unqualified other) : type = other := by
  obtain ⟨package, name⟩ := type
  obtain ⟨otherPackage, otherName⟩ := other
  unfold unqualified at heq
  split at heq <;> split at heq <;> simp_all

/-! ## Types of one name -/

/-- A type takes the name of another one, which is a different type. -/
inductive Hides (package : String) (type other : ValueType) : Prop
  /-- It belongs to the package of the file, and the other one to the default package. -/
  | namesake (hown : type.package = package) (hforeign : other.package ≠ package)
      (hname : other.canonical = ⟨defaultPackage, type.simpleName⟩)
      (hdifferent : ¬type.SameAs other)
  | runsInto (hruns : (shown package type).RunsInto (shown package other))

theorem Hides.simpleTypeName_eq (hhides : Hides package type other) :
    simpleTypeName package type = simpleTypeName package other := by
  rw [Kotlin.simpleTypeName_eq, Kotlin.simpleTypeName_eq, ValueType.qualifiedName_eq_iff]
  cases hhides with
  | namesake hown hforeign hname =>
      left
      rw [shown, shown, if_pos hown, if_neg hforeign, hname]
      rfl
  | runsInto hruns => exact .inr (.inl hruns)

theorem package_canonical_of_shown (hshown : (shown package type).package ≠ "") :
    type.canonical.package ≠ defaultPackage := by
  intro hdefault
  apply hshown
  unfold shown
  split
  · rfl
  · rw [unqualified, if_pos hdefault]

/-- A type that is shown with its package has no other spelling. -/
theorem eq_of_sameAs (hsame : type.SameAs other) (hshown : (shown package other).package ≠ "") :
    type = other := by
  rcases hsame with rfl | ⟨native, htype, hother⟩
  · rfl
  · have hforeign := package_canonical_of_shown hshown
    rw [ValueType.canonical_of_native? hother] at hforeign
    have honly : ∀ {spelling : ValueType}, spelling.native? = some native →
        spelling = native.valueType := by
      intro spelling hspelling
      refine (ValueType.native?_eq_some_iff.mp hspelling).resolve_right fun hboxed => ?_
      exact hforeign (NativeType.default_of_boxed hboxed.symm)
    rw [honly htype, honly hother]

theorem Hides.not_sameAs (hhides : Hides package type other) : ¬type.SameAs other := by
  cases hhides with
  | namesake _ _ _ hdifferent => exact hdifferent
  | runsInto hruns =>
      intro hsame
      obtain rfl := eq_of_sameAs hsame hruns.1
      exact ValueType.not_runsInto_self _ hruns

/-- Types that are shown alike are the same, unless one is a namesake of the other. -/
theorem sameAs_of_shown_eq (htype : type.package ≠ "") (hother : other.package ≠ "")
    (hshown : shown package type = shown package other)
    (hhides : ¬Hides package type other) (hhidden : ¬Hides package other type) :
    type.SameAs other := by
  unfold shown at hshown
  by_cases hown : type.package = package
  · by_cases hotherOwn : other.package = package
    · rw [if_pos hown, if_pos hotherOwn, ValueType.mk.injEq] at hshown
      left
      cases type
      cases other
      simp_all
    · rw [if_pos hown, if_neg hotherOwn, eq_comm,
        unqualified_eq_iff (ValueType.package_canonical_ne_empty hother)] at hshown
      by_contra hdifferent
      exact hhides (.namesake hown hotherOwn hshown hdifferent)
  · by_cases hotherOwn : other.package = package
    · rw [if_neg hown, if_pos hotherOwn,
        unqualified_eq_iff (ValueType.package_canonical_ne_empty htype)] at hshown
      by_contra hdifferent
      exact hhidden (.namesake hotherOwn hown hshown fun hsame => hdifferent hsame.symm)
    · rw [if_neg hown, if_neg hotherOwn] at hshown
      exact ValueType.sameAs_iff.mpr (unqualified_inj (ValueType.package_canonical_ne_empty htype)
        (ValueType.package_canonical_ne_empty hother) hshown)

/-- In a file of any package, the names of two types with packages tell whether the types are the
same, if and only if neither type hides the other. -/
theorem typeName_tells_apart_iff (htype : type.package ≠ "") (hother : other.package ≠ "")
    (nullable : Bool) :
    (typeName package nullable type = typeName package nullable other → type.SameAs other) ↔
      ¬Hides package type other ∧ ¬Hides package other type := by
  rw [typeName_eq_iff]
  constructor
  · intro htells
    constructor
    · intro hhides
      exact hhides.not_sameAs (htells hhides.simpleTypeName_eq)
    · intro hhides
      exact hhides.not_sameAs (htells hhides.simpleTypeName_eq.symm).symm
  · rintro ⟨hhides, hhidden⟩ heq
    rw [simpleTypeName_eq, simpleTypeName_eq, ValueType.qualifiedName_eq_iff] at heq
    rcases heq with hshown | hruns | hruns
    · exact sameAs_of_shown_eq htype hother hshown hhides hhidden
    · exact absurd (.runsInto hruns) hhides
    · exact absurd (.runsInto hruns) hhidden

/-- The two spellings of whole numbers have one name in the file of a shop, and neither hides the
other. -/
theorem integer_told_as_int :
    let integer : ValueType := ⟨"java.lang", "Integer"⟩
    let int : ValueType := ⟨"kotlin", "Int"⟩
    integer.package ≠ "" ∧ int.package ≠ "" ∧ ¬Hides "shop" integer int ∧
      ¬Hides "shop" int integer ∧ typeName "shop" true integer = "Int?" ∧
      typeName "shop" true int = "Int?" ∧ integer.SameAs int := by
  intro integer int
  have hfirst : ¬Hides "shop" integer int := by
    rintro (⟨hown, -, -, -⟩ | hruns)
    · exact absurd hown (by decide)
    · exact absurd hruns.mem_simpleName (by decide)
  have hsecond : ¬Hides "shop" int integer := by
    rintro (⟨hown, -, -, -⟩ | hruns)
    · exact absurd hown (by decide)
    · exact absurd hruns.mem_simpleName (by decide)
  have htells := (typeName_tells_apart_iff (by decide : integer.package ≠ "")
    (by decide : int.package ≠ "") true).mpr ⟨hfirst, hsecond⟩
  exact ⟨by decide, by decide, hfirst, hsecond, by decide, by decide, htells (by decide)⟩

end Kotlin

/-- Orders with a label, and with a code of a type that has the name of the label's. -/
def shopOfCodes : EntityGraphs where
  graphs :=
    [⟨"shop", [
      { Entity.named "shop.Order" "orders" with
        id := some (IdField.named "id" NativeType.long.valueType)
        properties := [
          Property.named "label" NativeType.string.valueType,
          { Property.named "code" ⟨"shop", "String"⟩ with
            converter := some ⟨"CodeConverter", NativeType.string.valueType⟩ }] }]⟩]
  nodup_keys := by decide
  target_mem := by decide

/-- The columns of the label and of the code have one type in the source, but different types. -/
theorem shopOfCodes_types_confused :
    ∃ units, generateAll shopOfCodes {} = .ok units ∧ ∃ unit ∈ units,
      ∃ label ∈ unit.columns, ∃ code ∈ unit.columns, unit.package = "shop" ∧
        label.valueType = ⟨"kotlin", "String"⟩ ∧ code.valueType = ⟨"shop", "String"⟩ ∧
        label.valueType.package ≠ "" ∧ code.valueType.package ≠ "" ∧
        ¬label.valueType.SameAs code.valueType ∧
        Kotlin.typeName unit.package label.recipe.nullable label.valueType = "String" ∧
        Kotlin.typeName unit.package code.recipe.nullable code.valueType = "String" :=
  ⟨_, rfl, _, List.mem_cons_self, _, List.mem_cons_of_mem _ List.mem_cons_self, _,
    List.mem_cons_of_mem _ (List.mem_cons_of_mem _ List.mem_cons_self), rfl, rfl, rfl, by decide,
    by decide, by decide, rfl, rfl⟩

end EntityTables
