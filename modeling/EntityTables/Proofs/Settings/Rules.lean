import Mathlib.Data.List.Perm.Basic
import EntityTables.Settings

/-!
# The rules for settings

Settings are told apart by their keys.  Those that are overridden have the values they are
given, in whatever order that happens, and the others stay what they are.

Settings are valid when each of them obeys its own rule and the scale of decimal columns fits
their precision.  What is reported of other settings names those that break their own rule.  The
scale is reported only where there are none, because it is not looked at before.

* `Settings.mem_all_overriddenBy`: the settings behind all overrides;
* `Settings.fieldViolations_perm`: the settings that break their own rule are the reported ones;
* `Settings.violations_of_breaches`, `violations_of_obeying`: the two stages of a report;
* `Settings.checked_eq_ok_iff`, `reportedAs_violations`: what is accepted, and what is reported.
-/

namespace EntityTables

/-- One of the settings, with its value. -/
inductive Setting where
  | varcharLength (value : UInt32)
  | decimalPrecision (value : UInt32)
  | decimalScale (value : UInt32)
  | tableSuffix (value : String)
  | fileName (value : String)
  | dslPackage (value : String)
  | runtimePackage (value : String)
deriving DecidableEq, Repr

namespace Setting

/-- The name of the setting in a text. -/
def key : Setting → String
  | varcharLength _ => "default_varchar_length"
  | decimalPrecision _ => "default_decimal_precision"
  | decimalScale _ => "default_decimal_scale"
  | tableSuffix _ => "table_suffix"
  | fileName _ => "file_name"
  | dslPackage _ => "dsl_package"
  | runtimePackage _ => "runtime_package"

/-- The settings in which this one has its value. -/
def override (setting : Setting) (settings : Settings) : Settings :=
  match setting with
  | varcharLength value => { settings with varcharLength := value }
  | decimalPrecision value => { settings with decimalPrecision := value }
  | decimalScale value => { settings with decimalScale := value }
  | tableSuffix value => { settings with tableSuffix := value }
  | fileName value => { settings with fileName := value }
  | dslPackage value => { settings with dslPackage := value }
  | runtimePackage value => { settings with runtimePackage := value }

/-- The rule for the setting alone. -/
def Obeys : Setting → Prop
  | varcharLength value => 1 ≤ value
  | decimalPrecision _ | decimalScale _ => True
  | tableSuffix value | fileName value | dslPackage value | runtimePackage value => value ≠ ""

instance : DecidablePred Obeys
  | varcharLength value => inferInstanceAs (Decidable (1 ≤ value))
  | decimalPrecision _ | decimalScale _ => inferInstanceAs (Decidable True)
  | tableSuffix value | fileName value | dslPackage value | runtimePackage value =>
    inferInstanceAs (Decidable (value ≠ ""))

end Setting

/-- A precision of zero leaves the scale open, and any other bounds it. -/
def FitsPrecision (precision scale : UInt32) : Prop :=
  precision = 0 ∨ scale ≤ precision

instance (precision scale : UInt32) : Decidable (FitsPrecision precision scale) :=
  inferInstanceAs (Decidable (precision = 0 ∨ scale ≤ precision))

namespace Settings

/-! ## Overrides -/

/-- All settings, in the order in which they are written. -/
def all (settings : Settings) : List Setting :=
  [ .varcharLength settings.varcharLength,
    .decimalPrecision settings.decimalPrecision,
    .decimalScale settings.decimalScale,
    .tableSuffix settings.tableSuffix,
    .fileName settings.fileName,
    .dslPackage settings.dslPackage,
    .runtimePackage settings.runtimePackage]

/-- The settings behind all overrides, one after the other. -/
def overriddenBy (settings : Settings) (overrides : List Setting) : Settings :=
  overrides.foldl (fun settings setting => setting.override settings) settings

theorem mem_all_override {setting other : Setting} {settings : Settings} :
    setting ∈ (other.override settings).all ↔
      setting = other ∨ setting ∈ settings.all ∧ setting.key ≠ other.key := by
  cases other <;> cases setting <;> simp [all, Setting.override, Setting.key]

/-- What is overridden has its new value, in whatever order that happens, and all other settings
stay what they are. -/
theorem mem_all_overriddenBy {overrides : List Setting}
    (hkeys : (overrides.map Setting.key).Nodup) {setting : Setting} {settings : Settings} :
    setting ∈ (settings.overriddenBy overrides).all ↔
      setting ∈ overrides ∨ setting ∈ settings.all ∧ setting.key ∉ overrides.map Setting.key := by
  induction overrides generalizing settings with
  | nil => simp [overriddenBy]
  | cons other overrides ih =>
      obtain ⟨hfresh, hkeys⟩ := List.nodup_cons.mp hkeys
      have hother : setting = other → setting.key ∉ overrides.map Setting.key := by
        rintro rfl
        exact hfresh
      have hrest : setting ∈ (settings.overriddenBy (other :: overrides)).all ↔
          setting ∈ overrides ∨ setting ∈ (other.override settings).all ∧
            setting.key ∉ overrides.map Setting.key := ih hkeys
      rw [hrest, mem_all_override, List.mem_cons, List.map_cons, List.mem_cons]
      tauto

/-! ## Reports -/

/-- Every setting obeys its own rule, and the scale of decimal columns fits their precision. -/
def Valid (settings : Settings) : Prop :=
  (∀ setting ∈ settings.all, setting.Obeys) ∧
    FitsPrecision settings.decimalPrecision settings.decimalScale

instance : DecidablePred Valid := fun settings =>
  inferInstanceAs (Decidable ((∀ setting ∈ settings.all, setting.Obeys) ∧
    FitsPrecision settings.decimalPrecision settings.decimalScale))

/-- The keys of the settings that break their own rule. -/
def breaches (settings : Settings) : List String :=
  (settings.all.filter fun setting => ¬setting.Obeys).map Setting.key

variable {settings : Settings}

theorem breaches_eq_nil_iff :
    settings.breaches = [] ↔ ∀ setting ∈ settings.all, setting.Obeys := by
  simp [breaches, List.filter_eq_nil_iff]

theorem scaleFits_iff :
    settings.scaleFits ↔ FitsPrecision settings.decimalPrecision settings.decimalScale := by
  simp [scaleFits, FitsPrecision]

theorem valid_iff : settings.Valid ↔ settings.breaches = [] ∧ settings.scaleFits := by
  rw [Valid, breaches_eq_nil_iff, scaleFits_iff]

/-- The rule is the one for the setting: it is reported under its key where it is violated. -/
structure Violation.IsFor (rule : Violation × Bool) (setting : Setting) : Prop where
  field_eq : rule.1.field = setting.key
  violated_iff : rule.2 ↔ ¬setting.Obeys

theorem map_field_filterMap {rules : List (Violation × Bool)} {checked : List Setting}
    (hrules : List.Forall₂ Violation.IsFor rules checked) :
    (rules.filterMap fun (violation, holds) => if holds then some violation else none).map
        Violation.field =
      (checked.filter fun setting => ¬setting.Obeys).map Setting.key := by
  induction hrules with
  | nil => rfl
  | @cons rule setting rules checked hrule _ ih =>
      obtain ⟨violation, holds⟩ := rule
      have hholds : holds = decide (¬setting.Obeys) := by
        rw [Bool.eq_iff_iff, decide_eq_true_eq]
        exact hrule.violated_iff
      subst hholds
      by_cases hobeys : setting.Obeys
      · simp [hobeys, ih]
      · simp [hobeys, ih, ← hrule.field_eq]

/-- The settings that break their own rule are the reported ones. -/
theorem fieldViolations_perm (settings : Settings) :
    (settings.fieldViolations.map Violation.field).Perm settings.breaches := by
  have hlength : ∀ length : UInt32, length == 0 ↔ ¬1 ≤ length := by
    intro length
    rw [beq_iff_eq, UInt32.not_le, ← UInt32.toNat_inj, UInt32.lt_iff_toNat_lt]
    show length.toNat = 0 ↔ length.toNat < 1
    omega
  have htext : ∀ text : String, text == "" ↔ ¬text ≠ "" := by simp
  have hreported : settings.fieldViolations.map Violation.field =
      ([ Setting.varcharLength settings.varcharLength, .dslPackage settings.dslPackage,
        .fileName settings.fileName, .runtimePackage settings.runtimePackage,
        .tableSuffix settings.tableSuffix].filter fun setting => ¬setting.Obeys).map
          Setting.key := by
    refine map_field_filterMap ?_
    refine .cons ⟨rfl, hlength _⟩ (.cons ⟨rfl, htext _⟩ (.cons ⟨rfl, htext _⟩ ?_))
    exact .cons ⟨rfl, htext _⟩ (.cons ⟨rfl, htext _⟩ .nil)
  have hbreaches : settings.breaches =
      ([ Setting.varcharLength settings.varcharLength, .tableSuffix settings.tableSuffix,
        .fileName settings.fileName, .dslPackage settings.dslPackage,
        .runtimePackage settings.runtimePackage].filter fun setting => ¬setting.Obeys).map
          Setting.key := rfl
  rw [hreported, hbreaches]
  -- rules are reported by the names of the settings, and settings are written as they are declared
  refine ((List.Perm.cons _ ?_).filter _).map _
  exact (List.Perm.swap _ _ _).trans (List.perm_append_singleton _ [_, _, _])

theorem fieldViolations_eq_nil_iff : settings.fieldViolations = [] ↔ settings.breaches = [] := by
  have hperm := settings.fieldViolations_perm
  constructor
  · intro hnone
    rw [hnone] at hperm
    exact hperm.nil_eq.symm
  · intro hnone
    rw [hnone] at hperm
    exact List.map_eq_nil_iff.mp hperm.eq_nil

/-- Of settings that break their own rule nothing else is reported. -/
theorem violations_of_breaches (hbreaches : settings.breaches ≠ []) :
    settings.violations = settings.fieldViolations := by
  rw [← fieldViolations_eq_nil_iff.ne] at hbreaches
  unfold violations
  split
  · contradiction
  · rfl

/-- Where every setting obeys its own rule, only the scale is left to be reported. -/
theorem violations_of_obeying (hobeying : settings.breaches = []) :
    settings.violations = if settings.scaleFits then [] else [.scaleAbovePrecision] := by
  rw [violations, fieldViolations_eq_nil_iff.mpr hobeying]

/-- Nothing is reported of valid settings only. -/
theorem violations_eq_nil_iff : settings.violations = [] ↔ settings.Valid := by
  rw [valid_iff]
  by_cases hbreaches : settings.breaches = []
  · simp [violations_of_obeying hbreaches, hbreaches]
  · simp [violations_of_breaches hbreaches, fieldViolations_eq_nil_iff, hbreaches]

/-- What is reported of settings: those that break their own rule, each by its key, and only
where there are none the rule about the scale. -/
structure ReportedAs (settings : Settings) (violations : List Violation) : Prop where
  breaches : settings.breaches ≠ [] → (violations.map Violation.field).Perm settings.breaches
  scale : settings.breaches = [] → violations = [.scaleAbovePrecision]

theorem reportedAs_violations (hvalid : ¬settings.Valid) :
    settings.ReportedAs settings.violations where
  breaches hbreaches := by
    rw [violations_of_breaches hbreaches]
    exact settings.fieldViolations_perm
  scale hobeying := by
    have hscale : ¬settings.scaleFits := fun hfits => hvalid (valid_iff.mpr ⟨hobeying, hfits⟩)
    rw [violations_of_obeying hobeying, if_neg hscale]

/-- Only valid settings are accepted, as they are. -/
theorem checked_eq_ok_iff {accepted : Settings} :
    settings.checked = .ok accepted ↔ settings.Valid ∧ settings = accepted := by
  rw [← violations_eq_nil_iff, checked]
  split
  · rename_i hnone
    simp [hnone]
  · rename_i hsome
    exact iff_of_false nofun fun haccepted => hsome haccepted.1

theorem checked_of_not_valid (hvalid : ¬settings.Valid) :
    settings.checked = .error (.invalid settings.violations) := by
  rw [checked]
  split
  · rename_i hnone
    exact absurd (violations_eq_nil_iff.mp hnone) hvalid
  · rfl

end Settings
end EntityTables
