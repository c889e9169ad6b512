import EntityTables.Proofs.Emission.Shape
import EntityTables.Proofs.Settings.Loading

/-!
# The precision and scale of decimal columns

A precision of zero leaves decimal numbers open; under any other the scale has to fit it.  The
settings of a run are checked for this rule, and a property may keep it as well where its limits
give both numbers.  Where they give only one, the other comes from the settings, and the two are
compared by nobody.  The column keeps the rule if and only if the numbers that meet in it do, so
there are settings whose columns always keep it, among them the defaults, and others whose columns
need not.

* `fitsPrecision_getD_iff`: when two numbers keep it that are defaulted each on its own;
* `Settings.keeps_scales_iff`: the settings under which every column keeps it;
* `Run.emitted_decimal_fits_iff`: when the column of a property keeps it.
-/

namespace EntityTables

/-! ## Limits with defaults -/

namespace ColumnLimits

def precision? (limits : Option ColumnLimits) : Option UInt32 :=
  limits.bind (·.precision)

def scale? (limits : Option ColumnLimits) : Option UInt32 :=
  limits.bind (·.scale)

/-- Limits that give a precision and a scale keep the rule. -/
def KeepScale (limits : Option ColumnLimits) : Prop :=
  ∀ precision ∈ precision? limits, ∀ scale ∈ scale? limits, FitsPrecision precision scale

end ColumnLimits

open ColumnLimits (precision? scale? KeepScale)

/-- Two numbers that are defaulted each on its own keep the rule if and only if the one that is
given keeps it with the default of the other. -/
theorem fitsPrecision_getD_iff {precision? scale? : Option UInt32}
    {defaultPrecision defaultScale : UInt32}
    (hgiven : ∀ precision ∈ precision?, ∀ scale ∈ scale?, FitsPrecision precision scale)
    (hdefault : FitsPrecision defaultPrecision defaultScale) :
    FitsPrecision (precision?.getD defaultPrecision) (scale?.getD defaultScale) ↔
      (scale? = none → ∀ precision ∈ precision?, FitsPrecision precision defaultScale) ∧
      (precision? = none → ∀ scale ∈ scale?, FitsPrecision defaultPrecision scale) := by
  cases precision? with
  | none => cases scale? <;> simp [hdefault]
  | some precision =>
      cases scale? with
      | none => simp
      | some scale => simpa using hgiven precision rfl scale rfl

/-- Settings that keep the rule pass it on to the columns of all limits that keep it, if and only if
no precision is too small for the scale of the settings and no scale too large for their
precision. -/
theorem Settings.keeps_scales_iff {settings : Settings}
    (hsettings : FitsPrecision settings.decimalPrecision settings.decimalScale) :
    (∀ limits, KeepScale limits →
      FitsPrecision ((precision? limits).getD settings.decimalPrecision)
        ((scale? limits).getD settings.decimalScale)) ↔
      settings.decimalScale ≤ 1 ∧
        (settings.decimalPrecision = 0 ∨ ∀ scale, scale ≤ settings.decimalPrecision) := by
  constructor
  · intro hkeeps
    refine ⟨?_, or_iff_not_imp_left.mpr ?_⟩
    · have hone := hkeeps (some { precision := some 1 }) (fun _ _ _ hscale => nomatch hscale)
      have hnonzero : (1 : UInt32) ≠ 0 := by decide
      exact hone.resolve_left hnonzero
    · intro hprecision scale
      have hscale := hkeeps (some { scale := some scale }) (fun _ hnone => nomatch hnone)
      exact hscale.resolve_left hprecision
  · rintro ⟨hscale, hprecision⟩ limits hlimits
    refine (fitsPrecision_getD_iff hlimits hsettings).mpr ⟨?_, ?_⟩
    · intro _ precision _
      refine or_iff_not_imp_left.mpr fun hzero => ?_
      have hpositive : (1 : UInt32) ≤ precision := by
        rw [← UInt32.toNat_inj] at hzero
        rw [UInt32.le_iff_toNat_le]
        exact Nat.pos_of_ne_zero hzero
      exact UInt32.le_trans hscale hpositive
    · intro _ scale _
      exact hprecision.imp_right (· scale)

/-! ## Columns -/

namespace Run

variable {run : Run} {unit after : OutputUnit} {entity : Entity}

/-- The column of a property of decimal numbers has the limits of the property, each defaulted on
its own. -/
theorem exists_decimal_column (hemit : run.emitEntity unit entity = .ok after) {index : Nat}
    {property : Property} (hproperty : entity.properties[index]? = some property)
    (hconverter : property.converter = none) (htype : property.type.native? = some .bigDecimal) :
    ∃ table column, after.tables = unit.tables ++ [table] ∧ table.entity = entity.key ∧
      table.columns[index]? = some column ∧ column.name = property.name ∧
      column.recipe.kind =
        .decimal ((precision? property.limits).getD run.settings.decimalPrecision)
          ((scale? property.limits).getD run.settings.decimalScale) := by
  obtain ⟨stage, hstage, rfl⟩ := emitEntity_eq_ok_iff.mp hemit
  obtain ⟨outcome, houtcome, column, hmember, hcolumn, hplace⟩ := table_property hstage hproperty
  have hrepresents := represents_of_outcome houtcome hcolumn
  rw [hmember] at hrepresents
  refine ⟨_, column, tables_commit hstage, rfl, hplace, ?_⟩
  cases hrepresents with
  | @native native _ hnative =>
      have hspelled := (Member.nativeType_eq_ok_iff.mp hnative).1
      obtain rfl : .bigDecimal = native := Option.some.inj (htype.symm.trans hspelled)
      exact ⟨rfl, Member.recipeOf_kind _ _⟩
  | converted hsome => exact nomatch hconverter.symm.trans hsome

/-- The column of a property of decimal numbers keeps the rule if and only if a limit that the
property gives alone keeps it with the setting for the other. -/
theorem emitted_decimal_fits_iff {text : String}
    (hsettings : Settings.ofText text = .ok run.settings)
    (hemit : run.emitEntity unit entity = .ok after) {index : Nat} {property : Property}
    (hproperty : entity.properties[index]? = some property)
    (hconverter : property.converter = none)
    (htype : property.type.native? = some .bigDecimal) (hlimits : KeepScale property.limits) :
    ∃ table column precision scale, after.tables = unit.tables ++ [table] ∧
      table.entity = entity.key ∧ table.columns[index]? = some column ∧
      column.name = property.name ∧ column.recipe.kind = .decimal precision scale ∧
      (FitsPrecision precision scale ↔
        (scale? property.limits = none → ∀ given ∈ precision? property.limits,
          FitsPrecision given run.settings.decimalScale) ∧
        (precision? property.limits = none → ∀ given ∈ scale? property.limits,
          FitsPrecision run.settings.decimalPrecision given)) := by
  obtain ⟨table, column, htables, hentity, hplace, hname, hkind⟩ :=
    exists_decimal_column hemit hproperty hconverter htype
  obtain ⟨-, hdefault⟩ := Settings.valid_of_ofText hsettings
  exact ⟨table, column, _, _, htables, hentity, hplace, hname, hkind,
    fitsPrecision_getD_iff hlimits hdefault⟩

end Run

/-! ## Items with a price and a discount -/

/-- Eight places behind the point, and two in front of it. -/
def eightPlaces : Settings where
  decimalPrecision := 10
  decimalScale := 8

/-- A price that is limited in its precision only. -/
def price : Property where
  name := "price"
  columnName := "price"
  type := NativeType.bigDecimal.valueType
  limits := some { precision := some 5 }

/-- A discount that is limited in its scale only. -/
def discount : Property where
  name := "discount"
  columnName := "discount"
  type := NativeType.bigDecimal.valueType
  limits := some { scale := some 4 }

def pricedItem : Entity :=
  { Entity.named "shop.Item" "items" with
    id := some (IdField.named "id" NativeType.long.valueType), properties := [price, discount] }

def pricedItems : EntityGraphs where
  graphs := [⟨"sales", [pricedItem]⟩]
  nodup_keys := by decide
  target_mem := by decide

theorem eightPlaces_accepted :
    Settings.ofText (Settings.record.codec.toText .compact eightPlaces) = .ok eightPlaces :=
  Settings.ofText_toText (by decide) Json.Spacing.blank_compact

/-- The discount has the precision of the settings, which its scale fits. -/
theorem pricedItem_discount_fits :
    ∃ after table column, (Run.over pricedItems eightPlaces).emitEntity { package := "shop" }
        pricedItem = .ok after ∧
      table ∈ after.tables ∧ table.columns[1]? = some column ∧ column.name = discount.name ∧
      ∃ precision scale, column.recipe.kind = .decimal precision scale ∧
        FitsPrecision precision scale := by
  have hemit : ∃ after, (Run.over pricedItems eightPlaces).emitEntity { package := "shop" }
      pricedItem = .ok after := ⟨_, rfl⟩
  obtain ⟨after, hemit⟩ := hemit
  have hproperty : pricedItem.properties[1]? = some discount := rfl
  have hlimits : KeepScale discount.limits := fun _ hnone => nomatch hnone
  obtain ⟨table, column, precision, scale, htables, -, hplace, hname, hkind, hfits⟩ :=
    Run.emitted_decimal_fits_iff eightPlaces_accepted hemit hproperty rfl rfl hlimits
  have htable : table ∈ after.tables := htables ▸ List.mem_append_right _ List.mem_cons_self
  have hscale : ∀ given ∈ scale? discount.limits, FitsPrecision 10 given := by
    intro given hgiven
    obtain rfl : 4 = given := Option.some.inj hgiven
    decide
  exact ⟨after, table, column, hemit, htable, hplace, hname, precision, scale, hkind,
    hfits.mpr ⟨(nomatch ·), fun _ => hscale⟩⟩

/-- The price has the scale of the settings, which its precision is too small for. -/
theorem pricedItem_price_too_narrow :
    Settings.ofText (Settings.record.codec.toText .compact eightPlaces) = .ok eightPlaces ∧
    pricedItem.properties[0]? = some price ∧ price.converter = none ∧
    price.type.native? = some .bigDecimal ∧ KeepScale price.limits ∧
    ∃ after table column, (Run.over pricedItems eightPlaces).emitEntity { package := "shop" }
        pricedItem = .ok after ∧
      table ∈ after.tables ∧ table.columns[0]? = some column ∧ column.name = price.name ∧
      column.recipe.kind = .decimal 5 8 ∧ ¬FitsPrecision 5 8 := by
  have hlimits : KeepScale price.limits := fun _ _ _ hnone => nomatch hnone
  exact ⟨eightPlaces_accepted, rfl, rfl, rfl, hlimits, _, _, _, rfl, List.mem_cons_self, rfl, rfl,
    rfl, by decide⟩

end EntityTables
