import EntityTables.Json.Record

/-!
# Settings

The settings of a run: the limits of columns that are not annotated, and the names used in the
generated source.  Every setting has a default, so a text gives only those that differ.
Settings from a text are checked: the rules for single settings first, and only if all of them
hold the rule that ties the two settings of decimal columns together.
-/

namespace EntityTables

open Json (Codec Record ReadError)

/-- The settings of a run. -/
structure Settings where
  /-- The length of text columns without a limit. -/
  varcharLength : UInt32 := 255
  /-- The precision of decimal columns without a limit; zero leaves it open. -/
  decimalPrecision : UInt32 := 0
  /-- The scale of decimal columns without a limit. -/
  decimalScale : UInt32 := 0
  /-- What follows the name of an entity in the name of its table object. -/
  tableSuffix : String := "Table"
  /-- The name of a generated file, without extension. -/
  fileName : String := "tables"
  /-- The package of tables and columns. -/
  dslPackage : String := "org.jetbrains.exposed.sql"
  /-- The package of wrappers and further column constructors. -/
  runtimePackage : String := "pl.touk.exposed"
deriving DecidableEq, Repr

namespace Settings

def tableObject (settings : Settings) (entityName : String) : String :=
  entityName ++ settings.tableSuffix

/-- The settings as a record; whatever does not stand in a text has its default. -/
def record : Record Settings where
  name := "GeneratorConfig"
  fields :=
    let defaults : Settings := {}
    [ .defaulted "default_varchar_length" .uint32 (·.varcharLength) defaults.varcharLength,
      .defaulted "default_decimal_precision" .uint32 (·.decimalPrecision)
        defaults.decimalPrecision,
      .defaulted "default_decimal_scale" .uint32 (·.decimalScale) defaults.decimalScale,
      .defaulted "table_suffix" .string (·.tableSuffix) defaults.tableSuffix,
      .defaulted "file_name" .string (·.fileName) defaults.fileName,
      .defaulted "dsl_package" .string (·.dslPackage) defaults.dslPackage,
      .defaulted "runtime_package" .string (·.runtimePackage) defaults.runtimePackage]
  build
    | (varcharLength, decimalPrecision, decimalScale, tableSuffix, fileName, dslPackage,
        runtimePackage, ()) =>
      ⟨varcharLength, decimalPrecision, decimalScale, tableSuffix, fileName, dslPackage,
        runtimePackage⟩
  build_ofRecord _ := rfl

/-- A rule that settings violate. -/
inductive Violation where
  | zeroVarcharLength
  | emptyDslPackage
  | emptyFileName
  | emptyRuntimePackage
  | emptyTableSuffix
  /-- The decimal scale exceeds a decimal precision that is not open. -/
  | scaleAbovePrecision
deriving DecidableEq, Repr

namespace Violation

/-- The setting that violates the rule, or `__all__` for a rule about several settings. -/
def field : Violation → String
  | .zeroVarcharLength => "default_varchar_length"
  | .emptyDslPackage => "dsl_package"
  | .emptyFileName => "file_name"
  | .emptyRuntimePackage => "runtime_package"
  | .emptyTableSuffix => "table_suffix"
  | .scaleAbovePrecision => "__all__"

def message : Violation → String
  | .zeroVarcharLength => "default varchar length must be greater than 0"
  | .emptyDslPackage => "DSL package cannot be empty"
  | .emptyFileName => "file name cannot be empty"
  | .emptyRuntimePackage => "runtime package cannot be empty"
  | .emptyTableSuffix => "table suffix cannot be empty"
  | .scaleAbovePrecision => "default decimal scale exceeds default decimal precision"

end Violation

/-- The rules for single settings that are violated, ordered by the names of the settings. -/
def fieldViolations (settings : Settings) : List Violation :=
  [ (Violation.zeroVarcharLength, settings.varcharLength == 0),
    (.emptyDslPackage, settings.dslPackage == ""),
    (.emptyFileName, settings.fileName == ""),
    (.emptyRuntimePackage, settings.runtimePackage == ""),
    (.emptyTableSuffix, settings.tableSuffix == "")].filterMap fun (violation, holds) =>
      if holds then some violation else none

/-- Whether the default precision and scale go together. -/
def scaleFits (settings : Settings) : Bool :=
  settings.decimalPrecision == 0 || settings.decimalScale ≤ settings.decimalPrecision

def violations (settings : Settings) : List Violation :=
  match settings.fieldViolations with
  | [] => if settings.scaleFits then [] else [.scaleAbovePrecision]
  | violations => violations

/-- Why settings cannot be read from a file. -/
inductive FileError where
  | notFound
  | isDirectory
  | notText
deriving DecidableEq, Repr

def FileError.message : FileError → String
  | .notFound => "No such file or directory (os error 2)"
  | .isDirectory => "Is a directory (os error 21)"
  | .notText => "stream did not contain valid UTF-8"

/-- Why settings are not accepted. -/
inductive Error where
  | file (error : FileError)
  | unreadable (error : ReadError)
  | invalid (violations : List Violation)
deriving DecidableEq, Repr

/-- Settings that violate no rule. -/
def checked (settings : Settings) : Except Error Settings :=
  match settings.violations with
  | [] => .ok settings
  | violations => .error (.invalid violations)

def ofTextUnchecked (text : String) : Except Error Settings :=
  (record.codec.ofText text).mapError .unreadable

def ofText (text : String) : Except Error Settings :=
  ofTextUnchecked text >>= checked

/-- What is found under the name of a file. -/
inductive FileContent where
  | missing
  | directory
  | bytes (content : ByteArray)

def ofFile : FileContent → Except Error Settings
  | .missing => .error (.file .notFound)
  | .directory => .error (.file .isDirectory)
  | .bytes content =>
    match String.fromUTF8? content with
    | some text => ofText text
    | none => .error (.file .notText)

end Settings
end EntityTables
