import StreamPlan.Decimal.Whole
import StreamPlan.Json.Shape

/-! Settings of the compiler and the runner. -/
namespace StreamPlan

structure Config where
  storeSuffix : String
  maxDepth : Nat
  consoleLimit : Option Nat
deriving DecidableEq, Repr, Inhabited

inductive ConfigError where
  | zeroDepth
  | emptySuffix
deriving DecidableEq, Repr

def ConfigError.message : ConfigError → String
  | .zeroDepth => "Invalid configuration: max_plan_depth must be at least 1"
  | .emptySuffix => "Invalid configuration: state_store_suffix must not be empty"

namespace Config

def standard : Config := ⟨"_store", 256, none⟩

def countText? (text : String) : Option Nat := Decimal.count? UInt64.size text

/-- The standard settings as far as the environment does not replace them; a number that cannot be
read replaces nothing. -/
def ofEnvironment (environment : String → Option String) : Config where
  storeSuffix := (environment "STREAMC_STATE_STORE_SUFFIX").getD standard.storeSuffix
  maxDepth := ((environment "STREAMC_MAX_PLAN_DEPTH").bind countText?).getD standard.maxDepth
  consoleLimit := (environment "STREAMC_CONSOLE_ROW_LIMIT").bind countText?

def check (config : Config) : Except ConfigError Unit :=
  if config.maxDepth = 0 then .error .zeroDepth
  else if config.storeSuffix = "" then .error .emptySuffix
  else .ok ()

def storeName (config : Config) (origin : String) : String := origin ++ config.storeSuffix

def optionalCount : Option Nat → Json
  | some n => .whole n
  | none => .null

def toJson (config : Config) : Json :=
  .object [("state_store_suffix", .text config.storeSuffix), ("max_plan_depth", .whole config.maxDepth),
    ("console_row_limit", optionalCount config.consoleLimit)]

def limit? : Json → Option (Option Nat)
  | .null => some none
  | j => j.count?.map some

/-- Parts that are missing keep the standard setting; only the row limit may be null. -/
def ofJson? (j : Json) : Option Config := do
  match ← j.record? ["state_store_suffix", "max_plan_depth", "console_row_limit"] with
  | [suffix, depth, limit] =>
    some ⟨← Fields.orStandard standard.storeSuffix Json.text? suffix,
      ← Fields.orStandard standard.maxDepth Json.count? depth,
      ← Fields.orStandard standard.consoleLimit limit? limit⟩
  | _ => none

end Config

/-- Settings that take the place of others. -/
structure Overrides where
  storeSuffix : Option String
  maxDepth : Option Nat
  consoleLimit : Option Nat
deriving DecidableEq, Repr, Inhabited

def Overrides.none : Overrides := ⟨.none, .none, .none⟩

def Config.overridden (config : Config) (overrides : Overrides) : Config where
  storeSuffix := overrides.storeSuffix.getD config.storeSuffix
  maxDepth := overrides.maxDepth.getD config.maxDepth
  consoleLimit := overrides.consoleLimit.or config.consoleLimit

end StreamPlan
