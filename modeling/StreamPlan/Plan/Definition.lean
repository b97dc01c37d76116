import StreamPlan.Plan.Builder

/-! A plan as its author declares it, with types, formats and expressions still as words, and the plan
built from it: inputs first, left before right, so that a node is numbered after all nodes below it. -/
namespace StreamPlan.Plan

structure Column where
  name : String
  type : String
  nullable : Bool
deriving DecidableEq, Repr

/-- A projected expression; without a name of its own it is named by its text. -/
structure Item where
  expression : String
  name : Option String
deriving DecidableEq, Repr

structure Origin where
  topic : String
  mode : Mode
  key : String
  format : String
  delimiter : Option Char
  avroSchema : Option String
  columns : List Column
deriving DecidableEq, Repr

structure Pairing where
  kind : JoinKind
  leftKey : String
  rightKey : String
  leftAlias : String
  rightAlias : String
deriving DecidableEq, Repr

inductive Definition where
  | source (origin : Origin)
  | filter (predicate : String) (input : Definition)
  | project (items : List Item) (input : Definition)
  | join (pairing : Pairing) (left right : Definition)
  | output (sink : Option String) (console : Bool) (input : Definition)
deriving Repr

inductive DefinitionError where
  | noAvroSchema
  | unknownFormat (name : String)
  | unknownType (type column : String)
  | twoTargets
  | noTarget
  | plan (error : PlanError)
deriving DecidableEq, Repr

namespace DefinitionError

def detail : DefinitionError → String
  | .noAvroSchema => "avro sources need 'avro_schema'"
  | .unknownFormat name => s!"unknown format '{name}'"
  | .unknownType type column => s!"unknown type '{type}' for field '{column}'"
  | .twoTargets => "output declares both 'sink' and 'console'"
  | .noTarget => "output needs either 'sink: <topic>' or 'console: true'"
  | .plan error => error.message

def message : DefinitionError → String
  | .plan error => error.message
  | error => s!"invalid plan document: {error.detail}"

end DefinitionError

abbrev Building := StateT Builder (Except DefinitionError)

namespace Definition

def fieldOf (column : Column) : Except DefinitionError Field :=
  match DataType.parse column.type with
  | some type => .ok ⟨column.name, type, column.nullable⟩
  | none => .error (.unknownType column.type column.name)

def schemaOf (columns : List Column) : Except DefinitionError Schema := (columns.mapM fieldOf).map Schema.mk

/-- The codec of a source; the letter case of the format does not matter. -/
def codecOf (origin : Origin) : Except DefinitionError Codec :=
  match Text.lower origin.format with
  | "json" => .ok .json
  | "delimited" => .ok (.delimited (origin.delimiter.getD ','))
  | "csv" => .ok (.delimited (origin.delimiter.getD ','))
  | "avro" => match origin.avroSchema with
    | some schema => .ok (.avro schema)
    | none => .error .noAvroSchema
  | format => .error (.unknownFormat format)

def targetOf (sink : Option String) (console : Bool) : Except DefinitionError Target :=
  match sink, console with
  | some name, false => .ok (.topic name)
  | none, true => .ok .console
  | some _, true => .error .twoTargets
  | none, false => .error .noTarget

def Item.named (item : Item) : String × String := (item.expression, item.name.getD item.expression)

/-- A node made by the builder. -/
def make (step : Builder → Builder.Built) : Building Plan := fun b =>
  match step b with
  | (.ok plan, b) => .ok (plan, b)
  | (.error e, _) => .error (.plan e)

def build : Definition → Building Plan
  | .source origin => do
    let codec ← codecOf origin
    let schema ← schemaOf origin.columns
    make fun b => b.source origin.topic schema origin.key origin.mode codec
  | .filter predicate input => do
    let input ← build input
    make fun b => b.filterText input predicate
  | .project items input => do
    let input ← build input
    make fun b => b.project input (items.map Item.named)
  | .join pairing left right => do
    let left ← build left
    let right ← build right
    make fun b => b.join pairing.kind left right pairing.leftKey pairing.rightKey pairing.leftAlias
      pairing.rightAlias
  | .output sink console input => do
    let input ← build input
    let target ← targetOf sink console
    modifyGet fun b => b.output input target

/-- The plan of a definition by itself. -/
def plan (definition : Definition) : Except DefinitionError Plan := (definition.build.run .start).map (·.1)

end Definition
end StreamPlan.Plan
