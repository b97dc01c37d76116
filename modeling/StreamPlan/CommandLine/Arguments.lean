import StreamPlan.Config

/-! Command-line arguments. A command has its own options; an option is given by its long name or its
letter, with its value attached or in the next argument, and at most once. -/
namespace StreamPlan.CommandLine

/-- An option; one without a value name takes no value. -/
structure Switch where
  long : String
  short : Option Char
  valueName : Option String
  about : String
deriving DecidableEq, Repr

/-- A command of the program, or the program itself, with its options in the order in which they are
shown. -/
structure Verb where
  name : String
  about : String
  switches : List Switch
  required : List Switch
deriving DecidableEq, Repr

namespace Switch

def plan : Switch := ⟨"plan", some 'p', some "PLAN", "Path to the plan YAML file"⟩
def input : Switch := ⟨"input", some 'i', some "INPUT", "JSON file mapping topic -> list of row objects"⟩
def storeSuffix : Switch := ⟨"state-store-suffix", none, some "STATE_STORE_SUFFIX",
  "State store suffix for table sources (overrides config)"⟩
def maxDepth : Switch := ⟨"max-plan-depth", none, some "MAX_PLAN_DEPTH",
  "Maximum plan nesting depth (overrides config)"⟩
def verbose : Switch := ⟨"verbose", some 'v', none, "Log compiler and runner events to stderr"⟩
def help : Switch := ⟨"help", some 'h', none, "Print help"⟩

/-- The values an option may have. -/
def admits (switch : Switch) (value : String) : Bool :=
  if switch = maxDepth then (Config.countText? value).isSome
  else if switch = plan || switch = input then value ≠ ""
  else true

end Switch

namespace Verb

def program : Verb := ⟨"streamc", "streamc: compile logical streaming query plans into dataflow topologies",
  [.verbose, .help], []⟩
def validate : Verb := ⟨"validate", "Parse a plan YAML file (syntax and schema check)",
  [.plan, .verbose, .help], [.plan]⟩
def explain : Verb := ⟨"explain", "Compile a plan and print the resulting topology",
  [.plan, .verbose, .storeSuffix, .maxDepth, .help], [.plan]⟩
def run : Verb := ⟨"run", "Compile a plan and execute it over JSON input with the reference runner",
  [.plan, .verbose, .input, .storeSuffix, .maxDepth, .help], [.plan, .input]⟩
def all : List Verb := [validate, explain, run]

def named? (name : String) : Option Verb := all.find? (·.name = name)

end Verb

inductive Refusal where
  /-- Arguments that do not fit. -/
  | misuse
  | helpAsked (verb : Verb)
  /-- Help on asking for help. -/
  | helpOnHelp
deriving DecidableEq, Repr

/-- The options given so far, with their values. -/
abbrev Given := List (Switch × String)

def record (switch : Switch) (value : String) (given : Given) : Except Refusal Given :=
  if (given.lookup switch).isSome || !switch.admits value then .error .misuse
  else .ok (given ++ [(switch, value)])

/-- An argument that is not an option: anything without a leading dash, or a dash alone. -/
def isWord (argument : String) : Bool := argument = "-" || argument.toList.head? ≠ some '-'

/-- The value of an option from the next argument. -/
def nextValue : List String → Except Refusal (String × List String)
  | value :: rest => if isWord value then .ok (value, rest) else .error .misuse
  | [] => .error .misuse

/-- An option without a value; asking for help ends the reading. -/
def note (verb : Verb) (switch : Switch) (given : Given) : Except Refusal Given :=
  if switch = .help then .error (.helpAsked verb) else record switch "" given

/-- An option by its long name, with the value after an equals sign if there is one. -/
def longOption (verb : Verb) (option : List Char) (rest : List String) (given : Given) :
    Except Refusal (Given × List String) :=
  let name := String.ofList (option.takeWhile (· ≠ '='))
  let attached := (option.dropWhile (· ≠ '=')).tail?.map String.ofList
  match verb.switches.find? (·.long = name) with
  | none => .error .misuse
  | some switch =>
    match switch.valueName, attached with
    | none, none => (note verb switch given).map fun given => (given, rest)
    | none, some _ => .error .misuse
    | some _, some value => (record switch value given).map fun given => (given, rest)
    | some _, none => do
      let (value, rest) ← nextValue rest
      pure (← record switch value given, rest)

/-- Options by their letters, the last of which may have the rest of the argument for its value. -/
def shortOptions (verb : Verb) : List Char → List String → Given → Except Refusal (Given × List String)
  | [], rest, given => .ok (given, rest)
  | letter :: letters, rest, given =>
    match verb.switches.find? (·.short = some letter) with
    | none => .error .misuse
    | some switch =>
      if switch.valueName.isNone then do
        shortOptions verb letters rest (← note verb switch given)
      else match letters with
        | [] => do
          let (value, rest) ← nextValue rest
          pure (← record switch value given, rest)
        | '=' :: value => (record switch (String.ofList value) given).map fun given => (given, rest)
        | value => (record switch (String.ofList value) given).map fun given => (given, rest)

/-- The options before the first word, given a bound on the number of arguments. Two dashes end the
options, and nothing may follow them. -/
def options (verb : Verb) : Nat → List String → Given → Except Refusal (Given × List String)
  | bound + 1, argument :: rest, given =>
    match argument.toList with
    | ['-', '-'] => if rest.isEmpty then .ok (given, []) else .error .misuse
    | '-' :: '-' :: option => do
      let (given, rest) ← longOption verb option rest given
      options verb bound rest given
    | '-' :: letter :: letters => do
      let (given, rest) ← shortOptions verb (letter :: letters) rest given
      options verb bound rest given
    | _ => .ok (given, argument :: rest)
  | _, rest, given => .ok (given, rest)

/-- What the arguments ask for. -/
inductive Command where
  | validate (plan : String)
  | explain (plan : String) (overrides : Overrides)
  | run (plan input : String) (overrides : Overrides)
deriving DecidableEq, Repr

def overridesOf (given : Given) : Overrides :=
  ⟨given.lookup .storeSuffix, (given.lookup .maxDepth).bind Config.countText?, none⟩

def commandOf (verb : Verb) (given : Given) : Except Refusal Command :=
  match given.lookup .plan, given.lookup .input with
  | some plan, some input => if verb = .run then .ok (.run plan input (overridesOf given)) else .error .misuse
  | some plan, none =>
    if verb = .validate then .ok (.validate plan)
    else if verb = .explain then .ok (.explain plan (overridesOf given))
    else .error .misuse
  | none, _ => .error .misuse

/-- The help that a word after `help` asks for. -/
def helpOn : List String → Refusal
  | [] => .helpAsked .program
  | ["help"] => .helpOnHelp
  | [name] => ((Verb.named? name).map Refusal.helpAsked).getD .misuse
  | _ => .misuse

/-- Reads the arguments: options of the program, a command and the options of that. -/
def Command.ofArguments (arguments : List String) : Except Refusal Command := do
  match ← options .program arguments.length arguments [] with
  | (_, name :: rest) =>
    if name = "help" then throw (helpOn rest)
    match Verb.named? name with
    | none => throw .misuse
    | some verb =>
      match ← options verb rest.length rest [] with
      | (given, []) => commandOf verb given
      | _ => throw .misuse
  | _ => throw .misuse

end StreamPlan.CommandLine
