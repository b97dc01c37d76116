import StreamPlan.CommandLine.Arguments

/-! The help texts of the program and its commands. Explanations stand beside the options unless one of
them would not fit there; then all stand below. -/
namespace StreamPlan.CommandLine

def lineWidth : Nat := 100
def padded (width : Nat) (text : String) : String := text ++ String.ofList (List.replicate (width - text.length) ' ')

namespace Switch

/-- The long name with the name of the value. -/
def form (switch : Switch) : String :=
  "--" ++ switch.long ++ ((switch.valueName.map fun name => s!" <{name}>").getD "")

def heading (switch : Switch) : String :=
  match switch.short with
  | some letter => s!"  -{letter.toString}, {switch.form}"
  | none => s!"      {switch.form}"

def widest (switches : List Switch) : Nat := switches.foldl (fun n switch => max n switch.form.length) 0

/-- An explanation is too long for the columns left beside headings of the given width. -/
def overflows (width : Nat) (switch : Switch) : Bool :=
  let taken := width + 12
  taken ≤ lineWidth && 40 < taken && lineWidth - taken < switch.about.length

def explained (below : Bool) (width : Nat) (switch : Switch) : String :=
  if below then s!"{switch.heading}\n          {switch.about}"
  else s!"{padded (width + 6) switch.heading}  {switch.about}"

def table (switches : List Switch) : List String :=
  let width := widest switches
  switches.map (explained (switches.any (overflows width)) width)

end Switch

namespace Verb

def aboutHelp : String := "Print this message or the help of the given subcommand(s)"

def commandTable : List String :=
  let rows := all.map (fun verb => (verb.name, verb.about)) ++ [("help", aboutHelp)]
  let width := rows.foldl (fun n row => max n row.1.length) 0
  rows.map fun (name, about) => s!"  {padded width name}  {about}"

def usage (verb : Verb) : String :=
  if verb = program then "streamc [OPTIONS] <COMMAND>"
  else " ".intercalate (["streamc", verb.name, "[OPTIONS]"] ++ verb.required.map Switch.form)

/-- The lines of a help text. -/
def help (verb : Verb) : List String :=
  [verb.about, "", "Usage: " ++ verb.usage, ""] ++
    (if verb = program then ["Commands:"] ++ commandTable ++ [""] else []) ++
    ["Options:"] ++ Switch.table verb.switches

/-- The lines of the help on asking for help, which has words after it and no options. -/
def helpOnHelp : List String :=
  [aboutHelp, "", "Usage: streamc help [COMMAND]...", "", "Arguments:",
    "  [COMMAND]...  Print help for the subcommand(s)"]

end Verb
end StreamPlan.CommandLine
