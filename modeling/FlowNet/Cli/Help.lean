import FlowNet.Cli.Invocation
import FlowNet.Cli.Display

/-!
# Help

A page of help says what a command is for, how it is used, and what may follow it.
-/

namespace FlowNet.Cli

def programName : String := "petrigate"

def version : String := "0.1.0"

def versionLine : String := programName ++ " " ++ version

def Verb.summary : Verb → String
  | analyse => "Explore the reachable state space of a net file"
  | run => "Create (or resume) an instance and tick it until it settles"
  | inject => "Add one token to a place of a stored instance, then keep running"
  | instances => "List stored instances"
  | demo => "Analyse and run the built-in coffee net in memory"

def Verb.fileSummary : Verb → String
  | analyse => "Net definition (.json or .toml)"
  | _ => ""

def Flag.summary : Flag → String
  | config => "Config file (defaults to ./petrigate.toml when present)"
  | maxStates => "Give up analysis after this many distinct markings"
  | maxTicks => "Give up running after this many ticks"
  | verbose => "Debug-level logging (RUST_LOG still wins)"
  | json => "Print the full report as JSON"
  | instanceId => "Instance id; a fresh one is generated when omitted"
  | watch => "Keep ticking every \x60tick_interval_ms\x60 until Ctrl-C instead of stopping at quiescence"
  | place => ""
  | status => "[possible values: active, completed, failed]"
  | help => "Print help"
  | version => "Print version"

def Flag.text (f : Flag) : String :=
  let operand := match f.operand with
    | .nothing => ""
    | _ => " <" ++ (f.name.map fun c => if c = '-' then '_' else c.toUpper) ++ ">"
  "--" ++ f.name ++ operand

def Flag.heading (f : Flag) : String :=
  match f.letter? with
  | some c => "-" ++ c.toString ++ ", " ++ f.text
  | none => "    " ++ f.text

/-- The instance must be named where one is given a token. -/
def Flag.summaryFor (v : Option Verb) (f : Flag) : String :=
  if v = some .inject && f = .instanceId then "" else f.summary

/-! ## Pages -/

def pageWidth : Nat := 100

/-- Headings with their texts beside them, or below them if the headings are wide and a text has no room. -/
def entries (rows : List (String × String)) : List String :=
  let width := (rows.map (·.1.length)).foldl max 0
  let taken := width + 12
  let isNarrow := 10 * taken ≤ 4 * pageWidth
  if isNarrow || rows.all fun r => r.2.length ≤ pageWidth - taken then
    rows.map fun (heading, text) => "  " ++ padded width heading ++ "  " ++ text
  else rows.flatMap fun (heading, text) => ["  " ++ heading, "          " ++ text]

def part (name : String) (rows : List (String × String)) : List String :=
  if rows.isEmpty then [] else ["", name ++ ":"] ++ entries rows

def Verb.usage : Verb → String
  | inject => "[OPTIONS] --instance <INSTANCE> --place <PLACE> <FILE>"
  | v => if v.takesFile then "[OPTIONS] <FILE>" else "[OPTIONS]"

def flagRows (v : Option Verb) : List (String × String) :=
  (Flag.allowed v).map fun f => (f.heading, f.summaryFor v)

def helpSummary : String := "Print this message or the help of the given subcommand(s)"

def usageLine (rest : String) : String := "Usage: " ++ programName ++ " " ++ rest

namespace Topic

def summary : Topic → String
  | program => "Token-based workflow engine and tool-call gating for AI agents"
  | verb v => v.summary
  | help => helpSummary

def usage : Topic → String
  | program => "[OPTIONS] <COMMAND>"
  | verb v => v.name ++ " " ++ v.usage
  | help => "help [COMMAND]..."

def parts : Topic → List String
  | program =>
    part "Commands" (Verb.all.map (fun v => (v.name, v.summary)) ++ [("help", helpSummary)])
      ++ part "Options" (flagRows none)
  | verb v =>
    part "Arguments" (if v.takesFile then [("<FILE>", v.fileSummary)] else []) ++ part "Options" (flagRows (some v))
  | help => part "Arguments" [("[COMMAND]...", "Print help for the subcommand(s)")]

def lines (t : Topic) : List String := [t.summary, "", usageLine t.usage] ++ t.parts

end Topic

end FlowNet.Cli
