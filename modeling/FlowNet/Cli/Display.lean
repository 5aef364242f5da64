import FlowNet.Net.Reachability
import FlowNet.Instant.Rfc3339
import FlowNet.Scheduler.Program

/-!
# What commands print

Lines about a report, about what happens to an instance, about its state and its history.
-/

namespace FlowNet.Cli

def padded (width : Nat) (s : String) : String := s ++ String.ofList (List.replicate (width - s.length) ' ')

def goodLine (s : String) : String := "  ✓ " ++ s

def badLine (s : String) : String := "  ✗ " ++ s

def title (s : String) : String := "─── " ++ s ++ " ───"

/-! ## Reports -/

def foundLine (r : Net.Report) : String := goodLine s!"{r.stateCount} reachable markings"

def endingLines (kind : String) (l : List Marking) : List String := l.map fun m => "    " ++ kind ++ " " ++ m.text

def verdictLine (v : Net.Verdict) : String :=
  let sum := s!"invariant {v.name} = {v.initialSum}"
  match v.violation with
  | none => goodLine sum
  | some m => badLine (sum ++ " violated at " ++ m.text)

def reportLines (r : Net.Report) : List String :=
  ["", title r.net, s!"  states:    {r.stateCount}", s!"  edges:     {r.edgeCount}",
      s!"  terminal:  {r.terminal.length}"]
    ++ endingLines "expected" r.expectedTerminal
    ++ endingLines "awaiting timeout" r.awaitingTimeout
    ++ endingLines "deadlock" r.deadlocks
    ++ r.invariants.map verdictLine
    ++ if r.deadTransitions.isEmpty then [] else ["  never enabled: " ++ ", ".intercalate r.deadTransitions]

/-! ## Instances -/

def eventLine : Scheduler.Event → String
  | .fired id t m => s!"  [{id}] {t} {m.text}"
  | .completed id m => goodLine s!"{id} completed at {m.text}"
  | .failed id message => badLine s!"{id}: {message}"
  | .timedOut id t target => s!"  ⏱ {id}: '{t}' timed out, token to '{target}'"

def deadlineLine (e : String × Deadline) : String := s!"  timeout: {e.1} → {e.2.target} at {e.2.due.clockText}"

def instanceLines (r : Instance) : List String :=
  ["", title s!"{r.id} ({r.status.text})" ++ " " ++ r.definition, "  marking: " ++ r.state.marking.text]
    ++ (if r.state.context.isEmpty then [] else ["  context: " ++ (Json.ofDict r.state.context).compact])
    ++ r.deadlines.armed.entries.map deadlineLine
    ++ (if r.stalled then ["  stalled"] else [])
    ++ r.error.toList.map ("  error: " ++ ·)

def kindText : Instance.RowKind → String
  | .fired => "fired"
  | .timedOut => "timeout"
  | .injected => "inject"

def rowLine (row : Instance.Row) : String :=
  "  " ++ row.timestamp.clockText ++ " " ++ padded 7 (kindText row.kind) ++ " " ++ padded 16 row.name
    ++ s!" {row.after.text} ({row.durationMs}ms)"

def listLine (r : Instance) : String :=
  "  " ++ padded 24 r.id ++ " " ++ padded 16 r.definition ++ s!" {r.status.text} {r.state.marking.text}"

def listLines (rs : List Instance) : List String := if rs.isEmpty then ["  no instances"] else rs.map listLine

end FlowNet.Cli
