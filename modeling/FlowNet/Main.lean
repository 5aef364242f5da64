import Std.Time.DateTime.Timestamp
import FlowNet.Cli.Help
import FlowNet.Cli.Session

/-!
# The program

Reads the files that a command works on, carries it out, waits until its clock is reached, and then prints
its lines and writes the files of the store that have changed.
-/

namespace FlowNet.Cli

def keyName : String := "ANTHROPIC_API_KEY"

def now : IO Instant := do
  let t := (← Std.Time.Timestamp.now).val
  return ⟨t.second.val, t.nano.val.toNat⟩

def waitUntil (t : Instant) : IO Unit := do
  IO.sleep (min ((← now).millisUntil t) (Word.size32 - 1)).toUInt32

def addFile (t : FileTree) (path : String) : IO FileTree := do
  try
    return t.place path (← IO.FS.readBinFile path)
  catch _ =>
    return t

def addDirectory (t : FileTree) (path : String) : IO FileTree := do
  try
    (← (← IO.FS.realPath path).readDir).foldlM (fun t e => addFile t (FileTree.join path e.fileName)) t
  catch _ =>
    return t

def storeDirectories (root : String) : List String :=
  [Store.Documents.instanceDir root, Store.Documents.historyDir root]

def machineFor (i : Invocation) (suffix : String) : IO (Machine Unit) := do
  let files ← addFile .empty (i.config.getD Config.defaultPath)
  let m : Machine Unit := ⟨files, ← now, ← IO.getEnv keyName, suffix, .offline, ()⟩
  match m.settings i with
  | .error _ => return m
  | .ok c =>
    let files ← (i.command.file?.toList ++ [c.storeDir]).foldlM addFile files
    return { m with files := ← (storeDirectories c.storeDir).foldlM addDirectory files }

/-- Writes the files of a directory that are not as before. -/
def writeDirectory (before after : FileTree) (path : String) : IO Unit := do
  let .ok names := after.list path | return
  IO.FS.createDirAll path
  for name in names do
    let file := FileTree.join path name
    match before.read file, after.read file with
    | .ok old, .ok new => if old != new then IO.FS.writeBinFile file new
    | .error _, .ok new => IO.FS.writeBinFile file new
    | _, .error _ => pure ()

def realise (m : Machine Unit) (i : Invocation) (o : Outcome) : IO (Except Failure Unit) := do
  waitUntil o.clock
  for line in o.lines do IO.println line
  if let .ok c := m.settings i then
    for path in storeDirectories c.storeDir do writeDirectory m.files o.files path
  return o.result

/-- Ticks at every interval, until the program is interrupted or something fails. -/
partial def keepWatching (i : Invocation) : IO (Except Failure Unit) := do
  let m ← machineFor i ""
  match m.settings i with
  | .error e => return .error e
  | .ok c =>
    waitUntil (m.clock.plusMillis c.tickIntervalMs)
    let m ← machineFor i ""
    match ← realise m i (m.watch i) with
    | .ok () => keepWatching i
    | .error e => return .error e

def freshSuffix : IO String := do
  let digits (b : UInt8) : List Char := [Nat.digitChar (b.toNat / 16), Nat.digitChar (b.toNat % 16)]
  return String.ofList ((← IO.getRandomBytes 4).toList.flatMap digits)

def carryOut (i : Invocation) : IO (Except Failure Unit) := do
  let m ← machineFor i (← freshSuffix)
  match ← realise m i (m.perform i) with
  | .ok () => if i.command.watches then keepWatching i else return .ok ()
  | .error e => return .error e

end FlowNet.Cli

open FlowNet.Cli in
def main (args : List String) : IO UInt32 := do
  match Invocation.ofWords args with
  | .error (.help topic) =>
    for line in topic.lines do IO.println line
    return 0
  | .error .version =>
    IO.println versionLine
    return 0
  | .error .misuse =>
    IO.eprintln (usageLine Topic.program.usage)
    return 2
  | .ok i =>
    match ← carryOut i with
    | .ok () => return 0
    | .error e =>
      IO.eprintln ("Error: " ++ e.message)
      return e.status.toUInt32
