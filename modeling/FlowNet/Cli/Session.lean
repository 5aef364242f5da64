import FlowNet.Cli.Display
import FlowNet.Cli.Invocation
import FlowNet.Config
import FlowNet.Net.File
import FlowNet.Scheduler.Tick
import FlowNet.Store.Documents
import FlowNet.Store.Memory

/-!
# Carrying out commands

A command works on a machine, which has files and a clock. What it has printed and written stays if it
fails later. Its clock runs ahead: a deadline that is waited for is there at once.
-/

namespace FlowNet.Cli

open Scheduler

inductive Failure where
  | config (cause : Config.Fault)
  | netFile (cause : Net.FileFault)
  | definition (path : String)
  | search (cause : Net.SearchError)
  | store (cause : StoreError)
  | operation (cause : Scheduler.Error)
  /-- The program cannot go on. -/
  | stop (cause : Stop)
deriving DecidableEq

def Failure.message : Failure → String
  | config cause => cause.message
  | netFile cause => cause.message
  | definition path => s!"invalid net definition in {path}"
  | search cause => cause.message
  | store cause => cause.message
  | operation cause => cause.message
  | stop cause => cause.message

def Failure.status : Failure → Nat
  | stop _ => 101
  | _ => 1

/-! ## Sessions -/

structure Session (σ π : Type) where
  /-- Last line first. -/
  printed : List String
  world : World σ π

abbrev Console (σ π α : Type) := ExceptT Failure (StateM (Session σ π)) α

namespace Console

variable {σ π α : Type}

def print (line : String) : Console σ π Unit := modify fun s => { s with printed := line :: s.printed }

def printAll (lines : List String) : Console σ π Unit := lines.forM print

def stored : Console σ π σ := return (← get).world.stored

def setStored (x : σ) : Console σ π Unit := modify fun s => { s with world := { s.world with stored := x } }

def orFail {ε : Type} (cause : ε → Failure) : Except ε α → Console σ π α
  | .ok a => pure a
  | .error e => throw (cause e)

def onWorld (f : World σ π → Except Stop α × World σ π) : Console σ π α := do
  let s ← get
  let (result, w) := f { s.world with events := [] }
  set { s with world := w }
  printAll (w.events.reverse.map eventLine)
  orFail .stop result

def attempt (env : Environment σ π) (op : Operation α) : Console σ π (Except Scheduler.Error α) :=
  onWorld (World.perform env op)

def perform (env : Environment σ π) (op : Operation α) : Console σ π α := do orFail .operation (← attempt env op)

end Console

open Console

/-! ## What commands do -/

section

variable {σ π : Type}

def showReport (r : Net.Report) (asJson : Bool) : Console σ π Unit :=
  if asJson then print r.json.indented else printAll (reportLines r)

def search (net : Net) (maxStates : Nat) : Except Failure Net.Report :=
  (net.analyse maxStates).mapError fun
    | .overflow cause => .stop (.overflow cause)
    | e => .search e

def analyse (net : Net) (maxStates : Nat) (asJson : Bool) : Console σ π Unit :=
  match search net maxStates with
  | .ok r => do
    print (foundLine r)
    showReport r asJson
  | .error e => do
    if e.status = 1 then print (badLine e.message)
    throw e

def showInstance (env : Environment σ π) (id : String) : Console σ π Unit := do
  let cause (e : StoreError) : Failure := .operation (.store e)
  match ← orFail cause (env.store.load id (← stored)) with
  | none => throw (.operation (.instanceNotFound id))
  | some r =>
    printAll (instanceLines r)
    printAll ((← orFail cause (env.store.history id (← stored))).map rowLine)

def quiesce (env : Environment σ π) (nets : Nets) (maxTicks : Nat) (id : String) : Console σ π Unit := do
  discard (orFail .operation (← onWorld (World.quiesce env nets maxTicks)))
  showInstance env id

def createOrResume (env : Environment σ π) (nets : Nets) (definition id : String) : Console σ π Unit := do
  match ← attempt env (createInstance nets definition id) with
  | .ok _ => print s!"  created {id}"
  | .error (.duplicateInstance _) => print s!"  resuming {id}"
  | .error e => throw (.operation e)

end

/-! ## The built-in net -/

def step (name : String) (inputs outputs : List String) (guard : Option String) : Transition.Spec :=
  ⟨name, inputs, outputs, guard, none, none, none⟩

def coffee : Net.Document where
  name := "coffee"
  places := ["cold", "hot", "beans", "ground", "cup", "ready"]
  transitions := [step "heat" ["cold"] ["hot"] none, step "grind" ["beans"] ["ground"] none,
    step "pour" ["hot", "ground", "cup"] ["ready"] (some "marking.cup >= 1")]
  initialMarking := Dict.ofList [("cold", 1), ("beans", 1), ("cup", 1)]
  initialContext := Dict.empty
  terminalPlaces := ["ready"]
  invariants := [⟨"water", Dict.ofList [("cold", 1), ("hot", 1), ("ready", 1)]⟩]

section

variable {π : Type}

def provider (c : Config) (network : Http.Network π) : Decision.Provider π :=
  if c.hasApiKey then
    Decision.modelProvider ((Model.Client.mk c.apiKey Model.Client.defaultAddress).sender network) c.decisionModel
  else Decision.firstEnabled

def environment {σ : Type} (store : Store σ) (c : Config) (outside : Outside π) : Environment σ π :=
  ⟨store, provider c outside.network, outside⟩

def demo (c : Config) (outside : Outside π) : Console Store.Memory π Unit := do
  let net ← orFail (fun e => .operation (.definition e)) coffee.net
  showReport (← orFail id (search net c.maxStates)) false
  let env := environment Store.memory c outside
  let nets := Nets.register Dict.empty net
  discard (perform env (createInstance nets net.name "demo"))
  quiesce env nets c.maxTicks "demo"

/-! ## Commands on files -/

def loadNet (path : String) : Console FileTree π Net := do
  let d ← orFail .netFile (Net.Document.ofFile (← stored) path)
  let cause : DefinitionError → Failure
    | .overflow cause => .stop (.overflow cause)
    | _ => .definition path
  orFail cause d.net

def openStore (c : Config) (outside : Outside π) : Console FileTree π (Environment FileTree π) := do
  setStored (← orFail .store (Store.Documents.open c.storeDir (← stored)))
  return environment (Store.documents c.storeDir) c outside

def watchLine (c : Config) (id : String) : String := s!"  watching {id} every {c.tickIntervalMs}ms (Ctrl-C to stop)"

/-- Carries out a command. `suffix` tells a new instance from others of its net. -/
def onFiles (c : Config) (suffix : String) (outside : Outside π) : Command → Console FileTree π Unit
  | .analyse file asJson => do analyse (← loadNet file) c.maxStates asJson
  | .run file id? watch => do
    let net ← loadNet file
    let id := id?.getD (net.name ++ "-" ++ suffix)
    let env ← openStore c outside
    let nets := Nets.register Dict.empty net
    createOrResume env nets net.name id
    if watch then print (watchLine c id) else quiesce env nets c.maxTicks id
  | .inject file id place => do
    let net ← loadNet file
    let env ← openStore c outside
    let nets := Nets.register Dict.empty net
    discard (perform env (injectToken nets id place))
    quiesce env nets c.maxTicks id
  | .instances status => do
    let env ← openStore c outside
    printAll (listLines (← orFail .store (env.store.list ⟨status, none⟩ (← stored))))
  | .demo => return

/-- One tick of the instances that a command watches. That it fails does not matter. -/
def watchTick (c : Config) (outside : Outside π) (command : Command) : Console FileTree π Unit :=
  match command.watches, command.file? with
  | true, some file => do
    let net ← loadNet file
    let env ← openStore c outside
    discard (onWorld (World.tick env (Nets.register Dict.empty net)))
  | _, _ => return

end

/-! ## Machines -/

structure Machine (π : Type) where
  files : FileTree
  clock : Instant
  /-- A key to the model from outside. -/
  key : Option String
  suffix : String
  outside : Outside π
  state : π

structure Outcome where
  lines : List String
  result : Except Failure Unit
  files : FileTree
  clock : Instant

namespace Machine

variable {π : Type}

def settings (m : Machine π) (i : Invocation) : Except Failure Config := do
  let c ← (Config.load m.files i.config m.key).mapError .config
  return { c with maxStates := i.maxStates.getD c.maxStates, maxTicks := i.maxTicks.getD c.maxTicks }

def session {σ : Type} (m : Machine π) (x : σ) : Session σ π := ⟨[], World.start x m.state m.clock⟩

def fail (m : Machine π) (e : Failure) : Outcome := ⟨[], .error e, m.files, m.clock⟩

def withFiles (m : Machine π) (a : Console FileTree π Unit) : Outcome :=
  let (result, s) := a.run.run (m.session m.files)
  ⟨s.printed.reverse, result, s.world.stored, s.world.clock⟩

def withMemory (m : Machine π) (a : Console Store.Memory π Unit) : Outcome :=
  let (result, s) := a.run.run (m.session Store.Memory.empty)
  ⟨s.printed.reverse, result, m.files, s.world.clock⟩

def perform (m : Machine π) (i : Invocation) : Outcome :=
  match m.settings i with
  | .error e => m.fail e
  | .ok c => if i.command = .demo then m.withMemory (demo c m.outside)
    else m.withFiles (onFiles c m.suffix m.outside i.command)

def watch (m : Machine π) (i : Invocation) : Outcome :=
  match m.settings i with
  | .error e => m.fail e
  | .ok c => m.withFiles (watchTick c m.outside i.command)

end Machine

end FlowNet.Cli
