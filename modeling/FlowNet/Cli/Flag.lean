import FlowNet.Instance
import FlowNet.Word

/-!
# Commands and flags

A command line names a command. Each command has flags of its own, and some flags belong to all of them
and may stand in front of the command too.
-/

namespace FlowNet.Cli

inductive Verb where
  | analyse
  | run
  | inject
  | instances
  | demo
deriving DecidableEq

namespace Verb

def all : List Verb := [analyse, run, inject, instances, demo]

def name : Verb → String
  | analyse => "analyse"
  | run => "run"
  | inject => "inject"
  | instances => "instances"
  | demo => "demo"

def ofName? (s : String) : Option Verb := all.find? fun v => v.name == s

def takesFile : Verb → Bool
  | analyse | run | inject => true
  | instances | demo => false

end Verb

inductive Operand where
  | nothing
  | text
  /-- A text that is not empty. -/
  | path
  | count
  | status
deriving DecidableEq

/-- A count fits in 64 bits, and a plus sign may stand before its digits. -/
def countOf? (s : String) : Option Nat :=
  let digits := match s.toList with
    | '+' :: rest => rest
    | cs => cs
  if digits.isEmpty || digits.any fun c => !c.isDigit then none
  else
    let n := digits.foldl (fun n c => 10 * n + (c.toNat - 48)) 0
    if n < Word.size64 then some n else none

def Operand.admits : Operand → String → Bool
  | nothing, _ | text, _ => true
  | path, s => s ≠ ""
  | count, s => (countOf? s).isSome
  | status, s => (Instance.Status.ofText? s).isSome

inductive Flag where
  | config
  | maxStates
  | maxTicks
  /-- Asks for more in the log. -/
  | verbose
  | json
  | instanceId
  | watch
  | place
  | status
  | help
  | version
deriving DecidableEq

namespace Flag

def name : Flag → String
  | config => "config"
  | maxStates => "max-states"
  | maxTicks => "max-ticks"
  | verbose => "verbose"
  | json => "json"
  | instanceId => "instance"
  | watch => "watch"
  | place => "place"
  | status => "status"
  | help => "help"
  | version => "version"

def letter? : Flag → Option Char
  | verbose => some 'v'
  | help => some 'h'
  | version => some 'V'
  | _ => none

def operand : Flag → Operand
  | config => .path
  | maxStates | maxTicks => .count
  | instanceId | place => .text
  | status => .status
  | verbose | json | watch | help | version => .nothing

def allowed : Option Verb → List Flag
  | none => [config, maxStates, maxTicks, verbose, help, version]
  | some .analyse => [config, json, maxStates, maxTicks, verbose, help]
  | some .run => [config, instanceId, maxStates, watch, maxTicks, verbose, help]
  | some .inject => [config, instanceId, maxStates, place, maxTicks, verbose, help]
  | some .instances => [config, status, maxStates, maxTicks, verbose, help]
  | some .demo => [config, maxStates, maxTicks, verbose, help]

end Flag

end FlowNet.Cli
