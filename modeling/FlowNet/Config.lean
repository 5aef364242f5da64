import FlowNet.Net.Reachability
import FlowNet.Toml.Reader
import FlowNet.FileTree

/-!
# Settings

Settings are read from a file in which each may be left out. A key to the model that is given from outside
goes before the one in the file.
-/

namespace FlowNet

structure Config where
  tickIntervalMs : Nat
  maxStates : Nat
  maxTicks : Nat
  storeDir : String
  decisionModel : String
  apiKey : String

namespace Config

def default : Config := ⟨250, Net.defaultMaxStates, 1000, ".petrigate", "claude-haiku-4-5-20251001", ""⟩

inductive Fault where
  | unreadable (path : String)
  | malformed (path : String)
deriving DecidableEq

def Fault.message : Fault → String
  | unreadable path => s!"failed to read config {path}"
  | malformed path => s!"invalid config {path}"

open Datum in
def decoder : Decoder Config :=
  Fields.record "config" (Config.mk <$> Fields.optional "tick_interval_ms" default.tickIntervalMs Decoder.natural64
    <*> Fields.optional "max_states" default.maxStates Decoder.natural64
    <*> Fields.optional "max_ticks" default.maxTicks Decoder.natural64
    <*> Fields.optional "store_dir" default.storeDir Decoder.string
    <*> Fields.optional "decision_model" default.decisionModel Decoder.string
    <*> Fields.optional "api_key" default.apiKey Decoder.string) true

def ofToml? (text : String) : Option Config := (Toml.read text).bind fun d => (decoder .toml d).toOption

def ofFile (files : FileTree) (path : String) : Except Fault Config :=
  match files.readText path with
  | .error _ => .error (.unreadable path)
  | .ok text =>
    match ofToml? text with
    | some c => .ok c
    | none => .error (.malformed path)

/-- Where settings are looked for if no path is given. -/
def defaultPath : String := "petrigate.toml"

def isThere (files : FileTree) (path : String) : Bool :=
  match files.locate path with
  | .ok l => (files.node? l).isSome
  | .error _ => false

def withKey (c : Config) (key : Option String) : Config :=
  match key with
  | some k => if k = "" then c else { c with apiKey := k }
  | none => c

/-- The settings in a file. Only the file at the default path may be missing. -/
def load (files : FileTree) (path : Option String) (key : Option String) : Except Fault Config := do
  let c ← match path with
    | some path => ofFile files path
    | none => if isThere files defaultPath then ofFile files defaultPath else .ok default
  return c.withKey key

def hasApiKey (c : Config) : Bool := c.apiKey ≠ ""

end Config

end FlowNet
