import FlowNet.Net.NodeType
import FlowNet.Json.Reader
import FlowNet.Toml.Reader

/-!
# Net documents

A net may be written as a document. Inputs and outputs list places, one token for each mention. Fields
that a net, a transition or an invariant does not have are refused.
-/

namespace FlowNet

structure Transition.Spec where
  name : String
  inputs : List String
  outputs : List String
  guard : Option String
  timeout : Option Timeout
  kind : Option String
  config : Option Json

structure Net.Document where
  name : String
  places : List String
  transitions : List Transition.Spec
  initialMarking : Dict Nat
  initialContext : Context
  terminalPlaces : List String
  invariants : List Invariant

namespace Net.Document

open Datum

def timeoutDecoder : Decoder Timeout :=
  Fields.record "timeout" (Timeout.mk <$> Fields.required "targetPlace" Decoder.string
    <*> Fields.required "delayMs" Decoder.natural64)

def stringsOr (name : String) : Fields (List String) := Fields.optional name [] (Decoder.list Decoder.string)

def transitionDecoder : Decoder Transition.Spec :=
  Fields.record "transition" (Transition.Spec.mk <$> Fields.required "name" Decoder.string
    <*> stringsOr "inputs"
    <*> stringsOr "outputs"
    <*> Fields.nullable "guard" Decoder.string
    <*> Fields.nullable "timeout" timeoutDecoder
    <*> Fields.nullable "type" Decoder.string
    <*> Fields.nullable "config" Decoder.json) true

def invariantDecoder : Decoder Invariant :=
  Fields.record "invariant" (Invariant.mk <$> Fields.required "name" Decoder.string
    <*> Fields.required "weights" (Decoder.dict Decoder.integer64)) true

def decoder : Decoder Document :=
  Fields.record "net" (Document.mk <$> Fields.required "name" Decoder.string
    <*> Fields.required "places" (Decoder.list Decoder.string)
    <*> Fields.optional "transitions" [] (Decoder.list transitionDecoder)
    <*> Fields.optional "initialMarking" Dict.empty (Decoder.dict Decoder.natural32)
    <*> Fields.optional "initialContext" Dict.empty (Decoder.dict Decoder.json)
    <*> stringsOr "terminalPlaces"
    <*> Fields.optional "invariants" [] (Decoder.list invariantDecoder)) true

def ofJson? (text : String) : Option Document := decoder.run (Json.read text)

def ofToml? (text : String) : Option Document := (Toml.read text).bind fun d => (decoder .toml d).toOption

def transitionOf (s : Transition.Spec) : Except DefinitionError Transition := do
  let t ← ((Transition.named s.name).inputsOf s.inputs).mapError .overflow
  let t ← (t.outputsOf s.outputs).mapError .overflow
  let guard ← match s.guard with
    | some text => ((Guard.compile text).mapError (.guard s.name)).map some
    | none => .ok none
  return { t with guard := guard, timeout := s.timeout, kind := s.kind, config := s.config }

def draft (d : Document) : Except DefinitionError Draft := do
  return {
    name := d.name
    places := d.places
    transitions := ← d.transitions.mapM transitionOf
    tokens := d.initialMarking.entries
    context := d.initialContext
    terminalPlaces := d.terminalPlaces
    invariants := d.invariants }

def net (d : Document) : Except DefinitionError Net := do (← d.draft).buildEquipped

end Net.Document

end FlowNet
