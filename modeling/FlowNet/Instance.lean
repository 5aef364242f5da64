import FlowNet.Net.Deadlines
import FlowNet.Net.Snapshot

/-!
# Instances

An instance is a running net: its state, its deadlines and how it fares. Its history has a row for each
transition that fired, each deadline that passed and each token that was put in from outside.
-/

namespace FlowNet

namespace Instance

inductive Status where
  | active
  | completed
  | failed
deriving DecidableEq, Repr

def Status.text : Status → String
  | active => "active"
  | completed => "completed"
  | failed => "failed"

def Status.ofText? : String → Option Status
  | "active" => some active
  | "completed" => some completed
  | "failed" => some failed
  | _ => none

inductive RowKind where
  | fired
  | timedOut
  | injected
deriving DecidableEq, Repr

def RowKind.text : RowKind → String
  | fired => "fired"
  | timedOut => "timed_out"
  | injected => "injected"

def RowKind.ofText? : String → Option RowKind
  | "fired" => some fired
  | "timed_out" => some timedOut
  | "injected" => some injected
  | _ => none

end Instance

structure Instance where
  id : String
  /-- The name of its net. -/
  definition : String
  status : Instance.Status
  state : NetState
  deadlines : Deadlines
  /-- Active, but nothing is enabled and nothing is waited for. -/
  stalled : Bool
  error : Option String
  createdAt : Instant
  updatedAt : Instant

namespace Instance

structure Row where
  instanceId : String
  kind : RowKind
  /-- The transition that fired or timed out, or the place that got a token. -/
  name : String
  before : Marking
  after : Marking
  timestamp : Instant
  durationMs : Nat
deriving DecidableEq

def isActive (r : Instance) : Bool := r.status = .active

/-- Instances of one status or net, or of any. -/
structure Filter where
  status : Option Status
  definition : Option String

def Filter.all : Filter := ⟨none, none⟩

def Filter.active : Filter := ⟨some .active, none⟩

def Filter.admits (f : Filter) (r : Instance) : Bool :=
  f.status.all (· = r.status) && f.definition.all (· = r.definition)

/-! ## As documents -/

open Datum

def decoder : Decoder Instance :=
  Fields.record "instance" (Instance.mk <$> Fields.required "id" Decoder.string
    <*> Fields.required "definition" Decoder.string
    <*> Fields.required "status" (Decoder.variant Status.ofText?)
    <*> Fields.required "state" NetState.decoder
    <*> Fields.optional "timeouts" .empty Deadlines.decoder
    <*> Fields.optional "stalled" false Decoder.boolean
    <*> Fields.nullable "error" Decoder.string
    <*> Fields.required "created_at" Deadlines.instantDecoder
    <*> Fields.required "updated_at" Deadlines.instantDecoder)

def Row.decoder : Decoder Row :=
  Fields.record "row" (Row.mk <$> Fields.required "instance_id" Decoder.string
    <*> Fields.required "kind" (Decoder.variant RowKind.ofText?)
    <*> Fields.required "name" Decoder.string
    <*> Fields.required "marking_before" Marking.decoder
    <*> Fields.required "marking_after" Marking.decoder
    <*> Fields.required "timestamp" Deadlines.instantDecoder
    <*> Fields.required "duration_ms" Decoder.natural64)

def json (r : Instance) : Json :=
  .obj [("id", .str r.id), ("definition", .str r.definition), ("status", .str r.status.text),
    ("state", r.state.json), ("timeouts", r.deadlines.json), ("stalled", .bool r.stalled),
    ("error", .option r.error .str), ("created_at", .str r.createdAt.text), ("updated_at", .str r.updatedAt.text)]

def Row.json (r : Row) : Json :=
  .obj [("instance_id", .str r.instanceId), ("kind", .str r.kind.text), ("name", .str r.name),
    ("marking_before", r.before.json), ("marking_after", r.after.json), ("timestamp", .str r.timestamp.text),
    ("duration_ms", .nat r.durationMs)]

end Instance

end FlowNet
