import FlowNet.Net.Firing
import FlowNet.Datum.Decoder

/-!
# Markings and states as documents

A marking is written as an object with the count of each place, a state as its marking and its context.
-/

namespace FlowNet

open Datum

def Marking.json (m : Marking) : Json := .dict m.counts .nat

def Marking.decoder : Decoder Marking := fun r d => Marking.mk <$> Decoder.dict Decoder.natural32 r d

def contextDecoder : Decoder Context := Decoder.dict Decoder.json

def NetState.json (s : NetState) : Json := .obj [("marking", s.marking.json), ("context", .ofDict s.context)]

def NetState.decoder : Decoder NetState :=
  Fields.record "state" (NetState.mk <$> Fields.required "marking" Marking.decoder
    <*> Fields.optional "context" Dict.empty contextDecoder)

end FlowNet
