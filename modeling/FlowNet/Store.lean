import FlowNet.Instance
import FlowNet.FileTree

/-!
# Stores

A store keeps instances and their histories. It is given as its operations on a state `σ`, each of which
may fail; an operation that only reads leaves the state alone.
-/

namespace FlowNet

inductive StoreError where
  | io (cause : FileError)
  /-- A document that does not describe what it should. -/
  | damaged
  /-- An id that is no name of a file. -/
  | unusableId (id : String)
deriving DecidableEq

def StoreError.message : StoreError → String
  | io cause => "IO error: " ++ cause.message
  | damaged => "JSON error"
  | unusableId id => s!"store backend error: instance id '{id}' is not usable as a file name"

structure Store (σ : Type) where
  load : String → σ → Except StoreError (Option Instance)
  save : Instance → σ → Except StoreError Unit × σ
  append : Instance.Row → σ → Except StoreError Unit × σ
  /-- The rows of an instance in the order in which they were appended. -/
  history : String → σ → Except StoreError (List Instance.Row)
  /-- In order of their ids. -/
  list : Instance.Filter → σ → Except StoreError (List Instance)
  /-- Tells whether there was such an instance. -/
  delete : String → σ → Except StoreError Bool × σ

namespace Store

def hasPending {σ : Type} (s : Store σ) (id : String) (x : σ) : Except StoreError Bool := do
  return (← s.load id x).any fun r => !r.deadlines.isEmpty

end Store

end FlowNet
