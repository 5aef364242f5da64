import FlowNet.Json.Basic

/-!
# Data as found in a document

A datum is what a reader found before anyone asked for a type. Fields keep their order and may repeat.
Text that breaks no rule of layout but names no value (half a surrogate pair, a number out of range) is
`unreadable`: it may be skipped, and fails only where it is asked for.
-/

namespace FlowNet

inductive Datum where
  | null
  | bool (b : Bool)
  | int (i : Int)
  | float (f : Float)
  | str (s : String)
  | arr (items : List Datum)
  | obj (fields : List (Option String × Datum))
  | unreadable

namespace Datum

mutual

def ofJson : Json → Datum
  | .null => .null
  | .bool b => .bool b
  | .num (.int i) => .int i
  | .num (.float f) => .float f
  | .str s => .str s
  | .arr items => .arr (ofItems items)
  | .obj fields => .obj (ofFields fields)

def ofItems : List Json → List Datum
  | [] => []
  | v :: r => ofJson v :: ofItems r

def ofFields : List (String × Json) → List (Option String × Datum)
  | [] => []
  | (k, v) :: r => (some k, ofJson v) :: ofFields r

end

end Datum

end FlowNet
