import FlowNet.Dict

/-!
# JSON values

Integers are exact and fit 64 bits, signed or unsigned; a number written with a point or an exponent is a
double. An object lists its fields in the order in which they are written out. Objects that were read
list them in key order, one field per key.
-/

namespace FlowNet

inductive Json.Number where
  | int (i : Int)
  | float (f : Float)

inductive Json where
  | null
  | bool (b : Bool)
  | num (n : Json.Number)
  | str (s : String)
  | arr (items : List Json)
  | obj (fields : List (String × Json))

/-- The document that guards, effects and instances share: named JSON values. -/
abbrev Context := Dict Json

namespace Json

instance : Inhabited Json := ⟨null⟩

def nat (n : Nat) : Json := num (.int n)

def int (i : Int) : Json := num (.int i)

def ofDict (d : Dict Json) : Json := obj d.entries

def dict {α : Type} (d : Dict α) (f : α → Json) : Json := ofDict (d.map f)

def strings (l : List String) : Json := arr (l.map str)

def option {α : Type} (o : Option α) (f : α → Json) : Json :=
  match o with
  | some a => f a
  | none => null

/-- The field of an object. Other values have none. -/
def get? (key : String) : Json → Option Json
  | obj fields => Dict.lookup key fields
  | _ => none

def str? : Json → Option String
  | str s => some s
  | _ => none

def object? : Json → Option (Dict Json)
  | obj fields => some (Dict.ofList fields)
  | _ => none

end Json

end FlowNet
