import FlowNet.Datum
import FlowNet.Word
import FlowNet.Json.Printer
import FlowNet.Text.Quoted

/-!
# Typed data

A decoder asks a datum for one type. Records may be written as objects or as the list of their fields in
order. Fields that a record does not have are skipped unless the record refuses them; a field given twice
is an error, a key of a dictionary given twice counts the last time.
-/

namespace FlowNet

namespace Datum

inductive Found where
  | null
  | boolean (b : Bool)
  | integer (i : Int)
  | floating (f : Float)
  | string (s : String)
  | sequence
  | map

inductive Problem where
  | wrongType (found : Found) (expected : String)
  | wrongValue (found : Found) (expected : String)
  | wrongLength (length : Nat) (expected : String)
  | missingField (name : String)
  | duplicateField (name : String)
  | unknownField (name : String)
  | unknownVariant (name : String)
  | tooDeep
  | unreadable
  | malformed (what : String)

def tick (s : String) : String := "\x60" ++ s ++ "\x60"

def Found.text : Found → String
  | .null => "null"
  | .boolean b => "boolean " ++ tick (toString b)
  | .integer i => "integer " ++ tick (toString i)
  | .floating f => "floating point " ++ tick (Json.floatLayout.float f)
  | .string s => "string " ++ Text.quoted s
  | .sequence => "sequence"
  | .map => "map"

def Problem.message : Problem → String
  | .wrongType found expected => "invalid type: " ++ found.text ++ ", expected " ++ expected
  | .wrongValue found expected => "invalid value: " ++ found.text ++ ", expected " ++ expected
  | .wrongLength n expected => "invalid length " ++ toString n ++ ", expected " ++ expected
  | .missingField name => "missing field " ++ tick name
  | .duplicateField name => "duplicate field " ++ tick name
  | .unknownField name => "unknown field " ++ tick name
  | .unknownVariant name => "unknown variant " ++ tick name
  | .tooDeep => "recursion limit exceeded"
  | .unreadable => "unreadable text"
  | .malformed what => what

/-- How a document is read: how many containers may still be entered, and whether a record written as a
list may have items to spare. -/
structure Reading where
  depth : Option Nat
  spareItems : Bool

namespace Reading

/-- A JSON text nests fewer than 128 containers. -/
def jsonText : Reading := ⟨some 128, false⟩

def jsonValue : Reading := ⟨none, false⟩

def toml : Reading := ⟨none, true⟩

def enter (r : Reading) : Except Problem Reading :=
  match r.depth with
  | none => .ok r
  | some n => if n ≤ 1 then .error .tooDeep else .ok { r with depth := some (n - 1) }

end Reading

abbrev Decoder (α : Type) := Reading → Datum → Except Problem α

def found : Datum → Except Problem Found
  | .null => .ok .null
  | .bool b => .ok (.boolean b)
  | .int i => .ok (.integer i)
  | .float f => .ok (.floating f)
  | .str s => .ok (.string s)
  | .arr _ => .ok .sequence
  | .obj _ => .ok .map
  | .unreadable => .error .unreadable

namespace Decoder

variable {α β : Type}

def refuse (expected : String) (d : Datum) : Except Problem α := do
  .error (.wrongType (← found d) expected)

def string : Decoder String
  | _, .str s => .ok s
  | _, d => refuse "a string" d

def boolean : Decoder Bool
  | _, .bool b => .ok b
  | _, d => refuse "a boolean" d

def integer (low high : Int) (expected : String) : Decoder Int
  | _, .int i => if low ≤ i ∧ i ≤ high then .ok i else .error (.wrongValue (.integer i) expected)
  | _, d => refuse expected d

def natural (bound : Nat) (expected : String) : Decoder Nat := fun r d =>
  return (← integer 0 (bound - 1) expected r d).toNat

def natural32 : Decoder Nat := natural Word.size32 "u32"

def natural64 : Decoder Nat := natural Word.size64 "u64"

def integer64 : Decoder Int := integer Word.leastSigned Word.greatestSigned "i64"

def list (item : Decoder α) : Decoder (List α)
  | r, .arr items => do
    let r ← r.enter
    items.mapM (item r)
  | _, d => refuse "a sequence" d

def dict (item : Decoder α) : Decoder (Dict α)
  | r, .obj fields => do
    let r ← r.enter
    fields.foldlM (fun d (k, v) => do
      let some k := k | .error .unreadable
      return d.insert k (← item r v)) Dict.empty
  | _, d => refuse "a map" d

def nullable (item : Decoder α) : Decoder (Option α)
  | _, .null => .ok none
  | r, d => some <$> item r d

/-- One of several names; also written as an object with that one name over `null`. -/
def variant (names : String → Option α) : Decoder α := fun r d =>
  let named (s : String) : Except Problem α :=
    match names s with
    | some a => .ok a
    | none => .error (.unknownVariant s)
  match d with
  | .str s => named s
  | .obj [(some s, v)] => do
    let _ ← r.enter
    let a ← named s
    match v with
    | .null => .ok a
    | v => refuse "unit" v
  | d => refuse "a variant" d

mutual

def json (r : Reading) : Datum → Except Problem Json
  | .null => .ok .null
  | .bool b => .ok (.bool b)
  | .int i => .ok (.num (.int i))
  | .float f => .ok (if f.isFinite then .num (.float f) else .null)
  | .str s => .ok (.str s)
  | .arr items => do
    let r ← r.enter
    return .arr (← jsonItems r items)
  | .obj fields => do
    let r ← r.enter
    return .ofDict (Dict.ofList (← jsonFields r fields))
  | .unreadable => .error .unreadable

def jsonItems (r : Reading) : List Datum → Except Problem (List Json)
  | [] => .ok []
  | d :: rest => do
    let v ← json r d
    return v :: (← jsonItems r rest)

def jsonFields (r : Reading) : List (Option String × Datum) → Except Problem (List (String × Json))
  | [] => .ok []
  | (k, d) :: rest => do
    let some k := k | .error .unreadable
    let v ← json r d
    return (k, v) :: (← jsonFields r rest)

end

end Decoder

/-- The fields of a record that has been found: how to look one up, and what to say if it is absent. -/
structure Source where
  field? : String → Option Datum
  /-- Whether the record was written as an object. -/
  keyed : Bool
  absent : String → Problem

/-- The decoder of a record, field by field in their order. `check` decodes one field for its error
alone, since an object's fields are judged in the order in which they stand. -/
structure Fields (α : Type) where
  names : List String
  check : Reading → String → Datum → Except Problem Unit
  build : Reading → Source → Except Problem α

namespace Fields

variable {α β : Type}

instance : Functor Fields where
  map f x := ⟨x.names, x.check, fun r s => f <$> x.build r s⟩

instance : Applicative Fields where
  pure a := ⟨[], fun _ _ _ => .ok (), fun _ _ => .ok a⟩
  seq f x :=
    let x := x ()
    ⟨f.names ++ x.names,
      fun r k d => do f.check r k d; x.check r k d,
      fun r s => do
        let g ← f.build r s
        let a ← x.build r s
        return g a⟩

def field (name : String) (item : Decoder α) (absent : Source → Except Problem α) : Fields α where
  names := [name]
  check r k d := if k = name then (fun _ => ()) <$> item r d else .ok ()
  build r s :=
    match s.field? name with
    | some d => item r d
    | none => absent s

def required (name : String) (item : Decoder α) : Fields α :=
  field name item fun s => .error (s.absent name)

def optional (name : String) (default : α) (item : Decoder α) : Fields α :=
  field name item fun _ => .ok default

/-- May be `null` or absent. -/
def nullable (name : String) (item : Decoder α) : Fields (Option α) :=
  field name (Decoder.nullable item) fun _ => .ok none

/-- May be `null`, and absent from an object but not from a list. -/
def listedNullable (name : String) (item : Decoder α) : Fields (Option α) :=
  field name (Decoder.nullable item) fun s => if s.keyed then .ok none else .error (s.absent name)

def elements (n : Nat) : String := toString n ++ if n = 1 then " element" else " elements"

def checkAll (r : Reading) (refuseOthers : Bool) (x : Fields α) (seen : List String) :
    List (Option String × Datum) → Except Problem Unit
  | [] => .ok ()
  | (none, _) :: _ => .error .unreadable
  | (some k, d) :: rest =>
    if k ∈ x.names then
      if k ∈ seen then .error (.duplicateField k)
      else do
        x.check r k d
        checkAll r refuseOthers x (k :: seen) rest
    else if refuseOthers then .error (.unknownField k)
    else checkAll r refuseOthers x seen rest

def fieldNamed (name : String) : List (Option String × Datum) → Option Datum
  | [] => none
  | (k, d) :: rest => if k = some name then some d else fieldNamed name rest

def fieldAt (name : String) : List String → List Datum → Option Datum
  | n :: names, d :: items => if n = name then some d else fieldAt name names items
  | _, _ => none

/-- The record called `name`. Other fields are skipped, or refused with `refuseOthers`. -/
def record (name : String) (x : Fields α) (refuseOthers : Bool := false) : Decoder α
  | r, .obj fields => do
    let r ← r.enter
    x.checkAll r refuseOthers [] fields
    x.build r ⟨fun k => fieldNamed k fields, true, .missingField⟩
  | r, .arr items => do
    let r' ← r.enter
    let expected := "struct " ++ name ++ " with " ++ elements x.names.length
    let a ← x.build r' ⟨fun k => fieldAt k x.names items, false,
      fun k => .wrongLength (x.names.idxOf k) expected⟩
    if x.names.length < items.length && !r.spareItems then
      .error (.wrongLength items.length "fewer elements in array")
    else .ok a
  | _, d => Decoder.refuse ("struct " ++ name) d

end Fields

def Decoder.run {α : Type} (item : Decoder α) (d : Option Datum) : Option α :=
  d.bind fun d => (item .jsonText d).toOption

end Datum

end FlowNet
