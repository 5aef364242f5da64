import FlowNet.Datum.Decoder

/-!
# What was written is decoded

A decoder gets a value from a document if it finds it there, with a limit on how many containers it may enter. What a
record gets is put together from what its fields get (`Fields.Gets`).
-/

namespace FlowNet.Datum

def Reading.within (n : Nat) : Reading := ⟨some (n + 1), false⟩

theorem Reading.jsonText_eq : jsonText = within 127 := rfl

@[simp] theorem Reading.enter_within (n : Nat) : (within (n + 1)).enter = .ok (within n) := rfl

variable {α β : Type}

/-- Entering no more than `n` containers, the decoder gets `a` from `v`. -/
def Decoder.Gets (item : Decoder α) (n : Nat) (v : Json) (a : α) : Prop := item (.within n) (ofJson v) = .ok a

/-! ## Records -/

namespace Fields

def source (fields : List (String × Json)) : Source :=
  ⟨fun k => fieldNamed k (ofFields fields), true, .missingField⟩

structure Gets (x : Fields α) (n : Nat) (fields : List (String × Json)) (a : α) : Prop where
  build : x.build (.within n) (source fields) = .ok a
  check : ∀ {k v}, Dict.lookup k fields = some v → x.check (.within n) k (ofJson v) = .ok ()

variable {n : Nat} {fields : List (String × Json)} {a : α}

theorem fieldNamed_ofFields (k : String) (fields : List (String × Json)) :
    fieldNamed k (ofFields fields) = (Dict.lookup k fields).map ofJson := by
  induction fields with
  | nil => rfl
  | cons e fields ih =>
    simp only [ofFields, fieldNamed, Dict.lookup, ih, Option.some.injEq, eq_comm]
    split <;> rfl

theorem Gets.field {name : String} {item : Decoder α} {absent : Source → Except Problem α} {v : Json}
    (found : Dict.lookup name fields = some v) (gets : item.Gets n v a) : (field name item absent).Gets n fields a := by
  constructor
  · simp only [Fields.field, source, fieldNamed_ofFields, found]
    exact gets
  · intro k w found'
    unfold Decoder.Gets at gets
    show (if k = name then (fun _ => ()) <$> item (.within n) (ofJson w) else .ok ()) = .ok ()
    by_cases same : k = name
    · rw [same, found] at found'
      obtain rfl := Option.some.inj found'
      rw [if_pos same, gets]
      rfl
    · rw [if_neg same]

theorem Gets.map {x : Fields α} (gets : x.Gets n fields a) (f : α → β) : (f <$> x).Gets n fields (f a) := by
  refine ⟨?_, gets.check⟩
  show f <$> x.build _ _ = _
  rw [gets.build]
  rfl

theorem Gets.seq {f : Fields (α → β)} {x : Fields α} {g : α → β} (first : f.Gets n fields g)
    (second : x.Gets n fields a) :
    (f <*> x).Gets n fields (g a) := by
  constructor
  · show (do let g ← f.build _ _; let a ← x.build _ _; return g a) = _
    rw [first.build, second.build]
    rfl
  · intro k v found
    show (do f.check _ k _; x.check _ k _) = _
    rw [first.check found, second.check found]
    rfl

theorem checkAll_ok {x : Fields α} (gets : x.Gets n fields a) : ∀ {rest : List (String × Json)} {seen : List String},
    (rest.map (·.1)).Nodup → (∀ e ∈ rest, e.1 ∉ seen ∧ Dict.lookup e.1 fields = some e.2) →
    x.checkAll (.within n) false seen (ofFields rest) = .ok () := by
  intro rest
  induction rest with
  | nil =>
    intros
    rfl
  | cons e rest ih =>
    intro seen nodup all
    obtain ⟨⟨new, found⟩, others⟩ := List.forall_mem_cons.mp all
    obtain ⟨alone, nodup⟩ := List.nodup_cons.mp nodup
    simp only [ofFields, checkAll, new, if_false]
    split
    · rw [gets.check found]
      apply ih nodup
      intro e' mem
      refine ⟨?_, (others e' mem).2⟩
      simp only [List.mem_cons, not_or]
      refine ⟨?_, (others e' mem).1⟩
      intro same
      exact alone (List.mem_map.mpr ⟨e', mem, same⟩)
    · simp only [Bool.false_eq_true, if_false]
      exact ih nodup others

theorem lookup_of_nodup {fields : List (String × Json)} (nodup : (fields.map (·.1)).Nodup) {e : String × Json}
    (mem : e ∈ fields) : Dict.lookup e.1 fields = some e.2 := by
  induction fields with
  | nil => cases mem
  | cons f fields ih =>
    obtain ⟨alone, nodup⟩ := List.nodup_cons.mp nodup
    unfold Dict.lookup
    rcases List.mem_cons.mp mem with rfl | mem
    · simp
    · rw [if_neg, ih nodup mem]
      intro same
      exact alone (List.mem_map.mpr ⟨e, mem, same⟩)

theorem Gets.record {x : Fields α} (gets : x.Gets n fields a) (nodup : (fields.map (·.1)).Nodup) (name : String) :
    (record name x).Gets (n + 1) (.obj fields) a := by
  have checked : x.checkAll (.within n) false [] (ofFields fields) = .ok () := by
    apply checkAll_ok gets nodup
    intro e mem
    exact ⟨List.not_mem_nil, lookup_of_nodup nodup mem⟩
  unfold Decoder.Gets
  simp only [ofJson, Fields.record, Reading.enter_within]
  show (do x.checkAll (.within n) false [] (ofFields fields); x.build (.within n) (source fields)) = _
  rw [checked]
  exact gets.build

end Fields

/-! ## Values -/

namespace Decoder

variable {n : Nat}

theorem Gets.run {item : Decoder α} {v : Json} {a : α} (gets : item.Gets 127 v a) :
    item.run (some (ofJson v)) = some a := by
  unfold Gets at gets
  unfold Decoder.run
  rw [Option.bind_some, Reading.jsonText_eq, gets]
  rfl

theorem Gets.map {item : Decoder α} {v : Json} {a : α} (gets : item.Gets n v a) (f : α → β) :
    Gets (fun r d => f <$> item r d) n v (f a) := by
  unfold Gets at gets
  show f <$> item (.within n) (ofJson v) = .ok (f a)
  rw [gets]
  rfl

theorem string_gets (n : Nat) (s : String) : string.Gets n (.str s) s := rfl

theorem boolean_gets (n : Nat) (b : Bool) : boolean.Gets n (.bool b) b := rfl

theorem variant_gets {names : String → Option α} {s : String} {a : α} (h : names s = some a) (n : Nat) :
    (variant names).Gets n (.str s) a := by
  unfold Gets variant
  simp [ofJson, h]

theorem natural_gets {bound k : Nat} (h : k < bound) (expected : String) (n : Nat) :
    (natural bound expected).Gets n (.nat k) k := by
  have fits : (0 : Int) ≤ k ∧ (k : Int) ≤ bound - 1 := by omega
  unfold Gets natural
  simp only [Json.nat, ofJson, integer, if_pos fits]
  rfl

theorem nullable_none (item : Decoder α) (n : Nat) : (nullable item).Gets n .null none := rfl

theorem nullable_some {item : Decoder α} {v : Json} {a : α} (gets : item.Gets n v a) (value : v ≠ .null) :
    (nullable item).Gets n v (some a) := by
  unfold Gets at gets ⊢
  unfold nullable
  split
  · next same =>
    cases v with
    | null => exact absurd rfl value
    | num n => cases n <;> cases same
    | _ => cases same
  · rw [gets]
    rfl

theorem list_gets {item : Decoder α} {l : List α} {f : α → Json} (all : ∀ a ∈ l, item.Gets n (f a) a) :
    (list item).Gets (n + 1) (.arr (l.map f)) l := by
  have items : (ofItems (l.map f)).mapM (item (.within n)) = .ok l := by
    induction l with
    | nil => rfl
    | cons a l ih =>
      obtain ⟨first, others⟩ := List.forall_mem_cons.mp all
      unfold Gets at first
      rw [List.map_cons, ofItems, List.mapM_cons, first, ih others]
      rfl
  unfold Gets list
  simp only [ofJson, Reading.enter_within]
  exact items

theorem foldlM_ofFields {item : Decoder α} {f : α → Json}
    {step : Dict α → Option String × Datum → Except Problem (Dict α)}
    (steps : ∀ d k v a, item (.within n) v = .ok a → step d (some k, v) = .ok (d.insert k a)) (l : List (String × α))
    (acc : Dict α) (all : ∀ e ∈ l, item.Gets n (f e.2) e.2) :
    (ofFields (l.map fun e => (e.1, f e.2))).foldlM step acc = .ok (l.foldl (fun d e => d.insert e.1 e.2) acc) := by
  induction l generalizing acc with
  | nil => rfl
  | cons e l ih =>
    obtain ⟨first, others⟩ := List.forall_mem_cons.mp all
    rw [List.map_cons, ofFields, List.foldlM_cons, List.foldl_cons, ← ih _ others, steps _ _ _ _ first]
    rfl

theorem dict_gets {item : Decoder α} {d : Dict α} {f : α → Json} (all : ∀ e ∈ d.entries, item.Gets n (f e.2) e.2) :
    (dict item).Gets (n + 1) (.dict d f) d := by
  unfold Gets dict
  simp only [Json.dict, Json.ofDict, Dict.map, ofJson, Reading.enter_within]
  refine (foldlM_ofFields ?_ d.entries Dict.empty all).trans (congrArg Except.ok (Dict.ofList_entries d))
  intro d k v a gets
  simp only [gets]
  rfl

end Decoder

/-! ## JSON values -/

/-- A value whose objects list their fields in key order and whose doubles are finite, of at most `n` containers
in each other. -/
inductive Canonical : Nat → Json → Prop where
  | null (n : Nat) : Canonical n .null
  | bool (n : Nat) (b : Bool) : Canonical n (.bool b)
  | int (n : Nat) (i : Int) : Canonical n (.num (.int i))
  | float (n : Nat) {f : Float} (finite : f.isFinite) : Canonical n (.num (.float f))
  | str (n : Nat) (s : String) : Canonical n (.str s)
  | arr {n : Nat} {items : List Json} (all : ∀ v ∈ items, Canonical n v) : Canonical (n + 1) (.arr items)
  | obj {n : Nat} {fields : List (String × Json)} (sorted : fields.Pairwise fun a b => a.1 < b.1)
    (all : ∀ e ∈ fields, Canonical n e.2) : Canonical (n + 1) (.obj fields)

namespace Decoder

theorem jsonItems_ok {n : Nat} : ∀ {items : List Json}, (∀ v ∈ items, Gets json n v v) →
    jsonItems (.within n) (ofItems items) = .ok items
  | [], _ => rfl
  | v :: items, all => by
    obtain ⟨first, others⟩ := List.forall_mem_cons.mp all
    unfold Gets at first
    rw [ofItems, jsonItems, first, jsonItems_ok others]
    rfl

theorem jsonFields_ok {n : Nat} : ∀ {fields : List (String × Json)}, (∀ e ∈ fields, Gets json n e.2 e.2) →
    jsonFields (.within n) (ofFields fields) = .ok fields
  | [], _ => rfl
  | e :: fields, all => by
    obtain ⟨first, others⟩ := List.forall_mem_cons.mp all
    unfold Gets at first
    rw [ofFields, jsonFields, first, jsonFields_ok others]
    rfl

theorem json_gets {n : Nat} {v : Json} (canonical : Canonical n v) : Gets json n v v := by
  induction canonical with
  | null => rfl
  | bool => rfl
  | int => rfl
  | float n finite =>
    show Except.ok _ = _
    rw [if_pos finite]
  | str => rfl
  | arr all ih =>
    unfold Gets
    rw [ofJson, json, Reading.enter_within]
    show (do return Json.arr (← jsonItems (.within _) _)) = _
    rw [jsonItems_ok ih]
    rfl
  | @obj n fields sorted all ih =>
    unfold Gets
    rw [ofJson, json, Reading.enter_within]
    show (do return Json.ofDict (Dict.ofList (← jsonFields (.within _) _))) = _
    rw [jsonFields_ok ih]
    show Except.ok (Json.ofDict (Dict.ofList (⟨fields, sorted⟩ : Dict Json).entries)) = _
    rw [Dict.ofList_entries]
    rfl

end Decoder

end FlowNet.Datum
