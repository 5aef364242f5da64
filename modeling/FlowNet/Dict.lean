/-!
# Dictionaries in key order

A dictionary keeps its entries sorted by key, one entry per key, so two dictionaries with the same
entries are equal (`Dict.ext_get?`). Keys compare code point by code point, which is also the order of
their UTF-8 bytes.
-/

namespace FlowNet

/-- Every key of `l` comes after `k`. -/
def KeysAbove {α : Type} (k : String) (l : List (String × α)) : Prop :=
  ∀ e ∈ l, k < e.1

structure Dict (α : Type) where
  entries : List (String × α)
  sorted : entries.Pairwise (fun a b => a.1 < b.1)

namespace Dict

variable {α β : Type}

instance [DecidableEq α] : DecidableEq (Dict α) := fun a b =>
  decidable_of_iff (a.entries = b.entries) (by cases a; cases b; simp)

instance [Hashable α] : Hashable (Dict α) := ⟨fun d => hash d.entries⟩

theorem ext {a b : Dict α} (h : a.entries = b.entries) : a = b := by
  cases a; cases b; simp_all

/-! ## Looking up and changing one entry of a sorted list -/

def lookup (k : String) : List (String × α) → Option α
  | [] => none
  | (k', v) :: r => if k = k' then some v else lookup k r

def put (k : String) (v : α) : List (String × α) → List (String × α)
  | [] => [(k, v)]
  | (k', v') :: r =>
    if k < k' then (k, v) :: (k', v') :: r
    else if k' < k then (k', v') :: put k v r
    else (k, v) :: r

theorem mem_put {k : String} {v : α} {e : String × α} {l : List (String × α)} (h : e ∈ put k v l) :
    e = (k, v) ∨ e ∈ l := by
  induction l with
  | nil => simpa [put] using h
  | cons a r ih =>
    obtain ⟨k', v'⟩ := a
    simp only [put] at h
    split at h
    · simpa using h
    · split at h
      · rcases List.mem_cons.1 h with rfl | h
        · simp
        · rcases ih h with rfl | h <;> simp [*]
      · rcases List.mem_cons.1 h with rfl | h <;> simp [*]

theorem put_sorted {k : String} {v : α} {l : List (String × α)}
    (h : l.Pairwise (fun a b => a.1 < b.1)) : (put k v l).Pairwise (fun a b => a.1 < b.1) := by
  induction l with
  | nil => simp [put]
  | cons a r ih =>
    obtain ⟨k', v'⟩ := a
    obtain ⟨above, rest⟩ := List.pairwise_cons.1 h
    simp only [put]
    split
    · next lt =>
      refine List.pairwise_cons.2 ⟨fun e he => ?_, h⟩
      rcases List.mem_cons.1 he with rfl | he
      · exact lt
      · exact String.lt_trans lt (above e he)
    · split
      · next lt =>
        refine List.pairwise_cons.2 ⟨fun e he => ?_, ih rest⟩
        rcases mem_put he with rfl | he
        · exact lt
        · exact above e he
      · next nlt ngt =>
        have same : k = k' := String.le_antisymm (String.not_lt.1 ngt) (String.not_lt.1 nlt)
        exact List.pairwise_cons.2 ⟨fun e he => same ▸ above e he, rest⟩

theorem lookup_put (k j : String) (v : α) (l : List (String × α)) :
    lookup j (put k v l) = if j = k then some v else lookup j l := by
  induction l with
  | nil => simp [put, lookup]
  | cons a r ih =>
    obtain ⟨k', v'⟩ := a
    simp only [put]
    split
    · simp [lookup]
    · split
      · next nlt lt =>
        have ne : k ≠ k' := fun h => String.lt_irrefl _ (h ▸ lt)
        simp only [lookup, ih]
        by_cases h : j = k
        · simp [h, ne]
        · simp [h]
      · next nlt ngt =>
        have same : k = k' := String.le_antisymm (String.not_lt.1 ngt) (String.not_lt.1 nlt)
        subst same
        simp only [lookup]
        split <;> rfl

theorem lookup_eq_none {k : String} {l : List (String × α)} (h : KeysAbove k l) : lookup k l = none := by
  induction l with
  | nil => rfl
  | cons a r ih =>
    have lt := h a (by simp)
    have ne : k ≠ a.1 := fun e => String.lt_irrefl k (e ▸ lt)
    simp [lookup, ne, ih (fun e he => h e (by simp [he]))]

theorem lookup_eq_some_iff {k : String} {v : α} {l : List (String × α)}
    (h : l.Pairwise (fun a b => a.1 < b.1)) : lookup k l = some v ↔ (k, v) ∈ l := by
  induction l with
  | nil => simp [lookup]
  | cons a r ih =>
    obtain ⟨k', w⟩ := a
    obtain ⟨above, rest⟩ := List.pairwise_cons.1 h
    by_cases hk : k = k'
    · subst hk
      have absent : (k, v) ∉ r := fun he => String.lt_irrefl k (above (k, v) he)
      simp [lookup, absent, eq_comm]
    · simp [lookup, hk, ih rest]

/-! ## The dictionary operations -/

def empty : Dict α := ⟨[], List.Pairwise.nil⟩

instance : Inhabited (Dict α) := ⟨empty⟩

instance : EmptyCollection (Dict α) := ⟨empty⟩

def get? (d : Dict α) (k : String) : Option α := lookup k d.entries

def contains (d : Dict α) (k : String) : Bool := (d.get? k).isSome

def insert (d : Dict α) (k : String) (v : α) : Dict α := ⟨put k v d.entries, put_sorted d.sorted⟩

def filter (d : Dict α) (p : String → α → Bool) : Dict α :=
  ⟨d.entries.filter (fun e => p e.1 e.2), d.sorted.filter _⟩

def erase (d : Dict α) (k : String) : Dict α := d.filter (fun j _ => j != k)

def map (d : Dict α) (f : α → β) : Dict β :=
  ⟨d.entries.map (fun e => (e.1, f e.2)), List.pairwise_map.2 d.sorted⟩

/-- Of several entries with one key the last counts. -/
def ofList (l : List (String × α)) : Dict α := l.foldl (fun d e => d.insert e.1 e.2) empty

/-- The entries of `new` on top of those of `d`. -/
def merge (d new : Dict α) : Dict α := new.entries.foldl (fun d e => d.insert e.1 e.2) d

def keys (d : Dict α) : List String := d.entries.map (·.1)

def values (d : Dict α) : List α := d.entries.map (·.2)

def size (d : Dict α) : Nat := d.entries.length

def isEmpty (d : Dict α) : Bool := d.entries.isEmpty

@[simp] theorem get?_empty (k : String) : (empty : Dict α).get? k = none := rfl

@[simp] theorem get?_insert (d : Dict α) (k j : String) (v : α) :
    (d.insert k v).get? j = if j = k then some v else d.get? j := lookup_put k j v d.entries

theorem get?_eq_some_iff {d : Dict α} {k : String} {v : α} : d.get? k = some v ↔ (k, v) ∈ d.entries :=
  lookup_eq_some_iff d.sorted

@[simp] theorem get?_filter (d : Dict α) (p : String → α → Bool) (k : String) :
    (d.filter p).get? k = (d.get? k).filter (p k) := by
  apply Option.ext
  intro v
  rw [get?_eq_some_iff, Option.filter_eq_some_iff, get?_eq_some_iff]
  simp [filter]

@[simp] theorem get?_erase (d : Dict α) (k j : String) :
    (d.erase k).get? j = if j = k then none else d.get? j := by
  simp only [erase, get?_filter]
  by_cases h : j = k
  · subst h; cases d.get? j <;> simp [Option.filter]
  · cases d.get? j <;> simp [Option.filter, h]

/-- The least key decides the first entry, so equal lookups make equal lists. -/
theorem eq_of_lookup {a b : List (String × α)} (ha : a.Pairwise (fun a b => a.1 < b.1))
    (hb : b.Pairwise (fun a b => a.1 < b.1)) (h : ∀ k, lookup k a = lookup k b) : a = b := by
  induction a generalizing b with
  | nil =>
    cases b with
    | nil => rfl
    | cons e r => have := h e.1; simp [lookup] at this
  | cons e r ih =>
    cases b with
    | nil => have := h e.1; simp [lookup] at this
    | cons f s =>
      obtain ⟨above, rest⟩ := List.pairwise_cons.1 ha
      obtain ⟨above', rest'⟩ := List.pairwise_cons.1 hb
      have he : (e.1, e.2) ∈ f :: s := (lookup_eq_some_iff hb).1 (by rw [← h]; simp [lookup])
      have hf : (f.1, f.2) ∈ e :: r := (lookup_eq_some_iff ha).1 (by rw [h]; simp [lookup])
      have same : e = f := by
        rcases List.mem_cons.1 he with he | he
        · exact he
        · rcases List.mem_cons.1 hf with hf | hf
          · exact hf.symm
          · exact absurd (String.lt_trans (above _ hf) (above' _ he)) (String.lt_irrefl _)
      subst same
      congr 1
      refine ih rest rest' (fun k => ?_)
      by_cases hk : k = e.1
      · rw [lookup_eq_none (fun x hx => hk ▸ above x hx), lookup_eq_none (fun x hx => hk ▸ above' x hx)]
      · simpa [lookup, hk] using h k

theorem ext_get? {a b : Dict α} (h : ∀ k, a.get? k = b.get? k) : a = b :=
  ext (eq_of_lookup a.sorted b.sorted h)

theorem insert_insert (d : Dict α) (k : String) (v w : α) : (d.insert k v).insert k w = d.insert k w := by
  apply ext_get?
  intro j
  by_cases h : j = k
  · simp [h]
  · simp [h]

/-! ## Keys -/

theorem contains_iff {d : Dict α} {k : String} : d.contains k = true ↔ ∃ v, d.get? k = some v :=
  Option.isSome_iff_exists

theorem mem_keys {d : Dict α} {k : String} : k ∈ d.keys ↔ d.contains k = true := by
  simp [keys, contains_iff, get?_eq_some_iff]

theorem nodup_keys (d : Dict α) : d.keys.Nodup := by
  refine List.Pairwise.imp ?_ (List.pairwise_map.2 d.sorted)
  rintro a _ lt rfl
  exact String.lt_irrefl a lt

@[simp] theorem contains_empty (k : String) : (empty : Dict α).contains k = false := rfl

@[simp] theorem contains_insert (d : Dict α) (k j : String) (v : α) :
    (d.insert k v).contains j = (j == k || d.contains j) := by
  by_cases h : j = k <;> simp [contains, h]

@[simp] theorem contains_filter (d : Dict α) (p : String → Bool) (j : String) :
    (d.filter fun k _ => p k).contains j = (p j && d.contains j) := by
  simp only [contains, get?_filter]
  cases d.get? j <;> cases p j <;> simp

@[simp] theorem contains_erase (d : Dict α) (k j : String) :
    (d.erase k).contains j = (j != k && d.contains j) := contains_filter d (· != k) j

theorem contains_ofList {l : List (String × α)} {k : String} : (ofList l).contains k = true ↔ k ∈ l.map (·.1) := by
  have fold : ∀ d : Dict α, (l.foldl (fun d e => d.insert e.1 e.2) d).contains k = true ↔
      d.contains k = true ∨ k ∈ l.map (·.1) := by
    induction l with
    | nil => simp
    | cons e l ih =>
      intro d
      rw [List.foldl_cons, ih]
      simp [or_assoc, or_left_comm]
  refine (fold empty).trans ?_
  simp

theorem get?_ofList (l : List (String × α)) (k : String) :
    (ofList l).get? k = (l.reverse.find? fun e => e.1 == k).map (·.2) := by
  have fold : ∀ d : Dict α, (l.foldl (fun d e => d.insert e.1 e.2) d).get? k =
      ((l.reverse.find? fun e => e.1 == k).map (·.2)).or (d.get? k) := by
    induction l with
    | nil => simp
    | cons e l ih =>
      intro d
      rw [List.foldl_cons, ih, get?_insert, List.reverse_cons, List.find?_append]
      cases l.reverse.find? fun e => e.1 == k with
      | some f => simp
      | none => by_cases same : k = e.1 <;> simp [same, Ne.symm]
  rw [ofList, fold, get?_empty, Option.or_none]

theorem get?_foldl_insert {l : List (String × α)} (sorted : l.Pairwise (fun a b => a.1 < b.1)) (d : Dict α)
    (k : String) :
    (l.foldl (fun d e => d.insert e.1 e.2) d).get? k = (lookup k l).or (d.get? k) := by
  induction l generalizing d with
  | nil => simp [lookup]
  | cons e l ih =>
    obtain ⟨above, rest⟩ := List.pairwise_cons.1 sorted
    rw [List.foldl_cons, ih rest, get?_insert]
    by_cases same : k = e.1
    · rw [same, lookup_eq_none above]
      simp [lookup]
    · simp [lookup, same]

theorem get?_merge (d new : Dict α) (k : String) : (d.merge new).get? k = (new.get? k).or (d.get? k) :=
  get?_foldl_insert new.sorted d k

theorem ofList_entries (d : Dict α) : ofList d.entries = d := by
  apply ext_get?
  intro k
  refine (get?_foldl_insert d.sorted empty k).trans ?_
  rw [get?_empty, Option.or_none, get?]

end Dict

end FlowNet
