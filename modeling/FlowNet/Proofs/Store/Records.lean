import FlowNet.Store.Documents
import FlowNet.Proofs.Datum.Decoding
import FlowNet.Proofs.Json.Texts
import FlowNet.Proofs.Instant.Rfc3339

/-!
# Records read back

The document of an instance is that of no other instance, and reading it gives the instance, with its context, its
deadlines and all else (`instanceOf?_document`); the line of a row gives the row (`rowOf?_compact`). This takes counts,
instants and JSON values that are such as the program can hold (`Instance.Fits`, `Instance.Row.Fits`).
-/

namespace FlowNet

open Datum

/-! ## What the program can hold -/

/-- A JSON value of at most `n` containers in each other: whole numbers fit 64 bits and doubles are read back. -/
structure Json.Fits (n : Nat) (v : Json) : Prop where
  canonical : Canonical n v
  legible : v.Legible

def Marking.Fits (m : Marking) : Prop := ∀ e ∈ m.counts.entries, e.2 < Word.size32

instance (m : Marking) : Decidable m.Fits := inferInstanceAs (Decidable (∀ e ∈ m.counts.entries, e.2 < Word.size32))

structure Deadlines.Fits (d : Deadlines) : Prop where
  due : ∀ e ∈ d.armed.entries, e.2.due.InCalendar

/-- A document nests at most 127 containers, three of which are around the values of the context. -/
structure Instance.Fits (r : Instance) : Prop where
  marking : r.state.marking.Fits
  context : ∀ e ∈ r.state.context.entries, e.2.Fits 124
  deadlines : r.deadlines.Fits
  createdAt : r.createdAt.InCalendar
  updatedAt : r.updatedAt.InCalendar

structure Instance.Row.Fits (row : Instance.Row) : Prop where
  before : row.before.Fits
  after : row.after.Fits
  timestamp : row.timestamp.InCalendar
  durationMs : row.durationMs < Word.size64

/-! ## Decoding -/

variable {n : Nat}

theorem Marking.decoder_gets {m : Marking} (fits : m.Fits) (n : Nat) :
    Decoder.Gets Marking.decoder (n + 1) m.json m := by
  have counts : (Decoder.dict Decoder.natural32).Gets (n + 1) (.dict m.counts .nat) m.counts :=
    Decoder.dict_gets fun e mem => Decoder.natural_gets (fits e mem) "u32" n
  exact counts.map Marking.mk

theorem contextDecoder_gets {c : Context} (all : ∀ e ∈ c.entries, Canonical n e.2) :
    contextDecoder.Gets (n + 1) (.ofDict c) c := by
  have same : Json.ofDict c = .dict c fun v => v := by simp [Json.dict, Json.ofDict, Dict.map]
  rw [same]
  exact Decoder.dict_gets fun e mem => Decoder.json_gets (all e mem)

theorem NetState.decoder_gets {s : NetState} (marking : s.marking.Fits)
    (context : ∀ e ∈ s.context.entries, Canonical n e.2) :
    NetState.decoder.Gets (n + 2) s.json s := by
  obtain ⟨m, c⟩ := s
  apply Fields.Gets.record _ (by simp)
  apply Fields.Gets.seq
  · apply Fields.Gets.map
    exact Fields.Gets.field (by simp [Dict.lookup]) (Marking.decoder_gets marking n)
  · exact Fields.Gets.field (by simp [Dict.lookup]) (contextDecoder_gets context)

theorem instantDecoder_gets {t : Instant} (valid : t.InCalendar) (n : Nat) :
    Deadlines.instantDecoder.Gets n (.str t.text) t := by
  unfold Decoder.Gets Deadlines.instantDecoder
  simp only [ofJson, Decoder.string, bind, Except.bind, Instant.ofText_text valid]

theorem deadlineDecoder_gets {d : Deadline} (valid : d.due.InCalendar) (n : Nat) :
    Deadlines.deadlineDecoder.Gets (n + 1) (Deadlines.deadlineJson d) d := by
  obtain ⟨due, target⟩ := d
  apply Fields.Gets.record _ (by simp)
  apply Fields.Gets.seq
  · apply Fields.Gets.map
    exact Fields.Gets.field (by simp [Dict.lookup]) (instantDecoder_gets valid n)
  · exact Fields.Gets.field (by simp [Dict.lookup]) (Decoder.string_gets n target)

theorem nameSet_keys (d : Dict Unit) : Deadlines.nameSet d.keys = d := by
  have entries : d.keys.map (·, ()) = d.entries := by
    rw [Dict.keys, List.map_map]
    exact List.map_id' d.entries
  rw [Deadlines.nameSet, entries, Dict.ofList_entries]

theorem Deadlines.decoder_gets {d : Deadlines} (fits : d.Fits) (n : Nat) : Deadlines.decoder.Gets (n + 3) d.json d := by
  obtain ⟨armed, spent⟩ := d
  apply Fields.Gets.record _ (by simp)
  apply Fields.Gets.seq
  · apply Fields.Gets.map
    apply Fields.Gets.field (by simp [Dict.lookup]; rfl)
    exact Decoder.dict_gets fun e mem => deadlineDecoder_gets (fits.due e mem) n
  · apply Fields.Gets.field (by simp [Dict.lookup]; rfl)
    have names : (Decoder.list Decoder.string).Gets (n + 2) (.strings spent.keys) spent.keys :=
      Decoder.list_gets fun s _ => Decoder.string_gets (n + 1) s
    have set := names.map Deadlines.nameSet
    rwa [nameSet_keys] at set

theorem Instance.Status.ofText?_text (s : Instance.Status) : Instance.Status.ofText? s.text = some s := by
  cases s <;> rfl

theorem Instance.RowKind.ofText?_text (k : Instance.RowKind) : Instance.RowKind.ofText? k.text = some k := by
  cases k <;> rfl

theorem errorDecoder_gets (error : Option String) (n : Nat) :
    (Decoder.nullable Decoder.string).Gets n (.option error .str) error := by
  cases error with
  | none => exact Decoder.nullable_none _ n
  | some s => exact Decoder.nullable_some (Decoder.string_gets n s) (by simp [Json.option])

theorem Instance.decoder_gets {r : Instance} (fits : r.Fits) : Instance.decoder.Gets 127 r.json r := by
  have state := NetState.decoder_gets fits.marking fun e mem => (fits.context e mem).canonical
  have deadlines := Deadlines.decoder_gets fits.deadlines 123
  have createdAt := instantDecoder_gets fits.createdAt 126
  have updatedAt := instantDecoder_gets fits.updatedAt 126
  obtain ⟨id, definition, status, s, d, stalled, error, created, updated⟩ := r
  refine Fields.Gets.record ((((((((((Fields.Gets.map ?_ Instance.mk).seq ?_).seq ?_).seq ?_).seq ?_).seq ?_).seq
    ?_).seq ?_).seq ?_)) (by simp) "instance"
  · exact Fields.Gets.field (by simp [Dict.lookup]) (Decoder.string_gets 126 id)
  · exact Fields.Gets.field (by simp [Dict.lookup]) (Decoder.string_gets 126 definition)
  · exact Fields.Gets.field (by simp [Dict.lookup]) (Decoder.variant_gets status.ofText?_text 126)
  · exact Fields.Gets.field (by simp [Dict.lookup]) state
  · exact Fields.Gets.field (by simp [Dict.lookup]) deadlines
  · exact Fields.Gets.field (by simp [Dict.lookup]) (Decoder.boolean_gets 126 stalled)
  · exact Fields.Gets.field (by simp [Dict.lookup]) (errorDecoder_gets error 126)
  · exact Fields.Gets.field (by simp [Dict.lookup]) createdAt
  · exact Fields.Gets.field (by simp [Dict.lookup]) updatedAt

theorem Instance.Row.decoder_gets {row : Instance.Row} (fits : row.Fits) :
    Instance.Row.decoder.Gets 127 row.json row := by
  have before := Marking.decoder_gets fits.before 125
  have after := Marking.decoder_gets fits.after 125
  have timestamp := instantDecoder_gets fits.timestamp 126
  have duration := Decoder.natural_gets fits.durationMs "u64" 126
  obtain ⟨id, kind, name, m, m', t, ms⟩ := row
  refine Fields.Gets.record (((((((Fields.Gets.map ?_ Instance.Row.mk).seq ?_).seq ?_).seq ?_).seq ?_).seq ?_).seq ?_)
    (by simp) "row"
  · exact Fields.Gets.field (by simp [Dict.lookup]) (Decoder.string_gets 126 id)
  · exact Fields.Gets.field (by simp [Dict.lookup]) (Decoder.variant_gets kind.ofText?_text 126)
  · exact Fields.Gets.field (by simp [Dict.lookup]) (Decoder.string_gets 126 name)
  · exact Fields.Gets.field (by simp [Dict.lookup]) before
  · exact Fields.Gets.field (by simp [Dict.lookup]) after
  · exact Fields.Gets.field (by simp [Dict.lookup]) timestamp
  · exact Fields.Gets.field (by simp [Dict.lookup]) duration

/-! ## Legible documents -/

namespace Json

theorem Legible.nat {k : Nat} (h : k < Word.size64) : Legible (.nat k) := by
  apply Legible.num
  apply int_readsBack
  refine ⟨?_, by exact_mod_cast h⟩
  unfold Word.leastSigned
  omega

theorem Legible.dict {α : Type} {d : Dict α} {f : α → Json} (all : ∀ e ∈ d.entries, Legible (f e.2)) :
    Legible (.dict d f) := by
  apply Legible.obj
  intro e mem
  obtain ⟨e, entry, rfl⟩ := List.mem_map.mp mem
  exact all e entry

theorem Legible.strings (l : List String) : Legible (.strings l) := by
  apply Legible.arr
  intro v mem
  obtain ⟨s, -, rfl⟩ := List.mem_map.mp mem
  exact .str s

end Json

theorem Marking.json_legible {m : Marking} (fits : m.Fits) : m.json.Legible := by
  apply Json.Legible.dict
  intro e mem
  exact Json.Legible.nat (Nat.lt_trans (fits e mem) (by decide))

theorem Deadlines.json_legible (d : Deadlines) : d.json.Legible := by
  apply Json.Legible.obj
  simp only [List.forall_mem_cons]
  refine ⟨?_, Json.Legible.strings _, by simp⟩
  apply Json.Legible.dict
  intro e mem
  apply Json.Legible.obj
  simp only [List.forall_mem_cons]
  exact ⟨.str _, .str _, by simp⟩

theorem Instance.json_legible {r : Instance} (fits : r.Fits) : r.json.Legible := by
  have state : r.state.json.Legible := by
    apply Json.Legible.obj
    simp only [List.forall_mem_cons]
    refine ⟨Marking.json_legible fits.marking, ?_, by simp⟩
    apply Json.Legible.obj
    intro e mem
    exact (fits.context e mem).legible
  have error : (Json.option r.error .str).Legible := by
    cases r.error with
    | none => exact .null
    | some s => exact .str s
  apply Json.Legible.obj
  simp only [List.forall_mem_cons]
  exact ⟨.str _, .str _, .str _, state, r.deadlines.json_legible, .bool _, error, .str _, .str _, by simp⟩

theorem Instance.Row.json_legible {row : Instance.Row} (fits : row.Fits) : row.json.Legible := by
  apply Json.Legible.obj
  simp only [List.forall_mem_cons]
  exact ⟨.str _, .str _, .str _, Marking.json_legible fits.before, Marking.json_legible fits.after, .str _,
    Json.Legible.nat fits.durationMs, by simp⟩

/-! ## Documents and lines -/

namespace Store.Documents

/-- **The document of an instance is read back.** -/
theorem instanceOf?_document {r : Instance} (fits : r.Fits) : instanceOf? (document r) = some r := by
  unfold instanceOf? document
  rw [Json.read_indented (Instance.json_legible fits)]
  exact (Instance.decoder_gets fits).run

/-- **The line of a row is read back.** -/
theorem rowOf?_compact {row : Instance.Row} (fits : row.Fits) : rowOf? row.json.compact = some row := by
  unfold rowOf?
  rw [Json.read_compact (Instance.Row.json_legible fits)]
  exact (Instance.Row.decoder_gets fits).run

end Store.Documents

end FlowNet
