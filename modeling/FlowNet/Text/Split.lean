/-!
# Splitting texts

A text is split at every mark; putting the parts together with the mark between them gives the text back.
-/

namespace FlowNet.Text

def splitAt (mark : Char) (s : String) : List String := (s.toList.splitOn mark).map String.ofList

variable {mark : Char}

theorem splitAt_plain {s : String} (h : mark ∉ s.toList) : splitAt mark s = [s] := by
  unfold splitAt
  rw [List.splitOn_eq_singleton h]
  simp

theorem splitAt_append (mark : Char) (s t : String) :
    splitAt mark (s ++ String.singleton mark ++ t) = splitAt mark s ++ splitAt mark t := by
  unfold splitAt
  have parts : (s ++ String.singleton mark ++ t).toList = s.toList ++ mark :: t.toList := by simp
  rw [parts, List.splitOn_append_cons_self, List.map_append]

theorem intercalate_splitAt (mark : Char) (s : String) :
    (String.singleton mark).intercalate (splitAt mark s) = s := by
  apply String.toList_inj.mp
  unfold splitAt
  rw [String.toList_intercalate, List.map_map]
  have same : String.toList ∘ String.ofList = id := by
    funext l
    simp
  rw [same, List.map_id, String.toList_singleton, List.intercalate_splitOn]

theorem splitAt_intercalate {l : List String} (plain : ∀ s ∈ l, mark ∉ s.toList) (some : l ≠ []) :
    splitAt mark ((String.singleton mark).intercalate l) = l := by
  have plain' : ∀ cs ∈ l.map String.toList, mark ∉ cs := by
    intro cs h
    obtain ⟨s, hs, rfl⟩ := List.mem_map.mp h
    exact plain s hs
  unfold splitAt
  rw [String.toList_intercalate, String.toList_singleton, List.splitOn_intercalate _ plain' (by simpa using some)]
  simp

theorem not_mem_of_mem_splitAt {s part : String} (mem : part ∈ splitAt mark s) : mark ∉ part.toList := by
  have plain : ∀ (cs : List Char), ∀ p ∈ cs.splitOn mark, mark ∉ p := by
    intro cs
    induction cs with
    | nil => simp [List.splitOn_nil]
    | cons c cs ih =>
      rw [List.splitOn_cons_eq_if_modifyHead]
      split
      · simpa using ih
      · next ne =>
        obtain ⟨p, parts, eq⟩ := List.exists_cons_of_ne_nil (List.splitOn_ne_nil mark cs)
        rw [eq] at ih
        obtain ⟨first, others⟩ := List.forall_mem_cons.mp ih
        rw [eq, List.modifyHead_cons]
        refine List.forall_mem_cons.mpr ⟨?_, others⟩
        intro mem
        rcases List.mem_cons.mp mem with same | mem
        · exact ne (beq_iff_eq.mpr same.symm)
        · exact first mem
  obtain ⟨cs, part, rfl⟩ := List.mem_map.mp mem
  rw [String.toList_ofList]
  exact plain _ cs part

end FlowNet.Text
