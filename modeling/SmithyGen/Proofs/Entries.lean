import Mathlib.Data.List.Nodup
import Mathlib.Tactic.SplitIfs
import SmithyGen.Value

namespace SmithyGen.Entries

variable {α β : Type}

theorem eq_or_mem_of_mem_insert {k : String} {v : α} {es : Entries α} {entry : String × α}
    (h : entry ∈ es.insert k v) : entry = (k, v) ∨ entry ∈ es := by
  induction es with
  | nil => exact Or.inl (List.mem_singleton.mp h)
  | cons first es ih =>
    obtain ⟨k', v'⟩ := first
    rw [insert] at h
    split_ifs at h
    · exact (List.mem_cons.mp h).imp_right (List.mem_cons_of_mem _)
    · rcases List.mem_cons.mp h with rfl | h
      · exact Or.inr (by simp)
      · exact (ih h).imp_right (List.mem_cons_of_mem _)

theorem keys_insert_of_mem {k : String} {es : Entries α} (h : k ∈ es.keys) (v : α) :
    (es.insert k v).keys = es.keys := by
  induction es with
  | nil => cases h
  | cons first es ih =>
    obtain ⟨k', v'⟩ := first
    by_cases hk : k' = k
    · simp [insert, keys, hk]
    · have hrest : k ∈ Entries.keys es := (List.mem_cons.mp h).resolve_left (Ne.symm hk)
      rw [insert, if_neg hk]
      exact congrArg (k' :: ·) (ih hrest)

theorem insert_of_not_mem {k : String} {es : Entries α} (h : k ∉ es.keys) (v : α) :
    es.insert k v = es ++ [(k, v)] := by
  induction es with
  | nil => rfl
  | cons entry es ih =>
    obtain ⟨k', v'⟩ := entry
    obtain ⟨hne, hrest⟩ : ¬k = k' ∧ k ∉ Entries.keys es := by simpa [keys] using h
    rw [insert, if_neg (Ne.symm hne), ih hrest, List.cons_append]

theorem nodup_keys_insert {es : Entries α} (h : es.keys.Nodup) (k : String) (v : α) :
    (es.insert k v).keys.Nodup := by
  by_cases hk : k ∈ es.keys
  · rwa [keys_insert_of_mem hk]
  · rw [insert_of_not_mem hk, keys, List.map_append]
    refine List.nodup_append.mpr ⟨h, List.nodup_singleton k, ?_⟩
    rintro a ha b hb rfl
    obtain rfl : a = k := List.mem_singleton.mp hb
    exact hk ha

theorem map_insert (f : String → α → β) (k : String) (v : α) (es : Entries α) :
    (es.insert k v).map (fun entry => (entry.1, f entry.1 entry.2))
      = Entries.insert k (f k v) (es.map fun entry => (entry.1, f entry.1 entry.2)) := by
  induction es with
  | nil => rfl
  | cons first es ih =>
    obtain ⟨k', v'⟩ := first
    by_cases h : k' = k
    · simp [insert, h]
    · simp only [insert, if_neg h, List.map_cons, ih]

theorem get?_map (f : α → β) (k : String) (es : Entries α) :
    Entries.get? k (es.map fun entry => (entry.1, f entry.2)) = (es.get? k).map f := by
  simp only [get?]
  induction es with
  | nil => rfl
  | cons first es ih =>
    obtain ⟨k', v'⟩ := first
    by_cases h : k = k'
    · simp [h]
    · have hk : (k == k') = false := by simpa using h
      simpa [List.lookup_cons, hk] using ih

def insertAll (es : Entries α) (pairs : List (String × α)) : Entries α :=
  pairs.foldl (fun es entry => es.insert entry.1 entry.2) es

theorem ofList_eq_insertAll (pairs : List (String × α)) : ofList pairs = insertAll [] pairs := rfl

theorem mem_or_mem_of_mem_insertAll {es : Entries α} {pairs : List (String × α)}
    {entry : String × α} (h : entry ∈ insertAll es pairs) : entry ∈ es ∨ entry ∈ pairs := by
  induction pairs generalizing es with
  | nil => exact Or.inl h
  | cons pair pairs ih =>
    rcases ih h with h | h
    · rcases eq_or_mem_of_mem_insert h with rfl | h
      · exact Or.inr (by simp)
      · exact Or.inl h
    · exact Or.inr (List.mem_cons_of_mem _ h)

theorem mem_of_mem_ofList {pairs : List (String × α)} {entry : String × α}
    (h : entry ∈ ofList pairs) : entry ∈ pairs :=
  (mem_or_mem_of_mem_insertAll h).resolve_left (by simp)

theorem countP_insert_le (p : String × α → Bool) (k : String) (v : α) (es : Entries α) :
    (es.insert k v).countP p ≤ es.countP p + if p (k, v) then 1 else 0 := by
  induction es with
  | nil => simp [insert, List.countP_cons]
  | cons first es ih =>
    obtain ⟨k', v'⟩ := first
    by_cases h : k' = k
    · simp only [insert, if_pos h, List.countP_cons]
      omega
    · simp only [insert, if_neg h, List.countP_cons]
      omega

theorem countP_insertAll_le (p : String × α → Bool) (es : Entries α) (pairs : List (String × α)) :
    (insertAll es pairs).countP p ≤ es.countP p + pairs.countP p := by
  induction pairs generalizing es with
  | nil => exact Nat.le_refl _
  | cons pair pairs ih =>
    obtain ⟨k, v⟩ := pair
    have hstep := countP_insert_le p k v es
    have hrest := ih (es.insert k v)
    rw [List.countP_cons]
    change (insertAll (es.insert k v) pairs).countP p ≤ _
    omega

theorem nodup_keys_insertAll {es : Entries α} (h : es.keys.Nodup) (pairs : List (String × α)) :
    (insertAll es pairs).keys.Nodup := by
  induction pairs generalizing es with
  | nil => exact h
  | cons pair pairs ih => exact ih (nodup_keys_insert h pair.1 pair.2)

theorem nodup_keys_ofList (pairs : List (String × α)) : (ofList pairs).keys.Nodup :=
  nodup_keys_insertAll (show (keys ([] : Entries α)).Nodup from List.nodup_nil) pairs

theorem ofList_of_nodup {pairs : List (String × α)} (h : (pairs.map (·.1)).Nodup) :
    ofList pairs = pairs := by
  -- The pairs seen so far stand in front, and none of their keys comes again.
  suffices hfold : ∀ (es : Entries α) (rest : List (String × α)), (es ++ rest).keys.Nodup →
      insertAll es rest = es ++ rest from hfold [] pairs h
  intro es rest hnodup
  induction rest generalizing es with
  | nil => simp [insertAll]
  | cons entry rest ih =>
    obtain ⟨k, v⟩ := entry
    have hfresh : k ∉ es.keys := by
      intro hk
      rw [keys, List.map_append, List.map_cons] at hnodup
      exact (List.nodup_append.mp hnodup).2.2 k hk k (by simp) rfl
    have hnodup' : (es ++ [(k, v)] ++ rest).keys.Nodup := by simpa using hnodup
    rw [insertAll, List.foldl_cons, ← insertAll, insert_of_not_mem hfresh, ih _ hnodup']
    simp

theorem map_insertAll (f : String → α → β) (es : Entries α) (pairs : List (String × α)) :
    (insertAll es pairs).map (fun entry => (entry.1, f entry.1 entry.2))
      = insertAll (es.map fun entry => (entry.1, f entry.1 entry.2))
          (pairs.map fun entry => (entry.1, f entry.1 entry.2)) := by
  induction pairs generalizing es with
  | nil => rfl
  | cons pair pairs ih =>
    rw [List.map_cons, insertAll, List.foldl_cons, ← insertAll, ih, map_insert]
    rfl

theorem mem_of_get? {k : String} {v : α} {es : Entries α} (h : es.get? k = some v) :
    (k, v) ∈ es := by
  obtain ⟨before, after, rfl, -⟩ := List.lookup_eq_some_iff.mp h
  simp

end SmithyGen.Entries
