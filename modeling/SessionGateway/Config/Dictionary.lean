/-!
# Dictionaries

Values under text keys, kept in ascending order of the keys. The order is by code point, which is
also the order of the keys' UTF-8 bytes. Two dictionaries with the same look-ups are equal.
-/

namespace SessionGateway

/-- Inserts a value in front of the first greater key, in place of an earlier value of its key. -/
def insertSorted {β : Type} (key : String) (value : β) : List (String × β) → List (String × β)
  | [] => [(key, value)]
  | (k, v) :: rest =>
    if key < k then (key, value) :: (k, v) :: rest
    else if key = k then (key, value) :: rest
    else (k, v) :: insertSorted key value rest

theorem mem_insertSorted {β : Type} {key : String} {value : β} {entry : String × β}
    {entries : List (String × β)} (h : entry ∈ insertSorted key value entries) :
    entry = (key, value) ∨ entry ∈ entries := by
  induction entries with
  | nil => simpa [insertSorted] using h
  | cons head rest ih =>
    obtain ⟨k, v⟩ := head
    simp only [insertSorted] at h
    split at h
    · simpa using h
    · split at h
      · rcases List.mem_cons.1 h with h | h <;> simp [h]
      · rcases List.mem_cons.1 h with h | h
        · simp [h]
        · rcases ih h with h | h <;> simp [h]

theorem pairwise_insertSorted {β : Type} (key : String) (value : β) {entries : List (String × β)}
    (sorted : entries.Pairwise (·.1 < ·.1)) :
    (insertSorted key value entries).Pairwise (·.1 < ·.1) := by
  induction entries with
  | nil => simp [insertSorted]
  | cons head rest ih =>
    obtain ⟨k, v⟩ := head
    have above : ∀ {entry : String × β}, entry ∈ rest → k < entry.1 :=
      fun mem => List.rel_of_pairwise_cons sorted mem
    simp only [insertSorted]
    split
    · rename_i less
      refine List.Pairwise.cons (fun entry mem => ?_) sorted
      rcases List.mem_cons.1 mem with rfl | mem
      · exact less
      · exact String.lt_trans less (above mem)
    · rename_i notLess
      split
      · rename_i same
        exact List.Pairwise.cons (fun entry mem => same ▸ above mem) sorted.of_cons
      · rename_i other
        refine List.Pairwise.cons (fun entry mem => ?_) (ih sorted.of_cons)
        rcases mem_insertSorted mem with rfl | mem
        · have le : k ≤ key := String.not_lt.1 notLess
          by_cases less : k < key
          · exact less
          · exact absurd (String.le_antisymm (String.not_lt.1 less) le) other
        · exact above mem

structure Dictionary where
  entries : List (String × String)
  sorted : entries.Pairwise (·.1 < ·.1)
  deriving DecidableEq

namespace Dictionary

def empty : Dictionary :=
  ⟨[], List.Pairwise.nil⟩

def insert (d : Dictionary) (key value : String) : Dictionary :=
  ⟨insertSorted key value d.entries, pairwise_insertSorted key value d.sorted⟩

def get? (d : Dictionary) (key : String) : Option String :=
  d.entries.lookup key

def ofList (entries : List (String × String)) : Dictionary :=
  entries.foldl (fun d (key, value) => d.insert key value) empty

end Dictionary

end SessionGateway
