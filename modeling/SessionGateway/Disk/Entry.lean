import SessionGateway.Wire.Basic

/-!
# Files and directories

What a file tree consists of. A place in a directory is given by the names on the way to it. What is
put at a place is found there (`find?_alter_self`).
-/

namespace SessionGateway.Disk

/-- A file, or a directory with its entries by name. -/
inductive Entry where
  | file (content : Wire.Bytes)
  | directory (entries : List (String × Entry))

namespace Entry

/-- What stands at a place, seen from the entries of a directory. -/
def find? : List (String × Entry) → List String → Option Entry
  | entries, [] => some (.directory entries)
  | entries, name :: rest =>
    match entries.lookup name with
    | some (.directory inner) => find? inner rest
    | some (.file content) => if rest.isEmpty then some (.file content) else none
    | none => none

/-- Sets or clears one name among the entries of a directory. -/
def assign (entries : List (String × Entry)) (name : String) (new : Option Entry) :
    List (String × Entry) :=
  new.toList.map (name, ·) ++ entries.filter (·.1 ≠ name)

/-- Sets or clears what stands at a place, if the directory that it stands in is there. -/
def alter (new : Option Entry) : List (String × Entry) → List String → List (String × Entry)
  | entries, [] => entries
  | entries, [name] => assign entries name new
  | entries, name :: next :: rest =>
    match entries.lookup name with
    | some (.directory inner) =>
      assign entries name (some (.directory (alter new inner (next :: rest))))
    | _ => entries

theorem lookup_assign_some (entries : List (String × Entry)) (name : String) (new : Entry) :
    (assign entries name (some new)).lookup name = some new := by
  simp [assign]

theorem find?_singleton (entries : List (String × Entry)) (name : String) :
    find? entries [name] = entries.lookup name := by
  unfold find?
  split
  · rename_i found
    rw [found, find?]
  · rename_i found
    rw [found]
    rfl
  · rename_i absent
    exact absent.symm

/-- What is put at a place is found there, if the directory that it stands in was there. -/
theorem find?_alter_self (new : Entry) (entries : List (String × Entry)) (place : List String)
    (name : String) (inner : List (String × Entry))
    (there : find? entries place = some (.directory inner)) :
    find? (alter (some new) entries (place ++ [name])) (place ++ [name]) = some new := by
  induction place generalizing entries with
  | nil => simp [alter, find?_singleton, lookup_assign_some]
  | cons first rest ih =>
    unfold find? at there
    split at there
    · rename_i below found
      have step := ih below there
      cases rest <;> simp_all [alter, find?, lookup_assign_some]
    · split at there <;> simp at there
    · simp at there

end Entry

end SessionGateway.Disk
