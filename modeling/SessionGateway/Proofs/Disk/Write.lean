import SessionGateway.Disk.Basic

/-!
# Written files are found

A file is put where no directory stands, so it makes and removes no directory, and every path leads
where it led before.
-/

namespace SessionGateway.Disk

variable {d written : Disk} {entries : List (String × Entry)} {content : Wire.Bytes}
  {place start base : List String} {text : String}

/-! ## Directories stay -/

theorem lookup_assign_of_ne {name other : String} (h : other ≠ name) (new : Option Entry) :
    (Entry.assign entries name new).lookup other = entries.lookup other := by
  have hfront : (new.toList.map (name, ·)).lookup other = none := by
    cases new <;> simp [h]
  have hrest : (entries.filter (·.1 ≠ name)).lookup other = entries.lookup other := by
    induction entries with
    | nil => rfl
    | cons entry entries ih =>
        obtain ⟨key, value⟩ := entry
        by_cases hkey : key = name
        · subst hkey
          have hother : (other == key) = false := by simpa using h
          simpa [List.lookup_cons, hother] using ih
        · cases hother : other == key <;> simp_all [List.lookup_cons]
  rw [Entry.assign, List.lookup_append, hfront, hrest, Option.none_or]

theorem isDirectory_cons (entries : List (String × Entry)) (base : List String) (name : String)
    (rest : List String) :
    (Disk.mk entries base).isDirectory (name :: rest) = match entries.lookup name with
      | some (.directory inner) => (Disk.mk inner base).isDirectory rest
      | _ => false := by
  simp only [isDirectory, at?, Entry.find?]
  cases entries.lookup name with
  | none => rfl
  | some entry =>
      cases entry with
      | directory inner => rfl
      | file content => cases rest <;> rfl

theorem isDirectory_alter (content : Wire.Bytes)
    (hfree : (Disk.mk entries base).isDirectory place = false) (other : List String) :
    (Disk.mk (Entry.alter (some (.file content)) entries place) base).isDirectory other =
      (Disk.mk entries base).isDirectory other := by
  -- Along the way to the file both paths step into the same directory, until they part.
  induction place generalizing entries other with
  | nil => rfl
  | cons name rest ih =>
      cases other with
      | nil => rfl
      | cons first later =>
          rw [isDirectory_cons] at hfree
          rw [isDirectory_cons, isDirectory_cons]
          by_cases hfirst : first = name
          · subst hfirst
            cases rest with
            | nil =>
                rw [Entry.alter, Entry.lookup_assign_some]
                cases hlookup : entries.lookup first with
                | none => rfl
                | some entry =>
                    cases entry with
                    | directory inner => simp [hlookup, isDirectory, at?, Entry.find?] at hfree
                    | file content => rfl
            | cons next rest =>
                rw [Entry.alter]
                cases hlookup : entries.lookup first with
                | none => simp [hlookup]
                | some entry =>
                    cases entry with
                    | directory inner =>
                        rw [hlookup] at hfree
                        rw [Entry.lookup_assign_some]
                        exact ih hfree later
                    | file content => simp [hlookup]
          · have hsame : (Entry.alter (some (.file content)) entries (name :: rest)).lookup first =
                entries.lookup first := by
              cases rest with
              | nil => rw [Entry.alter, lookup_assign_of_ne hfirst]
              | cons next rest =>
                  rw [Entry.alter]
                  split
                  · rw [lookup_assign_of_ne hfirst]
                  · rfl
            rw [hsame]

theorem isDirectory_dropLast (h : (Disk.mk entries base).isDirectory place = true) :
    (Disk.mk entries base).isDirectory place.dropLast = true := by
  induction place generalizing entries with
  | nil => rfl
  | cons name rest ih =>
      cases rest with
      | nil => rfl
      | cons next rest =>
          rw [isDirectory_cons] at h
          rw [List.dropLast_cons_of_ne_nil (by simp), isDirectory_cons]
          split at h
          · exact ih h
          · cases h

/-! ## Paths lead to the same places -/

theorem walk_congr (hsame : ∀ place, written.isDirectory place = d.isDirectory place)
    (start steps : List String) : written.walk start steps = d.walk start steps := by
  induction steps generalizing start with
  | nil => rfl
  | cons step rest ih => simp only [walk, hsame, ih]

/-- What a walk leads to stands in a directory. -/
theorem isDirectory_of_walk {steps : List String} (hstart : d.isDirectory start.dropLast = true)
    (hwalk : d.walk start steps = some place) : d.isDirectory place.dropLast = true := by
  induction steps generalizing start with
  | nil =>
      obtain rfl := Option.some.inj hwalk
      exact hstart
  | cons step rest ih =>
      rw [walk] at hwalk
      split at hwalk
      · cases hwalk
      rename_i hdirectory
      have hhere : d.isDirectory start = true := by simpa using hdirectory
      split at hwalk
      · exact ih (isDirectory_dropLast (isDirectory_dropLast hhere)) hwalk
      · split at hwalk
        · exact ih (by rwa [List.dropLast_concat]) hwalk
        · cases hwalk

theorem at?_alter (hfree : d.isDirectory place = false)
    (habove : d.isDirectory place.dropLast = true) :
    (d.alter place (some (.file content))).at? place = some (.file content) := by
  have hne : place ≠ [] := by
    rintro rfl
    cases hfree
  unfold isDirectory at habove
  split at habove
  · rename_i inner hdirectory
    have hfound := Entry.find?_alter_self (.file content) d.entries _ (place.getLast hne) inner
      hdirectory
    rwa [List.dropLast_concat_getLast hne] at hfound
  · cases habove

/-- A file that has been written is there, with its content. -/
theorem read_written (h : d.write? text content = some written) :
    written.contains text = true ∧ written.read? text = some content := by
  simp only [write?] at h
  split at h
  · cases h
  rename_i hasks
  obtain ⟨place, hplace, h⟩ := Option.bind_eq_some_iff.1 h
  split at h
  · cases h
  rename_i hdirectory
  obtain rfl := Option.some.inj h
  have hfree : d.isDirectory place = false := by simpa using hdirectory
  have hkept : ∀ other,
      (d.alter place (some (.file content))).isDirectory other = d.isDirectory other :=
    isDirectory_alter content hfree
  have hsame : (d.alter place (some (.file content))).place? (.ofText text) =
      d.place? (.ofText text) := by
    simp only [place?, admits, start, hkept, walk_congr hkept]
    rfl
  have habove : d.isDirectory place.dropLast = true := by
    unfold place? admits at hplace
    split at hplace
    · rename_i hadmits
      rw [Bool.and_eq_true] at hadmits
      exact isDirectory_of_walk (isDirectory_dropLast hadmits.2) hplace
    · cases hplace
  have hentry : Disk.entry? (d.alter place (some (.file content))) (.ofText text) =
      some (.file content) := by
    simp [Disk.entry?, hsame, hplace, at?_alter hfree habove, hasks]
  simp [contains, read?, hentry]

theorem write?_isSome (d : Disk) (text : String) (content other : Wire.Bytes) :
    (d.write? text content).isSome = (d.write? text other).isSome := by
  simp only [write?]
  split
  · rfl
  · cases d.place? (.ofText text) with
    | none => rfl
    | some place => simp only [Option.bind_some]; split <;> rfl

end SessionGateway.Disk
