import SessionGateway.Proofs.Toml.Line

/-!
# Written documents are read back

The tables of a document are made in the order of its lines. Written pairs with different keys, and
perhaps a section behind them, are all there is in a written document.
-/

namespace SessionGateway.Toml

variable {text : List Char} {key : String}

/-- A key with a written value and the datum that it is read as. -/
structure WrittenPair where
  key : String
  value : List Char
  datum : Datum
  writes : Writes value datum

namespace WrittenPair

variable (p : WrittenPair)

def line : List Char :=
  writePair p.key p.value

def pair : Pair :=
  ⟨[], p.key, p.datum⟩

def entry : String × Datum :=
  (p.key, p.datum)

def ofString (entry : String × String) : WrittenPair :=
  ⟨entry.1, writeString entry.2, .text entry.2, writes_string entry.2⟩

end WrittenPair

theorem reads_pairs (pairs : List WrittenPair) {lines : List Line} (h : Reads text lines) :
    Reads (pairs.flatMap WrittenPair.line ++ text)
      (pairs.map (fun p => .pair p.pair) ++ lines) := by
  induction pairs with
  | nil => exact h
  | cons p pairs ih =>
      rw [List.flatMap_cons, List.append_assoc]
      exact ih.line (by simp [WrittenPair.line, writePair]) (line?_writePair p.key p.writes _)

/-- The section of a document, if there is one: its table, behind an empty line. -/
def sectionText : Option (String × List WrittenPair) → List Char
  | none => []
  | some (key, pairs) =>
    '\n' :: '[' :: (writeKey key ++ ']' :: '\n' :: pairs.flatMap WrittenPair.line)

def sectionLines : Option (String × List WrittenPair) → List Line
  | none => []
  | some (key, pairs) => .blank :: .header ⟨false, [], key⟩ :: pairs.map fun p => .pair p.pair

theorem reads_section (last : Option (String × List WrittenPair)) :
    Reads (sectionText last) (sectionLines last) := by
  match last with
  | none => exact reads_nil
  | some (key, pairs) =>
      have hpairs := reads_pairs pairs reads_nil
      rw [List.append_nil, List.append_nil] at hpairs
      have hlead : Reads (('[' :: (writeKey key ++ [']', '\n'])) ++ _) _ :=
        hpairs.line (by simp) (by simpa using line?_header key _)
      have hblank : Reads (['\n'] ++ _) _ := hlead.line (by simp) (line?_break _)
      simpa [sectionText, sectionLines] using hblank

theorem gather_pairs (pairs : List WrittenPair) (lines : List Line) :
    gather (pairs.map (fun p => .pair p.pair) ++ lines) =
      (pairs.map (·.pair) ++ (gather lines).1, (gather lines).2) := by
  induction pairs with
  | nil => rfl
  | cons p pairs ih => simp [gather, ih]

theorem gather_section (last : Option (String × List WrittenPair)) :
    gather (sectionLines last) =
      ([], last.toList.map fun (key, pairs) => ⟨⟨false, [], key⟩, pairs.map (·.pair)⟩) := by
  match last with
  | none => rfl
  | some (key, pairs) =>
      have hpairs := gather_pairs pairs []
      rw [List.append_nil] at hpairs
      simp [sectionLines, gather, hpairs]

/-! ## Tables -/

variable {origin : Origin} {entries : List (String × Node)}

theorem get?_new (hnew : key ∉ entries.map Prod.fst) :
    (Table.mk origin entries).get? key = none := by
  rw [Table.get?, List.lookup_eq_none_iff]
  intro entry hentry
  have hne : key ≠ entry.1 := fun heq => hnew (heq ▸ List.mem_map_of_mem hentry)
  simpa using hne

theorem addPair_new (hnew : key ∉ entries.map Prod.fst) (d : Datum) :
    (Table.mk origin entries).addPair [] key d =
      some (.mk origin (entries ++ [(key, .leaf d)])) := by
  simp [Table.addPair, Table.descend, get?_new hnew, Table.push, Table.origin, Table.entries]

theorem addPairs_cons (p : Pair) (pairs : List Pair) (t : Table) :
    t.addPairs (p :: pairs) = (t.addPair p.path p.key p.value).bind (Table.addPairs pairs) :=
  List.foldlM_cons

/-- The entries that pairs make in a table. -/
def leaves (pairs : List WrittenPair) : List (String × Node) :=
  pairs.map fun p => (p.key, .leaf p.datum)

theorem addPairs_new (pairs : List WrittenPair)
    (hnew : (entries.map Prod.fst ++ pairs.map (·.key)).Nodup) :
    (Table.mk origin entries).addPairs (pairs.map (·.pair)) =
      some (.mk origin (entries ++ leaves pairs)) := by
  induction pairs generalizing entries with
  | nil => simp [Table.addPairs, leaves]
  | cons p pairs ih =>
      have hfirst : p.key ∉ entries.map Prod.fst := fun hmem =>
        (List.nodup_append.1 hnew).2.2 _ hmem _ List.mem_cons_self rfl
      have hlater : (Table.mk origin (entries ++ [(p.key, .leaf p.datum)])).addPairs _ = _ :=
        ih (by simpa using hnew)
      have hadd : (Table.mk origin entries).addPair p.pair.path p.pair.key p.pair.value = _ :=
        addPair_new hfirst p.datum
      rw [List.map_cons, addPairs_cons, hadd, Option.bind_some, hlater]
      simp [leaves]

theorem entryData_append (first second : List (String × Node)) :
    entryData (first ++ second) = entryData first ++ entryData second := by
  induction first with
  | nil => rfl
  | cons entry first ih => simp [entryData, ih]

theorem entryData_leaves (pairs : List WrittenPair) :
    entryData (leaves pairs) = pairs.map (·.entry) := by
  induction pairs with
  | nil => rfl
  | cons p pairs ih =>
      rw [leaves] at ih
      simp [leaves, entryData, Node.datum, ih, WrittenPair.entry]

/-- The table that pairs and a section make. -/
theorem assemble_document (pairs : List WrittenPair) (last : Option (String × List WrittenPair))
    (hkeys : (pairs.map (·.key) ++ last.toList.map Prod.fst).Nodup)
    (hlast : ∀ t ∈ last, (t.2.map (·.key)).Nodup) :
    assemble (pairs.map (·.pair))
        (last.toList.map fun (key, inner) => ⟨⟨false, [], key⟩, inner.map (·.pair)⟩) =
      some (.table (pairs.map (·.entry) ++
        last.toList.map fun (key, inner) => (key, .table (inner.map (·.entry))))) := by
  have hempty (inner : List WrittenPair) (h : (inner.map (·.key)).Nodup) :
      (Table.empty .header).addPairs (inner.map (·.pair)) = some (.mk .header (leaves inner)) :=
    addPairs_new inner (by simpa using h)
  have hpairs := hempty pairs (List.nodup_append.1 hkeys).1
  match last with
  | none => simp [assemble, hpairs, Table.datum, entryData_leaves]
  | some (key, inner) =>
      have hinner := hempty inner (hlast _ rfl)
      have hnew : key ∉ (leaves pairs).map Prod.fst := by
        intro hmem
        have hsame : (leaves pairs).map Prod.fst = pairs.map (·.key) := by simp [leaves]
        exact (List.nodup_append.1 hkeys).2.2 key (hsame ▸ hmem) key (by simp) rfl
      simp [assemble, hpairs, hinner, Section.add, Section.addTo, Table.descend, get?_new hnew,
        Table.datum, entryData_append, entryData_leaves, Table.push, Table.entries, Table.origin,
        entryData, Node.datum]

/-- A written document does not begin with a byte-order mark. -/
theorem document_head (pairs : List WrittenPair) (last : Option (String × List WrittenPair)) :
    (pairs.flatMap WrittenPair.line ++ sectionText last).head? ≠ some '\uFEFF' := by
  cases pairs with
  | nil =>
      cases last with
      | none => simp [sectionText]
      | some t => simp [sectionText]
  | cons p pairs =>
      obtain ⟨first, later, hkey, hfirst⟩ := writeKey_head p.key
      have hmark : first ≠ '\uFEFF' := ne_of_eq_true hfirst rfl
      simpa [WrittenPair.line, writePair, hkey] using hmark

theorem parse_lines {lines : List Line} (hhead : text.head? ≠ some '\uFEFF')
    (h : Reads text lines) :
    parse (String.ofList text) = assemble (gather lines).1 (gather lines).2 := by
  have hlines := h text.length (Nat.le_refl _)
  cases text with
  | nil =>
      rw [List.length_nil] at hlines
      simp [parse, hlines]
  | cons first later =>
      have hmark : first ≠ '\uFEFF' := by simpa using hhead
      rw [List.length_cons] at hlines
      simp [parse, hmark, hlines]

/-- A document of written pairs and perhaps a section says what was written. -/
theorem parse_document (pairs : List WrittenPair) (last : Option (String × List WrittenPair))
    (hkeys : (pairs.map (·.key) ++ last.toList.map Prod.fst).Nodup)
    (hlast : ∀ t ∈ last, (t.2.map (·.key)).Nodup) :
    parse (String.ofList (pairs.flatMap WrittenPair.line ++ sectionText last)) =
      some (.table (pairs.map (·.entry) ++
        last.toList.map fun (key, inner) => (key, .table (inner.map (·.entry))))) := by
  have hgather := gather_pairs pairs (sectionLines last)
  rw [gather_section, List.append_nil] at hgather
  rw [parse_lines (document_head pairs last) (reads_pairs pairs (reads_section last)), hgather]
  exact assemble_document pairs last hkeys hlast

end SessionGateway.Toml
