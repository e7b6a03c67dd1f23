import Mathlib.Tactic.SplitIfs
import SessionGateway.Config.Datum

/-!
# Settings and their data

Every setting has a datum that it is read off. So a table that names some of the settings gives
these, and the standard value of each other one.
-/

namespace SessionGateway

namespace Dictionary

variable {d : Dictionary} {key value : String} {entries rest : List (String × String)}

theorem insertSorted_last (h : ∀ entry ∈ entries, entry.1 < key) :
    insertSorted key value entries = entries ++ [(key, value)] := by
  induction entries with
  | nil => rfl
  | cons entry entries ih =>
      obtain ⟨k, v⟩ := entry
      have hless : k < key := h (k, v) List.mem_cons_self
      have hnot : ¬ key < k := fun hgreater =>
        String.lt_irrefl key (String.lt_trans hgreater hless)
      have hne : key ≠ k := fun heq => String.lt_irrefl k (heq ▸ hless)
      have hlater := ih fun entry hmem => h entry (List.mem_cons_of_mem _ hmem)
      rw [insertSorted, if_neg hnot, if_neg hne, hlater, List.cons_append]

theorem entries_foldl_insert (h : (d.entries ++ rest).Pairwise (·.1 < ·.1)) :
    (rest.foldl (fun d (key, value) => d.insert key value) d).entries = d.entries ++ rest := by
  induction rest generalizing d with
  | nil => simp
  | cons entry rest ih =>
      obtain ⟨key, value⟩ := entry
      have hless : ∀ entry ∈ d.entries, entry.1 < key := fun entry hmem =>
        (List.pairwise_append.1 h).2.2 entry hmem _ List.mem_cons_self
      have hinsert : (d.insert key value).entries = d.entries ++ [(key, value)] :=
        insertSorted_last hless
      have hlater := ih (d := d.insert key value) (by rw [hinsert]; simpa using h)
      rw [hinsert] at hlater
      simpa using hlater

/-- A dictionary is made of its entries. -/
theorem ofList_entries (d : Dictionary) : ofList d.entries = d := by
  have hentries : (ofList d.entries).entries = d.entries :=
    entries_foldl_insert (d := empty) d.sorted
  cases d
  cases hd : ofList _
  simp_all

end Dictionary

namespace Datum

theorem mapM_map_ok {α β ε : Type} (write : α → β) (read : β → Except ε α)
    (h : ∀ x, read (write x) = .ok x) (items : List α) :
    (items.map write).mapM read = .ok items := by
  induction items with
  | nil => rfl
  | cons x items ih =>
      rw [List.map_cons, List.mapM_cons, h, ih]
      rfl

theorem strings_text (items : List String) : (list (items.map text)).strings = .ok items :=
  mapM_map_ok text string (fun _ => rfl) items

theorem dictionary_text (d : Dictionary) :
    (table (d.entries.map fun (key, value) => (key, text value))).dictionary = .ok d := by
  have hentries := mapM_map_ok (fun (entry : String × String) => (entry.1, text entry.2))
    (fun (entry : String × Datum) => do return (entry.1, ← entry.2.string)) (fun _ => rfl) d.entries
  calc (table (d.entries.map fun (key, value) => (key, text value))).dictionary
      = (.ok d.entries >>= fun entries => .ok (Dictionary.ofList entries)) :=
        congrArg (· >>= _) hentries
    _ = .ok d := congrArg Except.ok (Dictionary.ofList_entries d)

theorem unsigned_integer {n limit : Nat} (h : n ≤ limit) : (integer n).unsigned limit = .ok n := by
  have hn : (integer n).unsigned limit = if n ≤ limit then .ok n else .error .shape := rfl
  rw [hn, if_pos h]

theorem unsigned32_integer (n : UInt32) : (integer n.toNat).unsigned32 = .ok n := by
  have hn := n.toNat_lt_size
  rw [unsigned32, unsigned_integer (by omega), Except.map, UInt32.ofNat_toNat]

theorem unsigned64_integer (n : UInt64) : (integer n.toNat).unsigned64 = .ok n := by
  have hn := n.toNat_lt_size
  rw [unsigned64, unsigned_integer (by omega), Except.map, UInt64.ofNat_toNat]

end Datum

namespace Config

def datum (c : Config) : Setting → Datum
  | .keepaliveInterval => .integer c.keepaliveInterval.seconds.toNat
  | .keepaliveMaxRetries => .integer c.keepaliveMaxRetries.toNat
  | .keepaliveRequest => .text c.keepaliveRequest
  | .queueCapacity => .integer c.queueCapacity.toNat
  | .shellCommand => .list (c.shellCommand.map .text)
  | .farewell => .text c.farewell
  | .podNameLead => .text c.podNameLead
  | .subsystems => .table (c.subsystems.entries.map fun (key, value) => (key, .text value))

def overlay (chosen : Setting → Bool) (c base : Config) : Config where
  keepaliveInterval :=
    if chosen .keepaliveInterval then c.keepaliveInterval else base.keepaliveInterval
  keepaliveMaxRetries :=
    if chosen .keepaliveMaxRetries then c.keepaliveMaxRetries else base.keepaliveMaxRetries
  keepaliveRequest := if chosen .keepaliveRequest then c.keepaliveRequest else base.keepaliveRequest
  queueCapacity := if chosen .queueCapacity then c.queueCapacity else base.queueCapacity
  shellCommand := if chosen .shellCommand then c.shellCommand else base.shellCommand
  farewell := if chosen .farewell then c.farewell else base.farewell
  podNameLead := if chosen .podNameLead then c.podNameLead else base.podNameLead
  subsystems := if chosen .subsystems then c.subsystems else base.subsystems

variable (c base : Config) (chosen : Setting → Bool)

/-- A setting is read as it has been written; of the interval only the seconds are. -/
theorem set_datum (hwhole : c.keepaliveInterval.nanos = 0) (setting : Setting) :
    base.set setting (c.datum setting) = .ok (overlay (· = setting) c base) := by
  cases setting with
  | keepaliveInterval =>
      have hset := congrArg (Except.map fun v => { base with keepaliveInterval := .ofSeconds v })
        (Datum.unsigned64_integer c.keepaliveInterval.seconds)
      rw [Except.map, Interval.ofSeconds_seconds hwhole] at hset
      exact hset
  | keepaliveMaxRetries =>
      exact congrArg (Except.map fun v => { base with keepaliveMaxRetries := v })
        (Datum.unsigned32_integer c.keepaliveMaxRetries)
  | queueCapacity =>
      exact congrArg (Except.map fun v => { base with queueCapacity := v })
        (Datum.unsigned64_integer c.queueCapacity)
  | shellCommand =>
      exact congrArg (Except.map fun v => { base with shellCommand := v })
        (Datum.strings_text c.shellCommand)
  | subsystems =>
      exact congrArg (Except.map fun v => { base with subsystems := v })
        (Datum.dictionary_text c.subsystems)
  | keepaliveRequest | farewell | podNameLead => rfl

theorem ofKey_key (setting : Setting) : Setting.ofKey? setting.key = some setting := by
  cases setting <;> decide

theorem overlay_overlay (setting : Setting) :
    overlay chosen c (overlay (· = setting) c base) =
      overlay (fun s => s = setting || chosen s) c base := by
  have hfield {α : Type} (s : Setting) (x y : α) :
      (if chosen s = true then x else if decide (s = setting) = true then x else y) =
        if (decide (s = setting) || chosen s) = true then x else y := by
    cases chosen s <;> simp
  simp only [overlay, hfield]

/-- Settings that are named in a table are set, whatever they were before. -/
theorem setEntries_data (hwhole : c.keepaliveInterval.nanos = 0) (settings : List Setting) :
    base.setEntries (settings.map fun s => (s.key, c.datum s)) =
      .ok (overlay (· ∈ settings) c base) := by
  induction settings generalizing base with
  | nil => rfl
  | cons s settings ih =>
      have hlater := ih (overlay (· = s) c base)
      have hfirst : base.setEntries ((s :: settings).map fun s => (s.key, c.datum s)) =
          base.set s (c.datum s) >>=
            fun next => next.setEntries (settings.map fun s => (s.key, c.datum s)) := by
        simp only [setEntries, List.map_cons, List.foldlM_cons, ofKey_key]
      rw [hfirst, set_datum _ _ hwhole]
      refine hlater.trans ?_
      rw [overlay_overlay]
      simp only [List.mem_cons, Bool.decide_or]

theorem overlay_all (hall : ∀ s, chosen s = true) : overlay chosen c base = c := by
  simp only [overlay, hall, if_true]

/-! ## The check of settings -/

theorem problem?_eq_none_iff : c.problem? = none ↔
    c.keepaliveInterval ≠ .ofSeconds 0 ∧ c.queueCapacity ≠ 0 ∧ c.shellCommand ≠ [] ∧
      ∀ entry ∈ c.subsystems.entries, entry.2 ≠ "" := by
  unfold problem?
  split_ifs <;> simp_all

theorem problem?_overlay (hc : c.problem? = none) (hbase : base.problem? = none) :
    (overlay chosen c base).problem? = none := by
  rw [problem?_eq_none_iff] at hc hbase ⊢
  obtain ⟨hinterval, hcapacity, hcommand, hpaths⟩ := hc
  obtain ⟨hinterval', hcapacity', hcommand', hpaths'⟩ := hbase
  refine ⟨?_, ?_, ?_, ?_⟩ <;>
    simp only [overlay] <;>
    split_ifs <;>
    assumption

theorem problem?_standard : standard.problem? = none := by
  decide

end Config

end SessionGateway
