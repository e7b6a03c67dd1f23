import Mathlib.Algebra.Group.Nat.Defs
import SessionGateway.Config.Document
import SessionGateway.Proofs.Config.Datum
import SessionGateway.Proofs.Toml.Document

/-!
# Documents of settings

A document that holds some of the settings gives these when it is read, and the standard value of
each other one.
-/

namespace SessionGateway.Config

open Toml

/-- Both numbers of 64 bits are small enough to be written. -/
def Writable (c : Config) : Prop :=
  c.keepaliveInterval.seconds.toNat ≤ 2 ^ 63 - 1 ∧ c.queueCapacity.toNat ≤ 2 ^ 63 - 1

variable {c : Config}

theorem writeNat?_isSome_iff (n : Nat) : (writeNat? n).isSome = true ↔ n ≤ 2 ^ 63 - 1 := by
  have hsize : UInt64.size / 2 = 2 ^ 63 := rfl
  unfold writeNat?
  split_ifs with h
  · simp
    omega
  · simp
    omega

/-- Every setting but the table of subsystems is written as one pair. -/
theorem exists_pair (hwritable : c.Writable) {s : Setting} (hs : s ≠ .subsystems) :
    ∃ p : WrittenPair, p.entry = (s.key, c.datum s) ∧ c.writeSetting? s = some p.line := by
  have hnat (n : Nat) (hn : n ≤ 2 ^ 63 - 1) : ∃ p : WrittenPair, p.entry = (s.key, .integer n) ∧
      (writeNat? n).map (writePair s.key) = some p.line := by
    obtain ⟨written, hwritten⟩ := Option.isSome_iff_exists.1 ((writeNat?_isSome_iff n).2 hn)
    exact ⟨⟨s.key, written, _, writes_nat hwritten⟩, rfl, by rw [hwritten]; rfl⟩
  have hstring (text : String) : ∃ p : WrittenPair, p.entry = (s.key, .text text) ∧
      some (writePair s.key (writeString text)) = some p.line :=
    ⟨.ofString (s.key, text), rfl, rfl⟩
  cases s with
  | keepaliveInterval => exact hnat _ hwritable.1
  | keepaliveMaxRetries =>
      have hn := c.keepaliveMaxRetries.toNat_lt_size
      have hsize : UInt32.size = 2 ^ 32 := rfl
      exact hnat _ (by omega)
  | keepaliveRequest | farewell | podNameLead => exact hstring _
  | queueCapacity => exact hnat _ hwritable.2
  | shellCommand => exact ⟨⟨_, _, _, writes_strings c.shellCommand⟩, rfl, rfl⟩
  | subsystems => exact absurd rfl hs

theorem exists_pairs (hwritable : c.Writable) (settings : List Setting)
    (hs : Setting.subsystems ∉ settings) : ∃ pairs : List WrittenPair,
      pairs.map (·.entry) = settings.map (fun s => (s.key, c.datum s)) ∧
      settings.mapM c.writeSetting? = some (pairs.map (·.line)) := by
  induction settings with
  | nil => exact ⟨[], rfl, rfl⟩
  | cons s settings ih =>
      rw [List.mem_cons, not_or] at hs
      obtain ⟨p, hentry, hline⟩ := exists_pair hwritable (Ne.symm hs.1)
      obtain ⟨pairs, hentries, hlines⟩ := ih hs.2
      refine ⟨p :: pairs, by simp [hentry, hentries], ?_⟩
      simp [List.mapM_cons, hline, hlines]

def subsystemSection (c : Config) (chosen : Setting → Bool) : Option (String × List WrittenPair) :=
  if chosen .subsystems then
    some (Setting.subsystems.key, c.subsystems.entries.map .ofString)
  else none

/-- A document of settings is made of pairs and perhaps a section. -/
theorem writeSettings?_eq (hwritable : c.Writable) (chosen : Setting → Bool) :
    ∃ pairs : List WrittenPair,
      c.writeSettings? (Setting.all.filter chosen) = some (String.ofList
        (pairs.flatMap WrittenPair.line ++ sectionText (c.subsystemSection chosen))) ∧
      (Setting.all.filter chosen).map (fun s => (s.key, c.datum s)) = pairs.map (·.entry) ++
        (c.subsystemSection chosen).toList.map fun (key, inner) =>
          (key, .table (inner.map (·.entry))) := by
  -- The subsystems come last, because what stands behind the header of a table belongs to it.
  have hsplit : Setting.all.filter chosen =
      Setting.all.dropLast.filter chosen ++ [Setting.subsystems].filter chosen := by
    rw [← List.filter_append]
    rfl
  have hpairs : Setting.subsystems ∉ Setting.all.dropLast.filter chosen := fun hmem =>
    (by decide : Setting.subsystems ∉ Setting.all.dropLast) (List.mem_filter.1 hmem).1
  obtain ⟨pairs, hentries, hlines⟩ := exists_pairs hwritable _ hpairs
  refine ⟨pairs, ?_, ?_⟩
  · rw [hsplit, writeSettings?, List.mapM_append, hlines]
    cases hchosen : chosen .subsystems
    · simp [subsystemSection, hchosen, sectionText, List.flatMap_def]
    · have htable : writeTable Setting.subsystems.key c.subsystems.entries =
          '[' :: (writeKey Setting.subsystems.key ++ ']' :: '\n' ::
            (c.subsystems.entries.map WrittenPair.ofString).flatMap WrittenPair.line) := by
        rw [List.flatMap_map]
        simp [writeTable]
        rfl
      simp [subsystemSection, hchosen, sectionText, writeSetting?, htable, List.flatMap_def]
  · rw [hsplit, List.map_append, hentries]
    cases hchosen : chosen .subsystems
    · simp [subsystemSection, hchosen]
    · simp [subsystemSection, hchosen, datum, WrittenPair.entry, WrittenPair.ofString]

theorem nodup_keys (chosen : Setting → Bool) :
    ((Setting.all.filter chosen).map Setting.key).Nodup := by
  have hall : (Setting.all.map Setting.key).Nodup := by decide
  exact hall.sublist (List.filter_sublist.map Setting.key)

theorem nodup_subsystems (d : Dictionary) : (d.entries.map Prod.fst).Nodup := by
  rw [List.Nodup, List.pairwise_map]
  refine d.sorted.imp ?_
  intro a b hless heq
  rw [heq] at hless
  exact String.lt_irrefl _ hless

theorem toml_parse_writeSettings (hwritable : c.Writable) (chosen : Setting → Bool) :
    ∃ document, c.writeSettings? (Setting.all.filter chosen) = some document ∧
      Toml.parse document =
        some (.table ((Setting.all.filter chosen).map fun s => (s.key, c.datum s))) := by
  obtain ⟨pairs, hwrite, hdata⟩ := writeSettings?_eq hwritable chosen
  have hkeys : pairs.map (·.key) ++ (c.subsystemSection chosen).toList.map Prod.fst =
      (Setting.all.filter chosen).map Setting.key := by
    have hnames := congrArg (List.map Prod.fst) hdata
    simpa [Function.comp_def, WrittenPair.entry] using hnames.symm
  have hinner : ∀ t ∈ c.subsystemSection chosen, (t.2.map (·.key)).Nodup := by
    intro t ht
    unfold subsystemSection at ht
    split_ifs at ht
    · obtain rfl := Option.some.inj ht
      simpa [Function.comp_def, WrittenPair.ofString] using nodup_subsystems c.subsystems
    · cases ht
  refine ⟨_, hwrite, ?_⟩
  rw [hdata]
  exact parse_document pairs _ (hkeys ▸ nodup_keys chosen) hinner

/-- What is written of some settings is read as these and the standard value of each other one. -/
theorem parse_writeSettings (hvalid : c.problem? = none)
    (hwhole : c.keepaliveInterval.nanos = 0) (hwritable : c.Writable) (chosen : Setting → Bool) :
    ∃ document, c.writeSettings? (Setting.all.filter chosen) = some document ∧
      parse document = .ok (overlay chosen c standard) := by
  obtain ⟨document, hwrite, hparse⟩ := toml_parse_writeSettings hwritable chosen
  refine ⟨document, hwrite, ?_⟩
  have hchosen : (fun s => decide (s ∈ Setting.all.filter chosen)) = chosen := by
    funext s
    have hall : s ∈ Setting.all := by cases s <;> decide
    simp [hall]
  have hread : ofDatum (.table ((Setting.all.filter chosen).map fun s => (s.key, c.datum s))) =
      .ok (overlay chosen c standard) := by
    rw [ofDatum, setEntries_data _ _ hwhole, hchosen]
  have hcheck : (overlay chosen c standard).check = .ok (overlay chosen c standard) := by
    rw [check, problem?_overlay c standard chosen hvalid problem?_standard]
  simp only [parse, hparse, hread, hcheck]

end SessionGateway.Config
