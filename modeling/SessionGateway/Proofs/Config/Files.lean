import SessionGateway.Config.Files
import SessionGateway.Proofs.Config.Document
import SessionGateway.Proofs.Disk.Write
import SessionGateway.Proofs.Wire.Bytes

/-!
# Saved settings are loaded again

Settings that pass their check come back from the file in which they have been saved. Numbers that
are too large to be written are found before the disk is touched.
-/

namespace SessionGateway

/-- Whether a file can be put at a path, once the directories on the way to it have been made. -/
def Disk.Takes (d : Disk) (path : String) : Prop :=
  (d.makeParent path).1 = true ∧ ((d.makeParent path).2.write? path []).isSome = true

namespace Config

variable {c : Config} {d : Disk} {path : String}

theorem mapM_eq_none {α β : Type} {f : α → Option β} {xs : List α} {x : α} (hmem : x ∈ xs)
    (hx : f x = none) : xs.mapM f = none := by
  induction xs with
  | nil => cases hmem
  | cons y xs ih =>
      rw [List.mapM_cons]
      rcases List.mem_cons.1 hmem with rfl | hmem
      · rw [hx]
        rfl
      · rw [ih hmem]
        cases f y <;> rfl

theorem write?_of_not_writable (h : ¬ c.Writable) : c.write? = none := by
  have hnone (n : Nat) (hn : ¬ n ≤ 2 ^ 63 - 1) : Toml.writeNat? n = none :=
    Option.not_isSome_iff_eq_none.1 (mt (writeNat?_isSome_iff n).1 hn)
  have hlarge : ∃ s ∈ Setting.all, c.writeSetting? s = none := by
    rw [Writable, Decidable.not_and_iff_or_not] at h
    rcases h with hinterval | hcapacity
    · exact ⟨.keepaliveInterval, by decide, by rw [writeSetting?, hnone _ hinterval]; rfl⟩
    · exact ⟨.queueCapacity, by decide, by rw [writeSetting?, hnone _ hcapacity]; rfl⟩
  obtain ⟨s, hmem, hs⟩ := hlarge
  rw [write?, writeSettings?, mapM_eq_none hmem hs]
  rfl

theorem save_of_not_writable (h : ¬ c.Writable) (d : Disk) (path : String) :
    c.save d path = (.error .tooLarge, d) := by
  rw [save, write?_of_not_writable h]

/-- Settings are saved and come back wherever a file can be put. -/
theorem load_saved (hvalid : c.problem? = none) (hwhole : c.keepaliveInterval.nanos = 0)
    (hwritable : c.Writable) (htakes : d.Takes path) :
    ∃ saved, c.save d path = (.ok (), saved) ∧ load saved path = .ok c := by
  obtain ⟨document, hwrite, hparse⟩ := parse_writeSettings hvalid hwhole hwritable fun _ => true
  rw [overlay_all c standard _ fun _ => rfl] at hparse
  have hdocument : c.write? = some document := hwrite
  obtain ⟨hmade, hput⟩ := htakes
  rw [Disk.write?_isSome _ _ _ (Wire.textBytes document)] at hput
  obtain ⟨saved, hsaved⟩ := Option.isSome_iff_exists.1 hput
  obtain ⟨hthere, hread⟩ := Disk.read_written hsaved
  have htext : Wire.text? (Wire.textBytes document) = some document :=
    Wire.text?_eq_some_iff.2 rfl
  refine ⟨saved, ?_, ?_⟩
  · simp [save, hdocument, hmade, hsaved]
  · simp [load, hthere, hread, htext, hparse]

theorem save_of_not_takes (hwritable : c.Writable) (htakes : ¬ d.Takes path) :
    ∃ e left, c.save d path = (.error e, left) ∧ (e = .noDirectory ∨ e = .unwritable) := by
  obtain ⟨document, hwrite, -⟩ := toml_parse_writeSettings hwritable fun _ => true
  have hdocument : c.write? = some document := hwrite
  cases hmade : (d.makeParent path).1 with
  | false => exact ⟨.noDirectory, (d.makeParent path).2, by simp [save, hdocument, hmade], .inl rfl⟩
  | true =>
      have hput : (d.makeParent path).2.write? path (Wire.textBytes document) = none := by
        rw [← Option.not_isSome_iff_eq_none, Disk.write?_isSome _ _ _ []]
        exact fun hput => htakes ⟨hmade, hput⟩
      exact ⟨.unwritable, (d.makeParent path).2, by simp [save, hdocument, hmade, hput], .inr rfl⟩

/-- Settings that pass their check and whose interval is a number of seconds survive being saved and
loaded, as a whole and each subset of them; numbers above `2 ^ 63 - 1` cannot be saved, and then the
disk stays as it is. -/
theorem settings_round_trip (c : Config) (hvalid : c.problem? = none)
    (hwhole : c.keepaliveInterval.nanos = 0) :
    (c.keepaliveInterval.seconds.toNat ≤ 2 ^ 63 - 1 ∧ c.queueCapacity.toNat ≤ 2 ^ 63 - 1 →
      (∀ d path, Disk.Takes d path →
        ∃ saved, c.save d path = (.ok (), saved) ∧ load saved path = .ok c) ∧
      (∀ d path, ¬ Disk.Takes d path →
        ∃ e left, c.save d path = (.error e, left) ∧ (e = .noDirectory ∨ e = .unwritable)) ∧
      ∀ chosen : Setting → Bool, ∃ document,
        c.writeSettings? (Setting.all.filter chosen) = some document ∧
          parse document = .ok (overlay chosen c standard)) ∧
    (¬ (c.keepaliveInterval.seconds.toNat ≤ 2 ^ 63 - 1 ∧ c.queueCapacity.toNat ≤ 2 ^ 63 - 1) →
      ∀ d path, c.save d path = (.error .tooLarge, d)) := by
  refine ⟨fun hwritable => ⟨?_, ?_, ?_⟩, save_of_not_writable⟩
  · exact fun d path htakes => load_saved hvalid hwhole hwritable htakes
  · exact fun d path htakes => save_of_not_takes hwritable htakes
  · exact parse_writeSettings hvalid hwhole hwritable

/-- Texts with quotes, a backslash and a control character, in a directory that is not there yet and in
the working directory. -/
theorem settings_round_trip_quotes :
    ∃ c : Config, c.problem? = none ∧ c.farewell = "\"\"\"\\\'\'\'\r\n" ∧
      (∃ saved, c.save Disk.empty "/etc/kubegate/gateway.toml" = (.ok (), saved) ∧
        load saved "/etc/kubegate/gateway.toml" = .ok c) ∧
      ∃ saved, c.save Disk.empty "gateway.toml" = (.ok (), saved) ∧
        load saved "gateway.toml" = .ok c := by
  have hvalid : { standard with farewell := "\"\"\"\\\'\'\'\r\n" }.problem? = none := by decide
  obtain ⟨hsaved, _⟩ := (settings_round_trip _ hvalid rfl).1 (by decide)
  exact ⟨_, hvalid, rfl, hsaved _ _ ⟨by decide +kernel, by decide +kernel⟩,
    hsaved _ _ ⟨by decide +kernel, by decide +kernel⟩⟩

end Config

end SessionGateway
