import SessionGateway.ChannelOpen
import SessionGateway.Proofs.Wire.Layout
import SessionGateway.Request

/-!
# Payloads of a fixed layout

Window changes, subsystem requests and forwards have payloads of a fixed layout. Each of the three
decoders accepts exactly what its layout encodes, so a payload is told by its value and can be
written again byte for byte. A payload that is refused gets the fault of the first field that does
not fit; bytes that are left over count only if every field fits, and a port that is out of range
only if nothing is left over either.
-/

namespace SessionGateway

open Wire

/-- A decoder that tells which payloads have which value, and what is wrong with the others. -/
structure Wire.Exact {α : Type} (decode : Bytes → Except Wire.Error α) (Writes : α → Bytes → Prop)
    (Refuses : Bytes → Wire.Error → Prop) : Prop where
  accepts : ∀ p a, decode p = .ok a ↔ Writes a p
  refuses : ∀ p e, decode p = .error e ↔ Refuses p e
  injective : ∀ p q a, decode p = .ok a → decode q = .ok a → p = q

namespace Dimensions

def layout : Layout :=
  [⟨"cols", .u32⟩, ⟨"rows", .u32⟩, ⟨"pixel_width", .u32⟩, ⟨"pixel_height", .u32⟩]

end Dimensions

namespace Request

def subsystemLayout : Layout :=
  [⟨"subsystem", .text⟩]

theorem readWindowChange_eq :
    readWindowChange = Dimensions.layout.read >>= fun vs => Reader.finish >>= fun _ =>
      match vs with
      | (cols, rows, pixelWidth, pixelHeight, _) => pure ⟨cols, rows, pixelWidth, pixelHeight⟩ := by
  simp [readWindowChange, Dimensions.read, Dimensions.layout, Layout.read, FieldKind.read]

theorem readSubsystem_eq :
    readSubsystem = subsystemLayout.read >>= fun vs => Reader.finish >>= fun _ => pure vs.1 := by
  simp [readSubsystem, subsystemLayout, Layout.read, FieldKind.read]

theorem decode_windowChange (p : Bytes) :
    decode "window-change" p = (readWindowChange.run p).map .windowChange := rfl

theorem decode_subsystem (p : Bytes) :
    decode "subsystem" p = (readSubsystem.run p).map .subsystem := rfl

end Request

namespace ForwardOpen

def layout : Layout :=
  [⟨"host", .text⟩, ⟨"port", .u32⟩, ⟨"originator_address", .text⟩, ⟨"originator_port", .u32⟩]

theorem read_eq :
    read = layout.read >>= fun vs => Reader.finish >>= fun _ =>
      match vs with
      | (host, port, originatorAddress, originatorPort, _) =>
        if port.toNat < UInt16.size then
          pure ⟨host, UInt16.ofNat port.toNat, originatorAddress, originatorPort⟩
        else Reader.fail (.portOutOfRange port) := by
  simp [read, layout, Layout.read, FieldKind.read]

def Short (o : ForwardOpen) : Prop :=
  (textBytes o.host).length < UInt32.size ∧ (textBytes o.originatorAddress).length < UInt32.size

/-- A payload that is right but for its port. -/
def FarPort (p : Bytes) (e : Wire.Error) : Prop :=
  ∃ host port originatorAddress originatorPort, (textBytes host).length < UInt32.size ∧
    (textBytes originatorAddress).length < UInt32.size ∧ UInt16.size ≤ port.toNat ∧
    p = encode [.text host, .u32 port, .text originatorAddress, .u32 originatorPort] ∧
    e = .portOutOfRange port

theorem decode_eq_ok_iff {p : Bytes} {o : ForwardOpen} :
    decode p = .ok o ↔ o.Short ∧ p = encode o.fields := by
  unfold decode
  rw [read_eq, Layout.run_exactly_eq_ok_iff]
  constructor
  · rintro ⟨⟨host, port, originatorAddress, originatorPort, _⟩, ⟨hhost, _, haddress, _⟩, rfl, h⟩
    simp only at h
    split at h
    · rename_i hport
      obtain rfl := Except.ok.inj h
      refine ⟨⟨hhost, haddress⟩, ?_⟩
      have hword : UInt32.ofNat (UInt16.ofNat (UInt32.toNat port)).toNat = port := by
        rw [UInt16.toNat_ofNat', Nat.mod_eq_of_lt hport, UInt32.ofNat_toNat]
      rw [fields, hword]
      rfl
    · cases h
  · rintro ⟨⟨hhost, haddress⟩, rfl⟩
    have hport : (UInt32.ofNat o.port.toNat).toNat = o.port.toNat :=
      UInt32.toNat_ofNat_of_lt (Nat.lt_trans o.port.toNat_lt (by decide))
    refine ⟨(o.host, UInt32.ofNat o.port.toNat, o.originatorAddress, o.originatorPort, ()),
      ⟨hhost, trivial, haddress, trivial, trivial⟩, rfl, ?_⟩
    simp only [hport, UInt16.ofNat_toNat]
    rw [if_pos o.port.toNat_lt]
    rfl

theorem decode_eq_error_iff {p : Bytes} {e : Wire.Error} :
    decode p = .error e ↔ layout.Refused p e ∨ FarPort p e := by
  unfold decode
  rw [read_eq, Layout.run_exactly_eq_error_iff]
  refine or_congr_right ⟨?_, ?_⟩
  · rintro ⟨⟨host, port, originatorAddress, originatorPort, _⟩, ⟨hhost, _, haddress, _⟩, rfl, h⟩
    simp only at h
    split at h
    · cases h
    · rename_i hport
      exact ⟨host, port, originatorAddress, originatorPort, hhost, haddress,
        Nat.le_of_not_lt hport, rfl, (Except.error.inj h).symm⟩
  · rintro ⟨host, port, originatorAddress, originatorPort, hhost, haddress, hport, rfl, rfl⟩
    refine ⟨(host, port, originatorAddress, originatorPort, ()),
      ⟨hhost, trivial, haddress, trivial, trivial⟩, rfl, ?_⟩
    simp only
    rw [if_neg (Nat.not_lt_of_le hport)]
    rfl

end ForwardOpen

namespace Request

theorem decode_windowChange_eq_ok_iff {p : Bytes} {r : Request} :
    decode "window-change" p = .ok r ↔
      ∃ d : Dimensions, r = .windowChange d ∧ p = encode d.fields := by
  rw [decode_windowChange, map_eq_ok_iff]
  refine exists_congr fun d => and_congr_right fun _ => ?_
  rw [readWindowChange_eq, Layout.run_exactly_eq_ok_iff]
  constructor
  · rintro ⟨⟨cols, rows, pixelWidth, pixelHeight, _⟩, _, rfl, h⟩
    obtain rfl := Except.ok.inj h
    rfl
  · rintro rfl
    exact ⟨(d.cols, d.rows, d.pixelWidth, d.pixelHeight, ()),
      ⟨trivial, trivial, trivial, trivial, trivial⟩, rfl, rfl⟩

theorem decode_windowChange_eq_error_iff {p : Bytes} {e : Wire.Error} :
    decode "window-change" p = .error e ↔ Dimensions.layout.Refused p e := by
  rw [decode_windowChange, map_eq_error_iff, readWindowChange_eq, Layout.run_exactly_eq_error_iff]
  refine or_iff_left ?_
  rintro ⟨_, _, _, h⟩
  cases h

theorem decode_subsystem_eq_ok_iff {p : Bytes} {r : Request} :
    decode "subsystem" p = .ok r ↔ ∃ name, r = .subsystem name ∧
      (textBytes name).length < UInt32.size ∧ p = encode [.text name] := by
  rw [decode_subsystem, map_eq_ok_iff]
  refine exists_congr fun name => and_congr_right fun _ => ?_
  rw [readSubsystem_eq, Layout.run_exactly_eq_ok_iff]
  constructor
  · rintro ⟨⟨name, _⟩, ⟨hname, _⟩, rfl, h⟩
    obtain rfl := Except.ok.inj h
    exact ⟨hname, rfl⟩
  · rintro ⟨hname, rfl⟩
    exact ⟨(name, ()), ⟨hname, trivial⟩, rfl, rfl⟩

theorem decode_subsystem_eq_error_iff {p : Bytes} {e : Wire.Error} :
    decode "subsystem" p = .error e ↔ subsystemLayout.Refused p e := by
  rw [decode_subsystem, map_eq_error_iff, readSubsystem_eq, Layout.run_exactly_eq_error_iff]
  refine or_iff_left ?_
  rintro ⟨_, _, _, h⟩
  cases h

end Request

/-- The payloads of window changes, subsystem requests and forwards are exactly what their layouts
encode, and each other payload is refused with the first fault in the order of the layout. -/
theorem fixed_layouts_exact :
    Exact (Request.decode "window-change")
      (fun r p => ∃ d : Dimensions, r = .windowChange d ∧ p = encode d.fields)
      Dimensions.layout.Refused ∧
    Exact (Request.decode "subsystem")
      (fun r p => ∃ name, r = .subsystem name ∧ (textBytes name).length < UInt32.size ∧
        p = encode [.text name])
      Request.subsystemLayout.Refused ∧
    Exact ForwardOpen.decode (fun o p => o.Short ∧ p = encode o.fields)
      (fun p e => ForwardOpen.layout.Refused p e ∨ ForwardOpen.FarPort p e) := by
  refine ⟨⟨?_, ?_, ?_⟩, ⟨?_, ?_, ?_⟩, ⟨?_, ?_, ?_⟩⟩
  · exact fun p r => Request.decode_windowChange_eq_ok_iff
  · exact fun p e => Request.decode_windowChange_eq_error_iff
  · intro p q r hp hq
    obtain ⟨d, rfl, rfl⟩ := Request.decode_windowChange_eq_ok_iff.1 hp
    obtain ⟨_, hr, rfl⟩ := Request.decode_windowChange_eq_ok_iff.1 hq
    rw [Request.windowChange.inj hr]
  · exact fun p r => Request.decode_subsystem_eq_ok_iff
  · exact fun p e => Request.decode_subsystem_eq_error_iff
  · intro p q r hp hq
    obtain ⟨name, rfl, _, rfl⟩ := Request.decode_subsystem_eq_ok_iff.1 hp
    obtain ⟨_, hr, _, rfl⟩ := Request.decode_subsystem_eq_ok_iff.1 hq
    rw [Request.subsystem.inj hr]
  · exact fun p o => ForwardOpen.decode_eq_ok_iff
  · exact fun p e => ForwardOpen.decode_eq_error_iff
  · intro p q o hp hq
    rw [(ForwardOpen.decode_eq_ok_iff.1 hp).2, (ForwardOpen.decode_eq_ok_iff.1 hq).2]

end SessionGateway
