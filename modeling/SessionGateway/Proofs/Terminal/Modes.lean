import SessionGateway.Proofs.Wire.Layout
import SessionGateway.Request

/-!
# Requests for a terminal

The modes in a request for a terminal are a mode string: records of five bytes up to the end, or up
to a byte that is no opcode, behind which anything may stand. A string is either that or cut off in
the value of a record. A request is accepted exactly if its fields fit, its modes are a mode string
and nothing is left over, and the first of these that fails tells what is wrong.
-/

namespace SessionGateway

open Wire
open Terminal (Mode)

namespace Terminal.Mode

def encode (m : Mode) : Bytes :=
  m.opcode :: wordBytes m.value

/-- Whether the opcode of a record is one that a value follows. -/
def IsRecord (m : Mode) : Prop :=
  1 ≤ m.opcode.toNat ∧ m.opcode.toNat ≤ 159

/-- Whether records end in front of these bytes: at the end, or at a byte that is no opcode. -/
def Stops (tail : Bytes) : Prop :=
  ∀ b ∈ tail.head?, b.toNat = 0 ∨ 160 ≤ b.toNat

def Encoded (encoded : Bytes) (records : List Mode) : Prop :=
  (∀ m ∈ records, m.IsRecord) ∧ ∃ tail, Stops tail ∧ encoded = records.flatMap encode ++ tail

/-- Records, and behind them an opcode with only some of the four bytes of its value. -/
def Cut (encoded : Bytes) (remaining : Nat) : Prop :=
  ∃ (records : List Mode) (opcode : UInt8) (short : Bytes), (∀ m ∈ records, m.IsRecord) ∧
    1 ≤ opcode.toNat ∧ opcode.toNat ≤ 159 ∧ short.length < 4 ∧ remaining = short.length ∧
    encoded = records.flatMap encode ++ opcode :: short

def isKnown (m : Mode) : Bool :=
  (modeName? m.opcode).isSome

theorem carriesValue_eq_true_iff {opcode : UInt8} :
    carriesValue opcode = true ↔ 1 ≤ opcode.toNat ∧ opcode.toNat ≤ 159 := by
  simp only [carriesValue, Bool.and_eq_true, decide_eq_true_eq, UInt8.lt_iff_toNat_lt,
    UInt8.le_iff_toNat_le]
  exact Iff.rfl

theorem decode_record {m : Mode} (hm : m.IsRecord) (rest : Bytes) :
    decode (m.encode ++ rest) =
      (decode rest).map fun modes => if m.isKnown then m :: modes else modes := by
  have hword := wordBytes_eq_iff.1 (rfl : wordBytes m.value = _)
  show decode (m.opcode :: _ :: _ :: _ :: _ :: rest) = _
  rw [decode, if_pos (carriesValue_eq_true_iff.2 hm), hword]
  cases hrest : decode rest with
  | error e => rfl
  | ok modes =>
      show (if (modeName? m.opcode).isSome = true then Except.ok (m :: modes)
        else Except.ok modes) = Except.ok (if m.isKnown then m :: modes else modes)
      cases hknown : (modeName? m.opcode).isSome <;> simp [isKnown, hknown]

/-- Reading the records in front of some bytes, and then these bytes. -/
theorem decode_records {records : List Mode} (hrecords : ∀ m ∈ records, m.IsRecord)
    (rest : Bytes) :
    decode (records.flatMap encode ++ rest) =
      (decode rest).map (records.filter isKnown ++ ·) := by
  induction records with
  | nil => cases h : decode rest <;> simp [h, Except.map]
  | cons m more ih =>
      rw [List.flatMap_cons, List.append_assoc, decode_record (hrecords m List.mem_cons_self),
        ih fun x hx => hrecords x (List.mem_cons_of_mem m hx)]
      cases decode rest with
      | error e => rfl
      | ok modes => cases hknown : m.isKnown <;> simp [Except.map, hknown]

theorem decode_stop {tail : Bytes} (h : Stops tail) : decode tail = .ok [] := by
  cases tail with
  | nil => rfl
  | cons b more =>
      have hb := h b rfl
      have hnone : carriesValue b ≠ true := by
        rw [ne_eq, carriesValue_eq_true_iff]
        omega
      unfold decode
      rw [if_neg hnone]

theorem decode_of_encoded {encoded : Bytes} {records : List Mode} (h : Encoded encoded records) :
    decode encoded = .ok (records.filter isKnown) := by
  obtain ⟨hrecords, tail, hstops, rfl⟩ := h
  rw [decode_records hrecords, decode_stop hstops]
  simp [Except.map]

theorem decode_of_cut {encoded : Bytes} {remaining : Nat} (h : Cut encoded remaining) :
    decode encoded = .error (.truncated "mode value" 4 remaining) := by
  obtain ⟨records, opcode, short, hrecords, hpos, hle, hshort, rfl, rfl⟩ := h
  have hlast : decode (opcode :: short) = .error (.truncated "mode value" 4 short.length) := by
    unfold decode
    rw [if_pos (carriesValue_eq_true_iff.2 ⟨hpos, hle⟩)]
    split
    · simp at hshort
      omega
    · rfl
  rw [decode_records hrecords, hlast]
  rfl

/-- Bytes are a mode string, or a record in them is cut off. -/
theorem encoded_or_cut (encoded : Bytes) :
    (∃ records, Encoded encoded records) ∨ ∃ remaining, remaining < 4 ∧ Cut encoded remaining := by
  -- Each round of the reader takes the five bytes of one record.
  induction encoded using decode.induct with
  | case1 => exact .inl ⟨[], by simp, [], by simp [Stops], rfl⟩
  | case2 opcode hcarries a b c d rest ih =>
      have hopcode := carriesValue_eq_true_iff.1 hcarries
      have hword : wordBytes (word a b c d) = [a, b, c, d] := wordBytes_eq_iff.2 rfl
      have hrecord : Mode.encode ⟨opcode, word a b c d⟩ ++ rest =
          opcode :: a :: b :: c :: d :: rest :=
        congrArg (opcode :: · ++ rest) hword
      rcases ih with ⟨records, hrecords, tail, hstops, rfl⟩ |
        ⟨remaining, hlt, records, last, short, hrecords, hlast, hle, hshort, hlength, rfl⟩
      · refine .inl ⟨⟨opcode, word a b c d⟩ :: records, ?_, tail, hstops, ?_⟩
        · exact List.forall_mem_cons.2 ⟨hopcode, hrecords⟩
        · rw [List.flatMap_cons, List.append_assoc, hrecord]
      · refine .inr ⟨remaining, hlt, ⟨opcode, word a b c d⟩ :: records, last, short, ?_, hlast, hle,
          hshort, hlength, ?_⟩
        · exact List.forall_mem_cons.2 ⟨hopcode, hrecords⟩
        · rw [List.flatMap_cons, List.append_assoc, hrecord]
  | case3 opcode hcarries short hmatch =>
      obtain ⟨hpos, hle⟩ := carriesValue_eq_true_iff.1 hcarries
      have hshort : short.length < 4 := by
        obtain _ | ⟨a, _ | ⟨b, _ | ⟨c, _ | ⟨d, rest⟩⟩⟩⟩ := short <;> simp
        exact (hmatch a b c d rest rfl).elim
      exact .inr ⟨short.length, hshort, [], opcode, short, by simp, hpos, hle, hshort, rfl, rfl⟩
  | case4 opcode rest hstop =>
      refine .inl ⟨[], by simp, opcode :: rest, ?_, rfl⟩
      rintro b hb
      obtain rfl := Option.some.inj hb
      rw [carriesValue_eq_true_iff] at hstop
      omega

/-- The round of a record takes five bytes, so a string has at most a fifth as many records. -/
theorem five_mul_length_le {encoded : Bytes} {records : List Mode} (h : Encoded encoded records) :
    5 * records.length ≤ encoded.length := by
  obtain ⟨hrecords, tail, _, rfl⟩ := h
  clear hrecords
  rw [List.length_append]
  induction records with
  | nil => exact Nat.zero_le _
  | cons m more ih =>
      rw [List.flatMap_cons, List.length_append, List.length_cons]
      have hm : m.encode.length = 5 := rfl
      omega

theorem not_cut_of_encoded {encoded : Bytes} {records : List Mode} {remaining : Nat}
    (hencoded : Encoded encoded records) : ¬ Cut encoded remaining := by
  intro hcut
  cases (decode_of_encoded hencoded).symm.trans (decode_of_cut hcut)

theorem decode_eq_ok_iff {encoded : Bytes} {modes : List Mode} :
    decode encoded = .ok modes ↔
      ∃ records, Encoded encoded records ∧ modes = records.filter isKnown := by
  constructor
  · intro h
    rcases encoded_or_cut encoded with ⟨records, hencoded⟩ | ⟨remaining, _, hcut⟩
    · exact ⟨records, hencoded, Except.ok.inj (h.symm.trans (decode_of_encoded hencoded))⟩
    · cases h.symm.trans (decode_of_cut hcut)
  · rintro ⟨records, hencoded, rfl⟩
    exact decode_of_encoded hencoded

theorem decode_eq_error_iff {encoded : Bytes} {e : Wire.Error} :
    decode encoded = .error e ↔
      ∃ remaining, Cut encoded remaining ∧ e = .truncated "mode value" 4 remaining := by
  constructor
  · intro h
    rcases encoded_or_cut encoded with ⟨records, hencoded⟩ | ⟨remaining, _, hcut⟩
    · cases h.symm.trans (decode_of_encoded hencoded)
    · exact ⟨remaining, hcut, Except.error.inj (h.symm.trans (decode_of_cut hcut))⟩
  · rintro ⟨remaining, hcut, rfl⟩
    exact decode_of_cut hcut

end Terminal.Mode

namespace PtyRequest

def layout : Layout :=
  [⟨"term", .text⟩, ⟨"cols", .u32⟩, ⟨"rows", .u32⟩, ⟨"pixel_width", .u32⟩, ⟨"pixel_height", .u32⟩,
   ⟨"modes", .bytes⟩]

def payload (term : String) (d : Dimensions) (encoded : Bytes) : Bytes :=
  Wire.encode (.text term :: d.fields ++ [.bytes encoded])

def Short (term : String) (encoded : Bytes) : Prop :=
  (textBytes term).length < UInt32.size ∧ encoded.length < UInt32.size

/-- What is wrong with a payload behind its fields: a record of the modes is cut off, or else bytes
are left over. -/
inductive Fault : Bytes → Wire.Error → Prop
  | cut {term : String} {d : Dimensions} {encoded more : Bytes} {remaining : Nat}
      (hshort : Short term encoded) (hcut : Mode.Cut encoded remaining) :
      Fault (payload term d encoded ++ more) (.truncated "mode value" 4 remaining)
  | left {term : String} {d : Dimensions} {encoded more : Bytes} {records : List Mode}
      (hshort : Short term encoded) (hencoded : Mode.Encoded encoded records) (hmore : more ≠ []) :
      Fault (payload term d encoded ++ more) (.trailingBytes more.length)

end PtyRequest

namespace Request

/-- Reads the modes of a request and expects the end of the payload. -/
def readModes (term : String) (d : Dimensions) (encoded : Bytes) : Reader PtyRequest :=
  match Mode.decode encoded with
  | .ok modes => do
      Reader.finish
      return ⟨term, d, modes⟩
  | .error e => Reader.fail e

theorem readPty_eq :
    readPty = PtyRequest.layout.read >>= fun vs =>
      match vs with
      | (term, cols, rows, pixelWidth, pixelHeight, encoded, _) =>
        readModes term ⟨cols, rows, pixelWidth, pixelHeight⟩ encoded := by
  simp only [readPty, Dimensions.read, PtyRequest.layout, Layout.read, FieldKind.read, bind_assoc,
    pure_bind]
  rfl

theorem run_readModes_eq_ok_iff {term : String} {d : Dimensions} {encoded rest : Bytes}
    {r : PtyRequest} :
    (readModes term d encoded).run rest = .ok r ↔ rest = [] ∧
      ∃ records, Mode.Encoded encoded records ∧ r = ⟨term, d, records.filter Mode.isKnown⟩ := by
  unfold readModes
  constructor
  · intro h
    split at h
    · rename_i modes hdecode
      obtain ⟨records, hrecords, rfl⟩ := Mode.decode_eq_ok_iff.1 hdecode
      cases rest with
      | nil => exact ⟨rfl, records, hrecords, (Except.ok.inj h).symm⟩
      | cons b more => cases h
    · cases h
  · rintro ⟨rfl, records, hrecords, rfl⟩
    rw [Mode.decode_of_encoded hrecords]
    rfl

theorem run_readModes_eq_error_iff {term : String} {d : Dimensions} {encoded rest : Bytes}
    {e : Wire.Error} :
    (readModes term d encoded).run rest = .error e ↔
      (∃ remaining, Mode.Cut encoded remaining ∧ e = .truncated "mode value" 4 remaining) ∨
      (∃ records, Mode.Encoded encoded records) ∧ rest ≠ [] ∧ e = .trailingBytes rest.length := by
  unfold readModes
  constructor
  · intro h
    split at h
    · rename_i modes hdecode
      obtain ⟨records, hrecords, -⟩ := Mode.decode_eq_ok_iff.1 hdecode
      cases rest with
      | nil => cases h
      | cons b more => exact .inr ⟨⟨records, hrecords⟩, by simp, (Except.error.inj h).symm⟩
    · rename_i fault hdecode
      obtain ⟨remaining, hcut, rfl⟩ := Mode.decode_eq_error_iff.1 hdecode
      exact .inl ⟨remaining, hcut, (Except.error.inj h).symm⟩
  · rintro (⟨remaining, hcut, rfl⟩ | ⟨⟨records, hrecords⟩, hne, rfl⟩)
    · rw [Mode.decode_of_cut hcut]
      rfl
    · rw [Mode.decode_of_encoded hrecords]
      cases rest with
      | nil => exact absurd rfl hne
      | cons b more => rfl

theorem decode_pty (p : Bytes) : decode "pty-req" p = (readPty.run p).map .pty := rfl

theorem decode_pty_eq_ok_iff {p : Bytes} {r : Request} :
    decode "pty-req" p = .ok r ↔ ∃ term d encoded records, PtyRequest.Short term encoded ∧
      p = PtyRequest.payload term d encoded ∧ Mode.Encoded encoded records ∧
      r = .pty ⟨term, d, records.filter Mode.isKnown⟩ := by
  rw [decode_pty, map_eq_ok_iff]
  constructor
  · rintro ⟨request, rfl, h⟩
    rw [readPty_eq, Layout.run_read_bind_eq_ok_iff] at h
    obtain ⟨⟨term, cols, rows, pixelWidth, pixelHeight, encoded, _⟩, rest,
      ⟨hterm, _, _, _, _, hencoded, _⟩, rfl, h⟩ := h
    obtain ⟨rfl, records, hrecords, rfl⟩ := run_readModes_eq_ok_iff.1 h
    exact ⟨term, ⟨cols, rows, pixelWidth, pixelHeight⟩, encoded, records, ⟨hterm, hencoded⟩,
      List.append_nil _, hrecords, rfl⟩
  · rintro ⟨term, d, encoded, records, ⟨hterm, hencoded⟩, rfl, hrecords, rfl⟩
    refine ⟨_, rfl, ?_⟩
    rw [readPty_eq, Layout.run_read_bind_eq_ok_iff]
    exact ⟨(term, d.cols, d.rows, d.pixelWidth, d.pixelHeight, encoded, ()), [],
      ⟨hterm, trivial, trivial, trivial, trivial, hencoded, trivial⟩, (List.append_nil _).symm,
      run_readModes_eq_ok_iff.2 ⟨rfl, records, hrecords, rfl⟩⟩

theorem decode_pty_eq_error_iff {p : Bytes} {e : Wire.Error} :
    decode "pty-req" p = .error e ↔ PtyRequest.layout.Misfit p e ∨ PtyRequest.Fault p e := by
  rw [decode_pty, map_eq_error_iff, readPty_eq, Layout.run_read_bind_eq_error_iff]
  refine or_congr_right ⟨?_, ?_⟩
  · rintro ⟨⟨term, cols, rows, pixelWidth, pixelHeight, encoded, _⟩, rest,
      ⟨hterm, _, _, _, _, hencoded, _⟩, rfl, h⟩
    have hpayload : Wire.encode (PtyRequest.layout.fields
        (term, cols, rows, pixelWidth, pixelHeight, encoded, ())) =
        PtyRequest.payload term ⟨cols, rows, pixelWidth, pixelHeight⟩ encoded := rfl
    rw [hpayload]
    rcases run_readModes_eq_error_iff.1 h with
      ⟨remaining, hcut, rfl⟩ | ⟨⟨records, hrecords⟩, hne, rfl⟩
    · exact .cut ⟨hterm, hencoded⟩ hcut
    · exact .left ⟨hterm, hencoded⟩ hrecords hne
  · intro h
    cases h with
    | @cut term d encoded more remaining hshort hcut =>
        exact ⟨(term, d.cols, d.rows, d.pixelWidth, d.pixelHeight, encoded, ()), more,
          ⟨hshort.1, trivial, trivial, trivial, trivial, hshort.2, trivial⟩, rfl,
          run_readModes_eq_error_iff.2 (.inl ⟨remaining, hcut, rfl⟩)⟩
    | @left term d encoded more records hshort hrecords hmore =>
        exact ⟨(term, d.cols, d.rows, d.pixelWidth, d.pixelHeight, encoded, ()), more,
          ⟨hshort.1, trivial, trivial, trivial, trivial, hshort.2, trivial⟩, rfl,
          run_readModes_eq_error_iff.2 (.inr ⟨⟨records, hrecords⟩, hmore, rfl⟩)⟩

/-- What is read does not depend on what stands behind the byte that ends the modes. -/
theorem decode_pty_of_same_records {term : String} {d : Dimensions} {records : List Mode}
    {stop : UInt8} {tail tail' : Bytes} (hrecords : ∀ m ∈ records, m.IsRecord)
    (hstop : stop.toNat = 0 ∨ 160 ≤ stop.toNat)
    (hshort : PtyRequest.Short term (records.flatMap Mode.encode ++ stop :: tail))
    (hshort' : PtyRequest.Short term (records.flatMap Mode.encode ++ stop :: tail')) :
    decode "pty-req" (PtyRequest.payload term d (records.flatMap Mode.encode ++ stop :: tail)) =
      decode "pty-req"
        (PtyRequest.payload term d (records.flatMap Mode.encode ++ stop :: tail')) := by
  have hstops : ∀ more, Mode.Stops (stop :: more) := by
    intro more b hb
    obtain rfl := Option.some.inj hb
    exact hstop
  have hencoded : ∀ more, Mode.Encoded (records.flatMap Mode.encode ++ stop :: more) records :=
    fun more => ⟨hrecords, stop :: more, hstops more, rfl⟩
  rw [decode_pty_eq_ok_iff.2 ⟨term, d, _, records, hshort, rfl, hencoded tail, rfl⟩,
    decode_pty_eq_ok_iff.2 ⟨term, d, _, records, hshort', rfl, hencoded tail', rfl⟩]

theorem field_of_decode_pty {p : Bytes} {e : Wire.Error} (h : decode "pty-req" p = .error e) :
    e.field? ∈ [none, some "term", some "cols", some "rows", some "pixel_width",
      some "pixel_height", some "modes", some "mode value"] := by
  rcases decode_pty_eq_error_iff.1 h with hmisfit | hfault
  · obtain ⟨slot, hslot, hfield⟩ := Layout.field_of_misfit hmisfit
    rw [hfield]
    simp only [PtyRequest.layout, List.mem_cons, List.not_mem_nil, or_false] at hslot
    rcases hslot with rfl | rfl | rfl | rfl | rfl | rfl <;> simp
  · cases hfault <;> simp [Error.field?]

end Request

/-- A request for a terminal is accepted exactly if its fields fit, its modes are a mode string and
nothing is left over, and it then has the values of the fields and the records of the modes whose
opcodes have a meaning. Otherwise the first fault in the order of the layout tells what is wrong.
What stands behind the byte that ends the modes makes no difference. -/
theorem terminal_request_grammar :
    (∀ p r, Request.decode "pty-req" p = .ok r ↔ ∃ term d encoded records,
      PtyRequest.Short term encoded ∧ p = PtyRequest.payload term d encoded ∧
      Mode.Encoded encoded records ∧ r = .pty ⟨term, d, records.filter Mode.isKnown⟩) ∧
    (∀ p e, Request.decode "pty-req" p = .error e ↔
      PtyRequest.layout.Misfit p e ∨ PtyRequest.Fault p e) ∧
    (∀ p, (∃ r, Request.decode "pty-req" p = .ok (.pty r)) ∨
      ∃ e, Request.decode "pty-req" p = .error e) ∧
    (∀ encoded, (¬ ∃ records, Mode.Encoded encoded records) ↔
      ∃ remaining, remaining < 4 ∧ Mode.Cut encoded remaining) ∧
    (∀ encoded records, Mode.Encoded encoded records → 5 * records.length ≤ encoded.length) ∧
    (∀ p e, Request.decode "pty-req" p = .error e → e.field? ≠ some "mode opcode") ∧
    ∀ (term : String) (d : Dimensions) (records : List Mode) (stop : UInt8) (tail tail' : Bytes),
      (∀ m ∈ records, m.IsRecord) → (stop.toNat = 0 ∨ 160 ≤ stop.toNat) →
      PtyRequest.Short term (records.flatMap Mode.encode ++ stop :: tail) →
      PtyRequest.Short term (records.flatMap Mode.encode ++ stop :: tail') →
      Request.decode "pty-req"
          (PtyRequest.payload term d (records.flatMap Mode.encode ++ stop :: tail)) =
        Request.decode "pty-req"
          (PtyRequest.payload term d (records.flatMap Mode.encode ++ stop :: tail')) := by
  refine ⟨?_, ?_, ?_, ?_, ?_, ?_, ?_⟩
  · exact fun p r => Request.decode_pty_eq_ok_iff
  · exact fun p e => Request.decode_pty_eq_error_iff
  · intro p
    cases hdecode : Request.decode "pty-req" p with
    | ok r =>
        obtain ⟨_, _, _, _, _, _, _, rfl⟩ := Request.decode_pty_eq_ok_iff.1 hdecode
        exact .inl ⟨_, rfl⟩
    | error e => exact .inr ⟨e, rfl⟩
  · intro encoded
    constructor
    · exact (Mode.encoded_or_cut encoded).resolve_left
    · rintro ⟨remaining, _, hcut⟩ ⟨records, hencoded⟩
      exact Mode.not_cut_of_encoded hencoded hcut
  · exact fun encoded records => Mode.five_mul_length_le
  · intro p e h hfield
    have hmem := Request.field_of_decode_pty h
    rw [hfield] at hmem
    simp at hmem
  · intro term d records stop tail tail' hrecords hstop hshort hshort'
    exact Request.decode_pty_of_same_records hrecords hstop hshort hshort'

/-- Two bytes behind the end of the modes are passed over. -/
theorem terminal_request_grammar_echo :
    Request.decode "pty-req" (PtyRequest.payload "vt" ⟨80, 24, 0, 0⟩ [53, 0, 0, 0, 1, 0, 9, 9]) =
      .ok (.pty ⟨"vt", ⟨80, 24, 0, 0⟩, [⟨53, 1⟩]⟩) := by
  have hrecords : ∀ m ∈ [Mode.mk 53 1], m.IsRecord := by simp [Mode.IsRecord]
  have hshort : ∀ encoded : Bytes, encoded.length < 9 → PtyRequest.Short "vt" encoded :=
    fun encoded h => ⟨by decide +kernel, Nat.lt_trans h (by decide)⟩
  have hsame := terminal_request_grammar.2.2.2.2.2.2 "vt" ⟨80, 24, 0, 0⟩ [⟨53, 1⟩] 0 [9, 9] []
    hrecords (.inl rfl) (hshort _ (by decide)) (hshort _ (by decide))
  have hencoded : Mode.Encoded [53, 0, 0, 0, 1, 0] [⟨53, 1⟩] :=
    ⟨hrecords, [0], by simp [Mode.Stops], rfl⟩
  exact hsame.trans ((terminal_request_grammar.1 _ _).2
    ⟨"vt", ⟨80, 24, 0, 0⟩, _, _, hshort _ (by decide), rfl, hencoded, rfl⟩)

end SessionGateway
