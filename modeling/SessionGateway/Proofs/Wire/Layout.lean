import SessionGateway.Proofs.Wire.Bytes
import SessionGateway.Wire.Reader

/-!
# Payload layouts

A layout names the fields of a payload in their order. Reading a layout off the front of a payload
gives values exactly if the payload begins with the encoding of these values, and it fails with the
fault of the first field that the payload does not have.
-/

namespace SessionGateway.Wire

theorem map_eq_ok_iff {ε α β : Type} {f : α → β} {x : Except ε α} {b : β} :
    x.map f = .ok b ↔ ∃ a, b = f a ∧ x = .ok a := by
  cases x <;> simp [Except.map, eq_comm]

theorem map_eq_error_iff {ε α β : Type} {f : α → β} {x : Except ε α} {e : ε} :
    x.map f = .error e ↔ x = .error e := by
  cases x <;> simp [Except.map]

def Error.field? : Error → Option String
  | .truncated field _ _ => some field
  | .invalidUtf8 field => some field
  | .trailingBytes _ => none
  | .portOutOfRange _ => none

/-! ## Fields -/

/-- The kinds of field that a layout can ask for. -/
inductive FieldKind where
  | u32
  | bytes
  | text
  deriving DecidableEq, Repr

namespace FieldKind

abbrev Value : FieldKind → Type
  | .u32 => UInt32
  | .bytes => Bytes
  | .text => String

def field : (k : FieldKind) → k.Value → Field
  | .u32, w => .u32 w
  | .bytes, b => .bytes b
  | .text, s => .text s

/-- Whether the length of a value can be written in front of it. -/
def Short : (k : FieldKind) → k.Value → Prop
  | .u32, _ => True
  | .bytes, b => b.length < UInt32.size
  | .text, s => (textBytes s).length < UInt32.size

def read (name : String) : (k : FieldKind) → Reader k.Value
  | .u32 => Reader.u32 name
  | .bytes => Reader.bytes name
  | .text => Reader.text name

/-- What is wrong with a payload that does not begin with a field of this kind: the word in front is
cut off, or the body is, or the body is complete and encodes no text. -/
inductive Misfit (name : String) : FieldKind → Bytes → Error → Prop
  | shortWord {k : FieldKind} {rest : Bytes} (hshort : rest.length < 4) :
      Misfit name k rest (.truncated name 4 rest.length)
  | shortBody {k : FieldKind} {length : UInt32} {rest : Bytes} (hk : k ≠ .u32)
      (hshort : rest.length < length.toNat) :
      Misfit name k (wordBytes length ++ rest) (.truncated name length.toNat rest.length)
  | notText {body rest : Bytes} (hlength : body.length < UInt32.size)
      (hbody : ∀ s, body ≠ textBytes s) :
      Misfit name .text (prefixed body ++ rest) (.invalidUtf8 name)

end FieldKind

namespace Reader

variable {α β : Type} {name : String} {p rest : Bytes} {e : Error}

theorem bind_ok {m : Reader α} {f : α → Reader β} {a : α} (h : m p = (.ok a, rest)) :
    (m >>= f) p = f a rest := by
  simp only [bind, h]

theorem bind_error {m : Reader α} {f : α → Reader β} (h : m p = (.error e, rest)) :
    (m >>= f) p = (.error e, rest) := by
  simp only [bind, h]

instance : LawfulMonad Reader :=
  LawfulMonad.mk' _
    (fun m => by
      funext p
      show (m >>= pure) p = m p
      rcases h : m p with ⟨e | a, rest⟩
      · exact bind_error h
      · exact bind_ok h)
    (fun _ _ => rfl)
    (fun m f g => by
      funext p
      rcases h : m p with ⟨e | a, rest⟩
      · exact (bind_error (bind_error h)).trans (bind_error h).symm
      · rcases hf : f a rest with ⟨e | b, last⟩
        · exact (bind_error ((bind_ok h).trans hf)).trans ((bind_ok h).trans (bind_error hf)).symm
        · exact (bind_ok ((bind_ok h).trans hf)).trans ((bind_ok h).trans (bind_ok hf)).symm)

theorem u32_append (name : String) (w : UInt32) (rest : Bytes) :
    u32 name (wordBytes w ++ rest) = (.ok w, rest) := by
  have hw : word (w >>> 24).toUInt8 (w >>> 16).toUInt8 (w >>> 8).toUInt8 w.toUInt8 = w :=
    wordBytes_eq_iff.1 rfl
  show (Except.ok (word _ _ _ _), rest) = _
  rw [hw]

theorem u32_short (h : p.length < 4) : u32 name p = (.error (.truncated name 4 p.length), p) := by
  unfold u32
  split
  · simp at h
    omega
  · rfl

theorem bytes_append {body : Bytes} (hbody : body.length < UInt32.size) (rest : Bytes) :
    bytes name (prefixed body ++ rest) = (.ok body, rest) := by
  have hlength : (UInt32.ofNat body.length).toNat = body.length :=
    UInt32.toNat_ofNat_of_lt hbody
  unfold bytes prefixed
  rw [List.append_assoc, bind_ok (u32_append name _ _), hlength]
  simp [take]

theorem bytes_short {length : UInt32} (h : rest.length < length.toNat) :
    bytes name (wordBytes length ++ rest) =
      (.error (.truncated name length.toNat rest.length), rest) := by
  unfold bytes
  rw [bind_ok (u32_append name _ _), take, if_pos h]

theorem text_append {s : String} (hs : (textBytes s).length < UInt32.size) (rest : Bytes) :
    text name (prefixed (textBytes s) ++ rest) = (.ok s, rest) := by
  unfold text
  rw [bind_ok (bytes_append hs rest), text?_eq_some_iff.2 rfl]
  rfl

theorem text_invalid {body : Bytes} (hlength : body.length < UInt32.size)
    (hbody : ∀ s, body ≠ textBytes s) (rest : Bytes) :
    text name (prefixed body ++ rest) = (.error (.invalidUtf8 name), rest) := by
  have hnone : text? body = none := by
    rw [Option.eq_none_iff_forall_ne_some]
    intro s hs
    exact hbody s (text?_eq_some_iff.1 hs)
  unfold text
  rw [bind_ok (bytes_append hlength rest), hnone]
  rfl

end Reader

namespace FieldKind

variable {k : FieldKind} {name : String} {p : Bytes} {e : Error}

theorem read_append {v : k.Value} (hshort : k.Short v) (rest : Bytes) :
    k.read name ((k.field v).encode ++ rest) = (.ok v, rest) := by
  cases k with
  | u32 => exact Reader.u32_append name v rest
  | bytes => exact Reader.bytes_append hshort rest
  | text => exact Reader.text_append hshort rest

theorem read_misfit (h : Misfit name k p e) : ∃ rest, k.read name p = (.error e, rest) := by
  cases h with
  | shortWord hshort =>
      have hword : Reader.u32 name p = _ := Reader.u32_short hshort
      refine ⟨p, ?_⟩
      cases k with
      | u32 => exact hword
      | bytes => exact Reader.bind_error hword
      | text => exact Reader.bind_error (Reader.bind_error hword)
  | @shortBody _ length rest hk hshort =>
      refine ⟨rest, ?_⟩
      cases k with
      | u32 => exact absurd rfl hk
      | bytes => exact Reader.bytes_short hshort
      | text => exact Reader.bind_error (Reader.bytes_short hshort)
  | @notText body rest hlength hbody => exact ⟨rest, Reader.text_invalid hlength hbody rest⟩

theorem exists_prefixed (name : String) (hk : k ≠ .u32) (p : Bytes) :
    (∃ body rest, body.length < UInt32.size ∧ p = prefixed body ++ rest) ∨
      ∃ e, Misfit name k p e := by
  rcases Nat.lt_or_ge p.length 4 with hlt | hge
  · exact .inr ⟨_, .shortWord hlt⟩
  · obtain ⟨length, rest, rfl⟩ := exists_wordBytes hge
    rcases Nat.lt_or_ge rest.length length.toNat with hlt | hge
    · exact .inr ⟨_, .shortBody hk hlt⟩
    · have htaken : (rest.take length.toNat).length = length.toNat := by simp [hge]
      refine .inl ⟨rest.take length.toNat, rest.drop length.toNat, ?_, ?_⟩
      · rw [htaken]
        exact length.toNat_lt
      · rw [prefixed, htaken, UInt32.ofNat_toNat, List.append_assoc, List.take_append_drop]

/-- A payload begins with a field of a kind, or something is wrong with it. -/
theorem fits_or_misfit (k : FieldKind) (name : String) (p : Bytes) :
    (∃ v rest, k.Short v ∧ p = (k.field v).encode ++ rest) ∨ ∃ e, Misfit name k p e := by
  cases k with
  | u32 =>
      rcases Nat.lt_or_ge p.length 4 with hlt | hge
      · exact .inr ⟨_, .shortWord hlt⟩
      · obtain ⟨w, rest, hp⟩ := exists_wordBytes hge
        exact .inl ⟨w, rest, trivial, hp⟩
  | bytes => exact exists_prefixed name (by decide : bytes ≠ u32) p
  | text =>
      have hk : text ≠ u32 := by decide
      rcases exists_prefixed name hk p with ⟨body, rest, hlength, rfl⟩ | hmisfit
      · by_cases hbody : ∃ s, body = textBytes s
        · obtain ⟨s, rfl⟩ := hbody
          exact .inl ⟨s, rest, hlength, rfl⟩
        · exact .inr ⟨_, .notText hlength fun s hs => hbody ⟨s, hs⟩⟩
      · exact .inr hmisfit

end FieldKind

/-! ## Layouts -/

structure Slot where
  name : String
  kind : FieldKind

abbrev Layout := List Slot

namespace Layout

abbrev Values : Layout → Type
  | [] => Unit
  | slot :: more => slot.kind.Value × Values more

def fields : (layout : Layout) → layout.Values → List Field
  | [], _ => []
  | slot :: more, (v, vs) => slot.kind.field v :: fields more vs

/-- Whether the length of each value can be written in front of it. -/
def Short : (layout : Layout) → layout.Values → Prop
  | [], _ => True
  | slot :: more, (v, vs) => slot.kind.Short v ∧ Short more vs

def read : (layout : Layout) → Reader layout.Values
  | [] => pure ()
  | slot :: more => do
      let v ← slot.kind.read slot.name
      let vs ← read more
      return (v, vs)

/-- The fault of the first field that a payload does not have: the payload begins with the fields in
front of it, and what follows them does not begin with this one. -/
def Misfit (layout : Layout) (p : Bytes) (e : Error) : Prop :=
  ∃ (before : Layout) (slot : Slot) (after : Layout) (vs : before.Values) (rest : Bytes),
    layout = before ++ slot :: after ∧ before.Short vs ∧ p = encode (before.fields vs) ++ rest ∧
      slot.kind.Misfit slot.name rest e

variable {layout : Layout} {p : Bytes} {e : Error}

theorem read_append {vs : layout.Values} (hshort : layout.Short vs) (rest : Bytes) :
    layout.read (encode (layout.fields vs) ++ rest) = (.ok vs, rest) := by
  induction layout with
  | nil => rfl
  | cons slot more ih =>
      obtain ⟨v, vs⟩ := vs
      have hsplit : encode (fields (slot :: more) (v, vs)) ++ rest =
          (slot.kind.field v).encode ++ (encode (fields more vs) ++ rest) :=
        List.append_assoc _ _ _
      rw [hsplit]
      exact (Reader.bind_ok (FieldKind.read_append hshort.1 _)).trans
        (Reader.bind_ok (ih hshort.2))

theorem misfit_cons {slot : Slot} {more : Layout} :
    Misfit (slot :: more) p e ↔ slot.kind.Misfit slot.name p e ∨ ∃ v rest,
      slot.kind.Short v ∧ p = (slot.kind.field v).encode ++ rest ∧ Misfit more rest e := by
  constructor
  · rintro ⟨before, found, after, vs, rest, hlayout, hshort, rfl, hmisfit⟩
    cases before with
    | nil =>
        obtain ⟨rfl, rfl⟩ := List.cons.inj hlayout
        exact .inl hmisfit
    | cons first before =>
        obtain ⟨rfl, rfl⟩ := List.cons.inj hlayout
        obtain ⟨v, vs⟩ := vs
        exact .inr ⟨v, encode (fields before vs) ++ rest, hshort.1, List.append_assoc _ _ _, before,
          found, after, vs, rest, rfl, hshort.2, rfl, hmisfit⟩
  · rintro (hmisfit | ⟨v, rest, hv, rfl, before, found, after, vs, rest, rfl, hvs, rfl, hmisfit⟩)
    · exact ⟨[], slot, more, (), p, rfl, trivial, rfl, hmisfit⟩
    · exact ⟨slot :: before, found, after, (v, vs), rest, rfl, ⟨hv, hvs⟩,
        (List.append_assoc _ _ _).symm, hmisfit⟩

theorem read_misfit (h : layout.Misfit p e) : ∃ rest, layout.read p = (.error e, rest) := by
  induction layout generalizing p with
  | nil =>
      obtain ⟨before, _, _, _, _, hlayout, _⟩ := h
      cases before <;> cases hlayout
  | cons slot more ih =>
      rcases misfit_cons.1 h with hfirst | ⟨v, rest, hv, rfl, hlater⟩
      · obtain ⟨rest, hread⟩ := FieldKind.read_misfit hfirst
        exact ⟨rest, Reader.bind_error hread⟩
      · obtain ⟨last, hread⟩ := ih hlater
        exact ⟨last, (Reader.bind_ok (FieldKind.read_append hv rest)).trans
          (Reader.bind_error hread)⟩

/-- A payload begins with the fields of a layout, or lacks one of them. -/
theorem fits_or_misfit (layout : Layout) (p : Bytes) :
    (∃ vs rest, layout.Short vs ∧ p = encode (layout.fields vs) ++ rest) ∨
      ∃ e, layout.Misfit p e := by
  induction layout generalizing p with
  | nil => exact .inl ⟨(), p, trivial, rfl⟩
  | cons slot more ih =>
      rcases slot.kind.fits_or_misfit slot.name p with ⟨v, rest, hv, rfl⟩ | ⟨e, hfirst⟩
      · rcases ih rest with ⟨vs, rest, hvs, rfl⟩ | ⟨e, hlater⟩
        · exact .inl ⟨(v, vs), rest, ⟨hv, hvs⟩, (List.append_assoc _ _ _).symm⟩
        · exact .inr ⟨e, misfit_cons.2 (.inr ⟨v, rest, hv, rfl, hlater⟩)⟩
      · exact .inr ⟨e, misfit_cons.2 (.inl hfirst)⟩

theorem field_of_misfit (h : layout.Misfit p e) : ∃ slot ∈ layout, e.field? = some slot.name := by
  obtain ⟨before, slot, after, vs, rest, rfl, _, _, hmisfit⟩ := h
  refine ⟨slot, by simp, ?_⟩
  generalize slot.kind = k at hmisfit
  cases hmisfit <;> rfl

section

variable {α : Type} {f : layout.Values → Reader α}

theorem run_read_bind_of_fits {vs : layout.Values} (hvs : layout.Short vs) (rest : Bytes) :
    (layout.read >>= f).run (encode (layout.fields vs) ++ rest) = (f vs).run rest :=
  congrArg Prod.fst (Reader.bind_ok (read_append hvs rest))

theorem run_read_bind_of_misfit (h : layout.Misfit p e) : (layout.read >>= f).run p = .error e := by
  obtain ⟨rest, hread⟩ := read_misfit h
  exact congrArg Prod.fst (Reader.bind_error hread)

theorem run_read_bind_eq_ok_iff {a : α} :
    (layout.read >>= f).run p = .ok a ↔ ∃ vs rest, layout.Short vs ∧
      p = encode (layout.fields vs) ++ rest ∧ (f vs).run rest = .ok a := by
  constructor
  · intro h
    rcases layout.fits_or_misfit p with ⟨vs, rest, hvs, rfl⟩ | ⟨e, hmisfit⟩
    · rw [run_read_bind_of_fits hvs] at h
      exact ⟨vs, rest, hvs, rfl, h⟩
    · rw [run_read_bind_of_misfit hmisfit] at h
      cases h
  · rintro ⟨vs, rest, hvs, rfl, h⟩
    rwa [run_read_bind_of_fits hvs]

theorem run_read_bind_eq_error_iff :
    (layout.read >>= f).run p = .error e ↔ layout.Misfit p e ∨ ∃ vs rest, layout.Short vs ∧
      p = encode (layout.fields vs) ++ rest ∧ (f vs).run rest = .error e := by
  constructor
  · intro h
    rcases layout.fits_or_misfit p with ⟨vs, rest, hvs, rfl⟩ | ⟨first, hmisfit⟩
    · rw [run_read_bind_of_fits hvs] at h
      exact .inr ⟨vs, rest, hvs, rfl, h⟩
    · rw [run_read_bind_of_misfit hmisfit] at h
      obtain rfl := Except.error.inj h
      exact .inl hmisfit
  · rintro (hmisfit | ⟨vs, rest, hvs, rfl, h⟩)
    · exact run_read_bind_of_misfit hmisfit
    · rwa [run_read_bind_of_fits hvs]

end

/-- Why a payload is not exactly the fields of a layout: it lacks one of them, or it has all of them
and goes on. -/
def Refused (layout : Layout) (p : Bytes) (e : Error) : Prop :=
  layout.Misfit p e ∨ ∃ vs rest, layout.Short vs ∧ rest ≠ [] ∧
    p = encode (layout.fields vs) ++ rest ∧ e = .trailingBytes rest.length

section

variable {α : Type} {f : layout.Values → Reader α}

theorem run_exactly_eq_ok_iff {a : α} :
    (layout.read >>= fun vs => Reader.finish >>= fun _ => f vs).run p = .ok a ↔
      ∃ vs, layout.Short vs ∧ p = encode (layout.fields vs) ∧ (f vs).run [] = .ok a := by
  rw [run_read_bind_eq_ok_iff]
  constructor
  · rintro ⟨vs, rest, hvs, rfl, h⟩
    cases rest with
    | nil => exact ⟨vs, hvs, List.append_nil _, h⟩
    | cons b more => cases h
  · rintro ⟨vs, hvs, rfl, h⟩
    exact ⟨vs, [], hvs, (List.append_nil _).symm, h⟩

theorem run_exactly_eq_error_iff :
    (layout.read >>= fun vs => Reader.finish >>= fun _ => f vs).run p = .error e ↔
      layout.Refused p e ∨
        ∃ vs, layout.Short vs ∧ p = encode (layout.fields vs) ∧ (f vs).run [] = .error e := by
  rw [run_read_bind_eq_error_iff, Refused, or_assoc]
  refine or_congr_right ⟨?_, ?_⟩
  · rintro ⟨vs, rest, hvs, rfl, h⟩
    cases rest with
    | nil => exact .inr ⟨vs, hvs, List.append_nil _, h⟩
    | cons b more => exact .inl ⟨vs, b :: more, hvs, by simp, rfl, (Except.error.inj h).symm⟩
  · rintro (⟨vs, rest, hvs, hne, rfl, rfl⟩ | ⟨vs, hvs, rfl, h⟩)
    · refine ⟨vs, rest, hvs, rfl, ?_⟩
      cases rest with
      | nil => exact absurd rfl hne
      | cons b more => rfl
    · exact ⟨vs, [], hvs, (List.append_nil _).symm, h⟩

end

end Layout

end SessionGateway.Wire
