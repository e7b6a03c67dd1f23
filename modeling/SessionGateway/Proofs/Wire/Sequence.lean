import SessionGateway.Proofs.Wire.Layout

/-!
# Reads in sequence

A payload can be read field by field, and reading can go on after a read that has failed. Fields
that were written are read back by the reads that ask for their kinds, whatever stands behind them,
and if the payload is cut short then the first read that lacks something says so. A read that fails
takes as much as it has made sense of: nothing, the length of a string, or a string that is no text.
-/

namespace SessionGateway.Wire

/-- What a read asks for: a byte, or a field of a kind that layouts have. -/
inductive ReadKind where
  | u8
  | field (kind : FieldKind)
  deriving DecidableEq, Repr

/-- One read off the front of a payload: the name of the field and what is asked for. -/
structure Read where
  name : String
  kind : ReadKind
  deriving DecidableEq, Repr

namespace Field

def kind : Field → ReadKind
  | .u8 _ => .u8
  | .u32 _ => .field .u32
  | .bytes _ => .field .bytes
  | .text _ => .field .text

/-- Whether the length of a field can be written in front of it, if it has one. -/
def Short : Field → Prop
  | .u8 _ | .u32 _ => True
  | .bytes b => b.length < UInt32.size
  | .text s => (textBytes s).length < UInt32.size

instance : DecidablePred Short
  | .u8 _ | .u32 _ => .isTrue trivial
  | .bytes b => inferInstanceAs (Decidable (b.length < UInt32.size))
  | .text s => inferInstanceAs (Decidable ((textBytes s).length < UInt32.size))

end Field

def Read.run (r : Read) : Reader Field :=
  match r.kind with
  | .u8 => Field.u8 <$> Reader.u8 r.name
  | .field k => k.field <$> k.read r.name

/-- Reads one after the other, each where the one before it has stopped, whether or not that one has
failed. Gives what comes of each of them, and what remains in the end. -/
def readEach : List Read → Bytes → List (Except Error Field) × Bytes
  | [], p => ([], p)
  | r :: more, p =>
    ((r.run p).1 :: (readEach more (r.run p).2).1, (readEach more (r.run p).2).2)

/-- How a read fails, with what remains of the payload then. -/
inductive Fails : Read → Bytes → Error → Bytes → Prop
  | noByte {name : String} : Fails ⟨name, .u8⟩ [] (.truncated name 1 0) []
  /-- A word is cut off, or the length of a string is: nothing is taken. -/
  | shortWord {name : String} {k : FieldKind} {p : Bytes} (hshort : p.length < 4) :
      Fails ⟨name, .field k⟩ p (.truncated name 4 p.length) p
  /-- The body of a string is cut off: its length is taken. -/
  | shortBody {name : String} {k : FieldKind} {length : UInt32} {rest : Bytes} (hk : k ≠ .u32)
      (hshort : rest.length < length.toNat) :
      Fails ⟨name, .field k⟩ (wordBytes length ++ rest) (.truncated name length.toNat rest.length)
        rest
  /-- The body of a string encodes no text: length and body are taken. -/
  | notText {name : String} {body rest : Bytes} (hlength : body.length < UInt32.size)
      (hbody : ∀ s, body ≠ textBytes s) :
      Fails ⟨name, .field .text⟩ (prefixed body ++ rest) (.invalidUtf8 name) rest

section

variable {r : Read} {k : FieldKind} {f : Field} {fields : List Field} {reads more : List Read}
  {p rest : Bytes} {e : Error}

/-! ## One read -/

theorem Reader.map_ok {α β : Type} {m : Reader α} {g : α → β} {a : α} (h : m p = (.ok a, rest)) :
    (g <$> m) p = (.ok (g a), rest) :=
  bind_ok h

theorem Reader.map_error {α β : Type} {m : Reader α} {g : α → β} (h : m p = (.error e, rest)) :
    (g <$> m) p = (.error e, rest) :=
  bind_error h

theorem kind_field (k : FieldKind) (v : k.Value) : (k.field v).kind = .field k := by
  cases k <;> rfl

theorem short_field {v : k.Value} : (k.field v).Short ↔ k.Short v := by
  cases k <;> rfl

/-- What was written is read back, whatever stands behind it. -/
theorem run_append (hshort : f.Short) (hkind : r.kind = f.kind) (rest : Bytes) :
    r.run (f.encode ++ rest) = (.ok f, rest) := by
  obtain ⟨name, kind⟩ := r
  obtain rfl : kind = f.kind := hkind
  cases f with
  | u8 b => rfl
  | u32 w => exact Reader.map_ok (FieldKind.read_append (k := .u32) (v := w) trivial rest)
  | bytes b => exact Reader.map_ok (FieldKind.read_append (k := .bytes) (v := b) hshort rest)
  | text s => exact Reader.map_ok (FieldKind.read_append (k := .text) (v := s) hshort rest)

theorem run_of_fails (h : Fails r p e rest) : r.run p = (.error e, rest) := by
  cases h with
  | noByte => rfl
  | @shortWord name k _ hshort =>
      have hword : Reader.u32 name p = _ := Reader.u32_short hshort
      cases k with
      | u32 => exact Reader.map_error hword
      | bytes => exact Reader.map_error (Reader.bind_error hword)
      | text => exact Reader.map_error (Reader.bind_error (Reader.bind_error hword))
  | @shortBody name k length _ hk hshort =>
      cases k with
      | u32 => exact absurd rfl hk
      | bytes => exact Reader.map_error (Reader.bytes_short hshort)
      | text => exact Reader.map_error (Reader.bind_error (Reader.bytes_short hshort))
  | notText hlength hbody => exact Reader.map_error (Reader.text_invalid hlength hbody rest)

theorem FieldKind.Misfit.fails {name : String} (h : k.Misfit name p e) :
    ∃ rest, Fails ⟨name, .field k⟩ p e rest := by
  cases h with
  | shortWord hshort => exact ⟨_, .shortWord hshort⟩
  | shortBody hk hshort => exact ⟨_, .shortBody hk hshort⟩
  | notText hlength hbody => exact ⟨_, .notText hlength hbody⟩

/-- A payload begins with the field that is asked for, or the read fails. -/
theorem fits_or_fails (r : Read) (p : Bytes) :
    (∃ (f : Field) (rest : Bytes), r.kind = f.kind ∧ f.Short ∧ p = f.encode ++ rest) ∨
      ∃ e rest, Fails r p e rest := by
  obtain ⟨name, kind⟩ := r
  cases kind with
  | u8 =>
      cases p with
      | nil => exact .inr ⟨_, _, .noByte⟩
      | cons b rest => exact .inl ⟨.u8 b, rest, rfl, trivial, rfl⟩
  | field k =>
      rcases k.fits_or_misfit name p with ⟨v, rest, hv, rfl⟩ | ⟨e, hmisfit⟩
      · exact .inl ⟨k.field v, rest, (kind_field k v).symm, short_field.2 hv, rfl⟩
      · exact .inr ⟨e, hmisfit.fails⟩

theorem run_eq_ok_iff :
    r.run p = (.ok f, rest) ↔ r.kind = f.kind ∧ f.Short ∧ p = f.encode ++ rest := by
  constructor
  · intro h
    rcases fits_or_fails r p with ⟨g, tail, hkind, hshort, rfl⟩ | ⟨e, tail, hfails⟩
    · rw [run_append hshort hkind] at h
      obtain ⟨⟨⟩, ⟨⟩⟩ := Prod.mk.inj h
      exact ⟨hkind, hshort, rfl⟩
    · cases (run_of_fails hfails).symm.trans h
  · rintro ⟨hkind, hshort, rfl⟩
    exact run_append hshort hkind rest

theorem run_eq_error_iff : r.run p = (.error e, rest) ↔ Fails r p e rest := by
  constructor
  · intro h
    rcases fits_or_fails r p with ⟨g, tail, hkind, hshort, rfl⟩ | ⟨first, tail, hfails⟩
    · cases (run_append hshort hkind tail).symm.trans h
    · rw [run_of_fails hfails] at h
      obtain ⟨⟨⟩, ⟨⟩⟩ := Prod.mk.inj h
      exact hfails
  · exact run_of_fails

theorem Fails.suffix (h : Fails r p e rest) : rest <:+ p := by
  cases h with
  | noByte | shortWord _ => exact List.suffix_refl _
  | shortBody _ _ | notText _ _ => exact List.suffix_append _ _

theorem run_suffix (r : Read) (p : Bytes) : (r.run p).2 <:+ p := by
  rcases h : r.run p with ⟨e | f, rest⟩
  · exact (run_eq_error_iff.1 h).suffix
  · obtain ⟨_, _, rfl⟩ := run_eq_ok_iff.1 h
    exact List.suffix_append _ _

/-- A field that is cut short is missed, and the read tells that it needs more than remains. -/
theorem fails_of_cut (hshort : f.Short) (hkind : r.kind = f.kind) (hpart : p <+: f.encode)
    (hne : p ≠ f.encode) :
    ∃ needed rest, Fails r p (.truncated r.name needed rest.length) rest ∧ rest.length < needed := by
  obtain ⟨cut, hcut⟩ := hpart
  have hwhole : r.run (p ++ cut) = (.ok f, []) := by
    rw [hcut, ← List.append_nil f.encode]
    exact run_append hshort hkind []
  rcases fits_or_fails r p with ⟨g, rest, hg, hgshort, rfl⟩ | ⟨e, rest, hfails⟩
  · -- A field in front of the cut would leave bytes of the whole field.
    rw [List.append_assoc, run_append hgshort hg] at hwhole
    obtain ⟨_, hnil⟩ := Prod.mk.inj hwhole
    rw [(List.append_eq_nil_iff.1 hnil).2, List.append_nil] at hcut
    exact absurd hcut hne
  · cases hfails with
    | noByte => exact ⟨1, [], .noByte, Nat.one_pos⟩
    | shortWord hlt => exact ⟨4, p, .shortWord hlt, hlt⟩
    | shortBody hk hlt => exact ⟨_, rest, .shortBody hk hlt, hlt⟩
    | notText hlength hbody =>
        rw [List.append_assoc, run_of_fails (.notText hlength hbody)] at hwhole
        cases hwhole

/-! ## Many reads -/

theorem encode_cons (f : Field) (fields : List Field) :
    encode (f :: fields) = f.encode ++ encode fields := rfl

theorem length_readEach (reads : List Read) (p : Bytes) :
    (readEach reads p).1.length = reads.length := by
  induction reads generalizing p with
  | nil => rfl
  | cons r more ih => exact congrArg Nat.succ (ih _)

theorem readEach_append (reads more : List Read) (p : Bytes) :
    readEach (reads ++ more) p =
      ((readEach reads p).1 ++ (readEach more (readEach reads p).2).1,
        (readEach more (readEach reads p).2).2) := by
  induction reads generalizing p with
  | nil => rfl
  | cons r later ih => simp only [List.cons_append, readEach, ih]

theorem readEach_suffix (reads : List Read) (p : Bytes) : (readEach reads p).2 <:+ p := by
  induction reads generalizing p with
  | nil => exact List.suffix_refl p
  | cons r more ih => exact (ih _).trans (run_suffix r p)

theorem readEach_encode (hshort : ∀ f ∈ fields, f.Short)
    (hkinds : reads.map Read.kind = fields.map Field.kind) (rest : Bytes) :
    readEach reads (encode fields ++ rest) = (fields.map .ok, rest) := by
  induction fields generalizing reads with
  | nil =>
      obtain rfl := List.map_eq_nil_iff.1 hkinds
      rfl
  | cons f fields ih =>
      obtain ⟨r, more, rfl, hkind, hmore⟩ := List.map_eq_cons_iff.1 hkinds
      obtain ⟨hf, hfields⟩ := List.forall_mem_cons.1 hshort
      rw [encode_cons, List.append_assoc, readEach, run_append hf hkind, ih hfields hmore,
        List.map_cons]

/-- What comes of reading a payload that is cut short: the fields in front of the cut are read, and
the next read needs more than remains. -/
def CutShort (reads : List Read) (fields : List Field) (outcomes : List (Except Error Field)) :
    Prop :=
  ∃ before missed after r needed remaining later, fields = before ++ missed :: after ∧
    reads[before.length]? = some r ∧
    outcomes = before.map .ok ++ .error (.truncated r.name needed remaining) :: later ∧
    remaining < needed

theorem readEach_cut (hshort : ∀ f ∈ fields, f.Short)
    (hkinds : reads.map Read.kind = fields.map Field.kind) (hpart : p <+: encode fields)
    (hne : p ≠ encode fields) : CutShort reads fields (readEach reads p).1 := by
  induction fields generalizing reads p with
  | nil => exact absurd (List.prefix_nil.1 hpart) hne
  | cons f fields ih =>
      obtain ⟨r, more, rfl, hkind, hmore⟩ := List.map_eq_cons_iff.1 hkinds
      obtain ⟨hf, hfields⟩ := List.forall_mem_cons.1 hshort
      rw [encode_cons] at hpart hne
      by_cases hwhole : f.encode <+: p
      · obtain ⟨q, rfl⟩ := hwhole
        obtain ⟨before, missed, after, lacking, needed, remaining, later, rfl, hread, houtcomes,
          hlt⟩ :=
          ih hfields hmore ((List.prefix_append_right_inj _).1 hpart) fun h => hne (h ▸ rfl)
        refine ⟨f :: before, missed, after, lacking, needed, remaining, later, rfl, hread, ?_, hlt⟩
        rw [readEach, run_append hf hkind, houtcomes]
        rfl
      · have hcut : p <+: f.encode :=
          (List.prefix_or_prefix_of_prefix hpart (List.prefix_append _ _)).resolve_right hwhole
        obtain ⟨needed, rest, hfails, hlt⟩ :=
          fails_of_cut hf hkind hcut fun h => hwhole (h ▸ List.prefix_refl _)
        refine ⟨[], f, fields, r, needed, rest.length, (readEach more rest).1, rfl, rfl, ?_, hlt⟩
        rw [readEach, run_of_fails hfails]
        rfl

theorem outcome_at (before : List Read) (r : Read) (after : List Read) (p : Bytes) :
    (readEach (before ++ r :: after) p).1[before.length]? =
      some (r.run (readEach before p).2).1 := by
  rw [readEach_append, ← length_readEach before p, List.getElem?_append_right (Nat.le_refl _)]
  simp [readEach]

end

/-- What comes of fields that are written and then read. -/
structure ReadBack (reads : List Read) (fields : List Field) : Prop where
  /-- The fields are read and nothing remains. -/
  whole : readEach reads (encode fields) = (fields.map .ok, []) ∧
    Reader.finish (readEach reads (encode fields)).2 = (.ok (), [])
  /-- What stands behind them remains, and is in the way of the end. -/
  extended : ∀ t, readEach reads (encode fields ++ t) = (fields.map .ok, t) ∧
    (t ≠ [] → Reader.finish (readEach reads (encode fields ++ t)).2 =
      (.error (.trailingBytes t.length), t))
  cut : ∀ p, p <+: encode fields → p ≠ encode fields → CutShort reads fields (readEach reads p).1

/-- What reads take off a payload. -/
structure Takes (reads : List Read) (p : Bytes) : Prop where
  /-- After each read the end of the payload remains. -/
  suffix : ∀ before, before <+: reads → (readEach before p).2 <:+ p
  /-- A read that fails has taken what its failure says. -/
  failed : ∀ before r after e, reads = before ++ r :: after →
    (readEach reads p).1[before.length]? = some (.error e) →
    Fails r (readEach before p).2 e (readEach (before ++ [r]) p).2

/-- Reading undoes writing, and a payload that is cut short is found out by the first read that
lacks something. Whatever is read off whatever payload, successful or not, only the end of it
remains, and a failed read takes nothing, the length of a string or a string that is no text. -/
theorem reads_undo_writes (reads : List Read) :
    (∀ fields : List Field, (∀ f ∈ fields, f.Short) →
      reads.map Read.kind = fields.map Field.kind → ReadBack reads fields) ∧
    ∀ p, Takes reads p := by
  refine ⟨fun fields hshort hkinds => ?_, fun p => ?_⟩
  · have hread := readEach_encode hshort hkinds
    constructor
    case whole =>
      have hwhole := hread []
      rw [List.append_nil] at hwhole
      exact ⟨hwhole, by rw [hwhole]; rfl⟩
    case extended =>
      intro t
      refine ⟨hread t, fun hne => ?_⟩
      rw [hread t, Reader.finish, if_neg (by simpa using hne)]
    case cut => exact fun p hpart hne => readEach_cut hshort hkinds hpart hne
  · constructor
    case suffix => exact fun before _ => readEach_suffix before p
    case failed =>
      rintro before r after e rfl houtcome
      rw [outcome_at] at houtcome
      rw [readEach_append]
      exact run_eq_error_iff.1 (Prod.ext (Option.some.inj houtcome) rfl)

/-- A name, a byte and a number are written and read; then the same is asked of a payload whose name
is no text and whose number is cut off. -/
theorem reads_undo_writes_name :
    (∀ f ∈ [Field.text "é", .u8 7, .u32 80], f.Short) ∧
      encode [.text "é", .u8 7, .u32 80] = [0, 0, 0, 2, 0xc3, 0xa9, 7, 0, 0, 0, 80] ∧
      ReadBack [⟨"name", .field .text⟩, ⟨"op", .u8⟩, ⟨"cols", .field .u32⟩]
        [.text "é", .u8 7, .u32 80] ∧
      readEach [⟨"name", .field .text⟩, ⟨"op", .u8⟩, ⟨"cols", .field .u32⟩]
          [0, 0, 0, 2, 0xff, 0xc3, 7, 0, 0] =
        ([.error (.invalidUtf8 "name"), .ok (.u8 7), .error (.truncated "cols" 4 2)], [0, 0]) ∧
      Takes [⟨"name", .field .text⟩, ⟨"op", .u8⟩, ⟨"cols", .field .u32⟩]
        [0, 0, 0, 2, 0xff, 0xc3, 7, 0, 0] := by
  have hshort : ∀ f ∈ [Field.text "é", .u8 7, .u32 80], f.Short := by decide +kernel
  obtain ⟨hreads, htakes⟩ :=
    reads_undo_writes [⟨"name", .field .text⟩, ⟨"op", .u8⟩, ⟨"cols", .field .u32⟩]
  exact ⟨hshort, by decide +kernel, hreads _ hshort rfl, rfl, htakes _⟩

end SessionGateway.Wire
