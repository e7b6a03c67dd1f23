import SessionGateway.Proofs.Toml.Number

/-!
# Written lines are read back

A written value ends with its line, so it is read up to the line break. A document is a sequence of
lines: of written pairs, of the header of a table, and of empty lines.
-/

namespace SessionGateway.Toml

variable {rest text value : List Char} {d : Datum} {key : String} {n depth : Nat}

/-! ## Values -/

theorem value?_of_string {cs read : List Char} (h : string? cs = some (read, rest)) :
    value? (n + 1) depth cs = some (.text (String.ofList read), rest) := by
  unfold value?
  split
  · simp [string?] at h
  · simp [string?] at h
  · simp [h]

theorem value?_writeString (s : String) {first : Char} (hdouble : first ≠ '"')
    (hsingle : first ≠ '\'') :
    value? (n + 1) depth (writeString s ++ first :: rest) = some (.text s, first :: rest) := by
  have hread : string? (_ ++ first :: rest) = some (s.toList, first :: rest) :=
    string?_write _ (holds_ofValue s.toList) (by simpa using hdouble) (by simpa using hsingle)
  rw [writeString, value?_of_string hread, String.ofList_toList]

theorem skipBlank_first {first : Char} (hspace : isSpace first = false) (hbreak : first ≠ '\n')
    (hreturn : first ≠ '\r') (hcomment : first ≠ '#') :
    skipBlank (first :: rest) = first :: rest := by
  simp [skipBlank, skipBlankFrom, hspace, hbreak, hreturn, hcomment]

theorem skipBlank_writeString (s : String) (rest : List Char) :
    skipBlank (writeString s ++ rest) = writeString s ++ rest := by
  obtain ⟨first, later, hwrite, hquote⟩ := writeString_head s
  rw [hwrite, List.cons_append]
  exact skipBlank_first (isSpace_eq_false hquote rfl rfl) (ne_of_eq_true hquote rfl)
    (ne_of_eq_true hquote rfl) (ne_of_eq_true hquote rfl)

def itemLines (items : List String) : List Char :=
  items.flatMap fun s => [' ', ' ', ' ', ' '] ++ writeString s ++ [',', '\n']

theorem items?_itemLines (items : List String) (hn : items.length < n) (rest : List Char) :
    items? n depth (skipBlank (itemLines items ++ ']' :: rest)) =
      some (items.map .text, rest) := by
  -- Each item takes one unit of the bound for the list and one for the value in it.
  induction items generalizing n with
  | nil =>
      obtain ⟨n, rfl⟩ : ∃ m, n = m + 1 := ⟨n - 1, by simp at hn; omega⟩
      simp [itemLines, skipBlank_first, isSpace, items?]
  | cons s items ih =>
      rw [List.length_cons] at hn
      obtain ⟨n, rfl⟩ : ∃ m, n = m + 2 := ⟨n - 2, by omega⟩
      have hlater := ih (n := n + 1) (by omega)
      generalize hmore : itemLines items ++ ']' :: rest = more at hlater
      have hlines : itemLines (s :: items) ++ ']' :: rest =
          ' ' :: ' ' :: ' ' :: ' ' :: (writeString s ++ ',' :: '\n' :: more) := by
        simp [itemLines, ← hmore]
      have hindent : skipBlank (itemLines (s :: items) ++ ']' :: rest) =
          writeString s ++ ',' :: '\n' :: more := by
        rw [hlines]
        exact skipBlank_writeString s _
      have hbreak : skipBlank ('\n' :: more) = skipBlank more := by
        simp [skipBlank, skipBlankFrom]
      have hitem : value? (n + 1) depth (writeString s ++ ',' :: '\n' :: more) =
          some (.text s, ',' :: '\n' :: more) := value?_writeString s (by decide) (by decide)
      obtain ⟨first, later, hwrite, hquote⟩ := writeString_head s
      have hclose : first ≠ ']' := ne_of_eq_true hquote rfl
      rw [hindent]
      rw [hwrite, List.cons_append] at hitem ⊢
      simp [items?, hclose, hitem, skipBlank_first, isSpace, hbreak, hlater]

theorem length_itemLines (items : List String) : items.length ≤ (itemLines items).length := by
  induction items with
  | nil => exact Nat.zero_le _
  | cons s items ih =>
      simp only [itemLines, List.flatMap_cons, List.length_append, List.length_cons] at ih ⊢
      omega

theorem value?_writeStrings (items : List String) (hn : items.length + 1 < n) (rest : List Char) :
    value? n 0 (writeStrings items ++ rest) = some (.list (items.map .text), rest) := by
  obtain ⟨n, rfl⟩ : ∃ m, n = m + 2 := ⟨n - 2, by omega⟩
  have hdepth : 0 + 1 < maxDepth := by decide
  match items with
  | [] => simp [writeStrings, value?, hdepth, skipBlank_first, isSpace, items?]
  | [s] =>
      obtain ⟨n, rfl⟩ : ∃ m, n = m + 1 := ⟨n - 1, by simp at hn; omega⟩
      have hitem : value? (n + 1) 1 (writeString s ++ ']' :: rest) = some (.text s, ']' :: rest) :=
        value?_writeString s (by decide) (by decide)
      have hskip := skipBlank_writeString s (']' :: rest)
      obtain ⟨first, later, hwrite, hquote⟩ := writeString_head s
      have hclose : first ≠ ']' := ne_of_eq_true hquote rfl
      rw [hwrite, List.cons_append] at hitem hskip
      simp [writeStrings, hwrite, value?, hdepth, hskip, items?, hclose, hitem, skipBlank_first,
        isSpace]
  | first :: second :: later =>
      have hitems : items? (n + 1) 1 _ = _ :=
        items?_itemLines (first :: second :: later) (by omega) rest
      have hbreak : skipBlank ('\n' :: (itemLines (first :: second :: later) ++ ']' :: rest)) =
          skipBlank (itemLines (first :: second :: later) ++ ']' :: rest) := by
        simp [skipBlank, skipBlankFrom]
      have hwrite : writeStrings (first :: second :: later) ++ rest =
          '[' :: '\n' :: (itemLines (first :: second :: later) ++ ']' :: rest) := by
        simp [writeStrings, itemLines]
      rw [hwrite]
      simp only [value?]
      rw [if_pos hdepth, hbreak, hitems]
      rfl

/-- A written value that is read as a datum where it ends its line. -/
structure Writes (value : List Char) (d : Datum) : Prop where
  head : ∃ first later, value = first :: later ∧ isSpace first = false
  reads : ∀ n rest, value.length < n → value? n 0 (value ++ '\n' :: rest) = some (d, '\n' :: rest)

theorem writes_string (s : String) : Writes (writeString s) (.text s) := by
  constructor
  case head =>
    obtain ⟨first, later, hwrite, hquote⟩ := writeString_head s
    exact ⟨first, later, hwrite, isSpace_eq_false hquote rfl rfl⟩
  case reads =>
    intro n rest hn
    obtain ⟨n, rfl⟩ : ∃ m, n = m + 1 := ⟨n - 1, by omega⟩
    exact value?_writeString s (by decide) (by decide)

theorem length_writeStrings (items : List String) :
    items.length + 1 ≤ (writeStrings items).length := by
  match items with
  | [] => simp [writeStrings]
  | [s] => simp [writeStrings]
  | first :: second :: later =>
      have hlines := length_itemLines (first :: second :: later)
      simp only [writeStrings, itemLines, List.length_append, List.length_cons,
        List.length_nil] at hlines ⊢
      omega

theorem writes_strings (items : List String) :
    Writes (writeStrings items) (.list (items.map .text)) := by
  constructor
  case head =>
    match items with
    | [] | [_] | _ :: _ :: _ => exact ⟨'[', _, rfl, rfl⟩
  case reads =>
    intro n rest hn
    have hlength := length_writeStrings items
    exact value?_writeStrings items (by omega) _

theorem writes_nat {written : List Char} {m : Nat} (h : writeNat? m = some written) :
    Writes written (.integer m) := by
  unfold writeNat? at h
  split_ifs at h with hm
  obtain rfl := Option.some.inj h
  obtain ⟨first, later, hfirst, hdigit⟩ := exists_toDigits m
  constructor
  case head => exact ⟨first, later, hfirst, isSpace_eq_false hdigit rfl rfl⟩
  case reads =>
    intro n rest hn
    obtain ⟨n, rfl⟩ : ∃ m, n = m + 1 := ⟨n - 1, by omega⟩
    have hnumber := number?_toDigits hm rest
    have hlist : first ≠ '[' := ne_of_eq_true hdigit rfl
    have htable : first ≠ '\x7b' := ne_of_eq_true hdigit rfl
    have hdouble : first ≠ '"' := ne_of_eq_true hdigit rfl
    have hsingle : first ≠ '\'' := ne_of_eq_true hdigit rfl
    have htrue : first ≠ 't' := ne_of_eq_true hdigit rfl
    have hfalse : first ≠ 'f' := ne_of_eq_true hdigit rfl
    rw [hfirst, List.cons_append] at hnumber ⊢
    simp [value?, string?, boolean?, hlist, htable, hdouble, hsingle, htrue, hfalse, hnumber]

/-! ## Lines -/

theorem skipSpace_first {first : Char} (hspace : isSpace first = false) :
    skipSpace (first :: rest) = first :: rest := by
  simp [skipSpace, hspace]

/-- A written key is read as one part, if what stands behind it goes on neither with the word nor
with a dot. -/
theorem key?_writeKey (key : String) {first : Char} (hword : ∀ c, text.head? = some c →
    isBareKeyChar c = false) (hskip : skipSpace text = first :: rest) (hdot : first ≠ '.') :
    key? (writeKey key ++ text) = some ([key], first :: rest) := by
  have hpart := keyPart?_writeKey key hword
  have hmore : moreKeyParts (maxDepth - 1) text = some ([], first :: rest) := by
    have hdepth : maxDepth - 1 = 78 + 1 := rfl
    rw [hdepth, moreKeyParts, hskip]
    split
    · rename_i later heq
      exact absurd (List.cons.inj heq).1 hdot
    · rfl
  obtain ⟨lead, later, hkey, hlead⟩ := writeKey_head key
  have hspace : isSpace lead = false := isSpace_eq_false hlead rfl rfl
  have hstart : skipSpace (writeKey key ++ text) = writeKey key ++ text := by
    rw [hkey, List.cons_append, skipSpace_first hspace]
  simp [key?, hstart, hpart, hmore, String.ofList_toList]

theorem lineEnd?_break (rest : List Char) : lineEnd? ('\n' :: rest) = some rest := by
  simp [lineEnd?, skipSpace, isSpace, newline?]

theorem line?_break (rest : List Char) : line? ('\n' :: rest) = some (.blank, rest) := by
  simp [line?, skipSpace_first, isSpace, lineEnd?_break]

theorem writePair_append (key : String) (value rest : List Char) : writePair key value ++ rest =
    writeKey key ++ ' ' :: '=' :: ' ' :: (value ++ '\n' :: rest) := by
  simp [writePair]

theorem pair?_writePair (key : String) (h : Writes value d) (hn : value.length < n)
    (rest : List Char) : pair? (n + 1) 0 (writePair key value ++ rest) =
      some (⟨[], key, d⟩, '\n' :: rest) := by
  obtain ⟨first, later, hvalue, hfirst⟩ := h.head
  have hkey : key? (writePair key value ++ rest) =
      some ([key], '=' :: ' ' :: (value ++ '\n' :: rest)) := by
    rw [writePair_append]
    exact key?_writeKey key (by simp; decide) rfl (by decide)
  have hskip : skipSpace (' ' :: (value ++ '\n' :: rest)) = value ++ '\n' :: rest := by
    rw [hvalue, List.cons_append]
    exact skipSpace_first hfirst
  simp [pair?, hkey, char?, hskip, h.reads n rest hn, splitKey]

theorem line?_writePair (key : String) (h : Writes value d) (rest : List Char) :
    line? (writePair key value ++ rest) = some (.pair ⟨[], key, d⟩, rest) := by
  have hlength : value.length < 4 * (writePair key value ++ rest).length + 3 := by
    simp only [writePair_append, List.length_append, List.length_cons]
    omega
  have hpair := pair?_writePair key h hlength rest
  obtain ⟨first, later, hkey, hfirst⟩ := writeKey_head key
  have hheader : first ≠ '[' := ne_of_eq_true hfirst rfl
  have hcomment : first ≠ '#' := ne_of_eq_true hfirst rfl
  have hbreak : first ≠ '\n' := ne_of_eq_true hfirst rfl
  have hreturn : first ≠ '\r' := ne_of_eq_true hfirst rfl
  have hspace : isSpace first = false := isSpace_eq_false hfirst rfl rfl
  have htext : writePair key value ++ rest =
      first :: (later ++ ' ' :: '=' :: ' ' :: (value ++ '\n' :: rest)) := by
    rw [writePair_append, hkey, List.cons_append]
  rw [htext] at hpair ⊢
  unfold line?
  rw [skipSpace_first hspace]
  split
  · rename_i heq
    cases heq
  · rename_i heq
    exact absurd (List.cons.inj heq).1 hheader
  · rename_i c cs heq
    obtain ⟨rfl, rfl⟩ := List.cons.inj heq
    have hno : ¬ (first = '#' ∨ first = '\n' ∨ first = '\r') := by simp [hcomment, hbreak, hreturn]
    rw [if_neg hno, hpair]
    simp [lineEnd?_break]

theorem line?_header (key : String) (rest : List Char) :
    line? ('[' :: (writeKey key ++ ']' :: '\n' :: rest)) =
      some (.header ⟨false, [], key⟩, rest) := by
  have hkey : key? (writeKey key ++ ']' :: '\n' :: rest) = some ([key], ']' :: '\n' :: rest) :=
    key?_writeKey key (by simp; decide) rfl (by decide)
  obtain ⟨first, later, hfirst, hstarts⟩ := writeKey_head key
  have hbracket : first ≠ '[' := ne_of_eq_true hstarts rfl
  have hheader : header? (writeKey key ++ ']' :: '\n' :: rest) =
      some (⟨false, [], key⟩, rest) := by
    rw [hfirst, List.cons_append] at hkey ⊢
    simp [header?, hbracket, hkey, char?, lineEnd?_break, splitKey]
  simp [line?, skipSpace_first, isSpace, hheader]

def Reads (text : List Char) (lines : List Line) : Prop :=
  ∀ n, text.length ≤ n → lines? n text = some lines

theorem reads_nil : Reads [] [] := by
  intro n _
  cases n <;> rfl

theorem Reads.line {written : List Char} {l : Line} {lines : List Line} (hne : written ≠ [])
    (hline : line? (written ++ text) = some (l, text)) (h : Reads text lines) :
    Reads (written ++ text) (l :: lines) := by
  intro n hn
  have hpos : 0 < written.length := List.length_pos_iff.2 hne
  rw [List.length_append] at hn
  obtain ⟨n, rfl⟩ : ∃ m, n = m + 1 := ⟨n - 1, by omega⟩
  have hlater := h n (by omega)
  obtain ⟨first, later, rfl⟩ := List.exists_cons_of_ne_nil hne
  rw [List.cons_append] at hline ⊢
  simp [lines?, hline, hlater]

end SessionGateway.Toml
