import Mathlib.Algebra.Group.Nat.Defs
import Mathlib.Data.List.DropRight
import SessionGateway.Json.Printer
import SessionGateway.Json.Reader
import SessionGateway.Proofs.Config.Datum
import SessionGateway.Proofs.Toml.Number

/-!
# The grammar of intervals

An interval is written as digits with at most one plus sign in front of them and, if not in seconds,
the letter of a unit behind them. Blanks may stand at both ends and in front of the letter, and nowhere
else. `Spelling` is that grammar: reading accepts exactly the texts that have a spelling whose number
and whose seconds fit into 64 bits, and tells the two limits apart in its errors.
-/

namespace SessionGateway

/-! ## Blanks at the ends of a text -/

namespace Text

/-- A part of a text is what is left without the blanks at both ends. -/
structure Strips (cs core : List Char) : Prop where
  ends : ∃ front back, cs = front ++ core ++ back ∧ (∀ c ∈ front, isBlank c = true) ∧
    ∀ c ∈ back, isBlank c = true
  first : ∀ c, core.head? = some c → isBlank c = false
  last : ∀ c, core.getLast? = some c → isBlank c = false

section

variable {cs core front back : List Char}

theorem trimEnd_eq (cs : List Char) : trimEnd cs = cs.rdropWhile isBlank :=
  rfl

theorem trimStart_of_first (h : ∀ c, cs.head? = some c → isBlank c = false) :
    trimStart cs = cs := by
  cases cs with
  | nil => rfl
  | cons c rest => exact List.dropWhile_cons_of_neg (by simp [h c rfl])

theorem trimEnd_of_last (h : ∀ c, cs.getLast? = some c → isBlank c = false) : trimEnd cs = cs := by
  rw [trimEnd_eq, List.rdropWhile_eq_self_iff]
  intro hne
  simp [h _ (List.getLast?_eq_some_getLast hne)]

theorem trimStart_append (hfront : ∀ c ∈ front, isBlank c = true) :
    trimStart (front ++ cs) = trimStart cs :=
  List.dropWhile_append_of_pos hfront

theorem trimEnd_append (hback : ∀ c ∈ back, isBlank c = true) : trimEnd (cs ++ back) = trimEnd cs := by
  rw [trimEnd, trimEnd, List.reverse_append,
    List.dropWhile_append_of_pos fun c hc => hback c (List.mem_reverse.1 hc)]

theorem first_trimStart {c : Char} (hfirst : (trimStart cs).head? = some c) : isBlank c = false := by
  have hkept := List.head?_dropWhile_not isBlank cs
  rw [trimStart] at hfirst
  rwa [hfirst] at hkept

theorem last_trimEnd {c : Char} (hlast : (trimEnd cs).getLast? = some c) : isBlank c = false := by
  rw [trimEnd, List.getLast?_reverse] at hlast
  exact @first_trimStart cs.reverse c hlast

theorem exists_trimEnd (cs : List Char) :
    ∃ back, cs = trimEnd cs ++ back ∧ ∀ c ∈ back, isBlank c = true :=
  ⟨cs.rtakeWhile isBlank, List.rdropWhile_append_rtakeWhile.symm,
    fun _ hc => List.mem_rtakeWhile_imp hc⟩

theorem head_trimEnd {c : Char} (hfirst : (trimEnd cs).head? = some c) : cs.head? = some c := by
  obtain ⟨back, hback, -⟩ := exists_trimEnd cs
  rw [hback, List.head?_append, hfirst, Option.some_or]

theorem strips_trim (cs : List Char) : Strips cs (trim cs) where
  ends := by
    obtain ⟨back, hback, hblank⟩ := exists_trimEnd (trimStart cs)
    refine ⟨cs.takeWhile isBlank, back, ?_, fun c hc => List.mem_takeWhile_imp hc, hblank⟩
    rw [List.append_assoc, trim, ← hback]
    exact List.takeWhile_append_dropWhile.symm
  first _ hfirst := first_trimStart (head_trimEnd hfirst)
  last _ hlast := last_trimEnd hlast

/-- What is left of a text does not depend on how the blanks are taken off. -/
theorem Strips.trim_eq (h : Strips cs core) : trim cs = core := by
  obtain ⟨⟨front, back, rfl, hfront, hback⟩, hfirst, hlast⟩ := h
  rw [trim, List.append_assoc, trimStart_append hfront]
  by_cases hnil : core = []
  · have hnone : trimStart back = [] := List.dropWhile_eq_nil_iff.2 hback
    rw [hnil, List.nil_append, hnone]
    rfl
  · have hstart : trimStart (core ++ back) = core ++ back := by
      refine trimStart_of_first fun c hc => hfirst c ?_
      rwa [List.head?_append_of_ne_nil _ hnil] at hc
    rw [hstart, trimEnd_append hback, trimEnd_of_last hlast]

theorem trim_of_ends (hfirst : ∀ c, cs.head? = some c → isBlank c = false)
    (hlast : ∀ c, cs.getLast? = some c → isBlank c = false) : trim cs = cs := by
  rw [trim, trimStart_of_first hfirst, trimEnd_of_last hlast]

end

end Text

/-! ## Numbers of 64 bits -/

namespace Text.Decimal

variable {c : Char} {cs sign digits : List Char} {n : Nat}

theorem natural?_eq_some_iff :
    natural? cs = some n ↔ cs ≠ [] ∧ (∀ c ∈ cs, isDigit c = true) ∧ value cs = n := by
  simp [natural?, and_assoc]

theorem exists_unsigned64?_eq (cs : List Char) :
    ∃ sign digits, cs = sign ++ digits ∧ (sign = [] ∨ sign = ['+']) ∧
      unsigned64? cs = (natural? digits).filter (· < UInt64.size) := by
  unfold unsigned64?
  split
  · rename_i rest
    exact ⟨['+'], rest, rfl, .inr rfl, rfl⟩
  · exact ⟨[], cs, rfl, .inl rfl, rfl⟩

theorem unsigned64?_append (hsign : sign = [] ∨ sign = ['+'])
    (hdigits : ∀ c ∈ digits, isDigit c = true) :
    unsigned64? (sign ++ digits) = (natural? digits).filter (· < UInt64.size) := by
  rcases hsign with rfl | rfl
  · unfold unsigned64?
    split
    · rename_i rest hplus
      obtain rfl : digits = '+' :: rest := by simpa using hplus
      exact absurd (hdigits '+' List.mem_cons_self) (by decide)
    · rfl
  · rfl

/-- A number is spelled with at most one plus sign and with digits. -/
theorem unsigned64?_eq_some_iff :
    unsigned64? cs = some n ↔ n < UInt64.size ∧ ∃ sign digits, cs = sign ++ digits ∧
      (sign = [] ∨ sign = ['+']) ∧ digits ≠ [] ∧ (∀ c ∈ digits, isDigit c = true) ∧
      value digits = n := by
  constructor
  · intro hread
    obtain ⟨sign, digits, hcs, hsign, heq⟩ := exists_unsigned64?_eq cs
    rw [heq, Option.filter_eq_some_iff, natural?_eq_some_iff, decide_eq_true_eq] at hread
    obtain ⟨⟨hne, hdigits, hvalue⟩, hsmall⟩ := hread
    exact ⟨hsmall, sign, digits, hcs, hsign, hne, hdigits, hvalue⟩
  · rintro ⟨hsmall, sign, digits, rfl, hsign, hne, hdigits, hvalue⟩
    rw [unsigned64?_append hsign hdigits, Option.filter_eq_some_iff, natural?_eq_some_iff,
      decide_eq_true_eq]
    exact ⟨⟨hne, hdigits, hvalue⟩, hsmall⟩

theorem isBlank_of_isDigit (hdigit : isDigit c = true) : isBlank c = false := by
  have hrange : 48 ≤ c.toNat ∧ c.toNat ≤ 57 := by
    simpa [isDigit, Char.le_def, UInt32.le_iff_toNat_le] using hdigit
  simp only [isBlank, blankRanges, List.any_cons, List.any_nil, Bool.or_false, Bool.or_eq_false_iff,
    Bool.and_eq_false_iff, decide_eq_false_iff_not]
  omega

end Text.Decimal

/-! ## The grammar -/

namespace Interval

open Text (isBlank Strips)
open Text.Decimal (isDigit value)

/-- How the unit of an interval is written, and the seconds in it. -/
inductive Suffix : List Char → Nat → Prop
  | bare : Suffix [] 1
  | second {blanks : List Char} (hblanks : ∀ c ∈ blanks, isBlank c = true) : Suffix (blanks ++ ['s']) 1
  | minute {blanks : List Char} (hblanks : ∀ c ∈ blanks, isBlank c = true) : Suffix (blanks ++ ['m']) 60
  | hour {blanks : List Char} (hblanks : ∀ c ∈ blanks, isBlank c = true) : Suffix (blanks ++ ['h']) 3600

/-- How an interval of `n` units of `u` seconds is written. -/
inductive Spelling (n u : Nat) : List Char → Prop
  | mk {sign digits unit : List Char} (hsign : sign = [] ∨ sign = ['+']) (hne : digits ≠ [])
      (hdigits : ∀ c ∈ digits, isDigit c = true) (hvalue : value digits = n) (hunit : Suffix unit u) :
      Spelling n u (sign ++ digits ++ unit)

/-- The characters of a text, each with the byte at which it begins. -/
def placed (start : Nat) : List Char → List (Nat × Char)
  | [] => []
  | c :: rest => (start, c) :: placed (start + c.utf8Size) rest

section

variable {c : Char} {cs core blanks number : List Char} {n u start i : Nat}

theorem unitSeconds?_eq_some_iff :
    unitSeconds? c = some u ↔ c = 's' ∧ u = 1 ∨ c = 'm' ∧ u = 60 ∨ c = 'h' ∧ u = 3600 := by
  unfold unitSeconds?
  split_ifs <;> simp_all [eq_comm]

theorem unitSeconds?_of_isDigit (hdigit : isDigit c = true) : unitSeconds? c = none := by
  by_contra hsome
  obtain ⟨u, hunit⟩ := Option.ne_none_iff_exists'.1 hsome
  rcases unitSeconds?_eq_some_iff.1 hunit with ⟨rfl, -⟩ | ⟨rfl, -⟩ | ⟨rfl, -⟩ <;> cases hdigit

theorem suffix_append (hunit : unitSeconds? c = some u) (hblanks : ∀ c ∈ blanks, isBlank c = true) :
    Suffix (blanks ++ [c]) u := by
  rcases unitSeconds?_eq_some_iff.1 hunit with ⟨rfl, rfl⟩ | ⟨rfl, rfl⟩ | ⟨rfl, rfl⟩
  · exact .second hblanks
  · exact .minute hblanks
  · exact .hour hblanks

/-- A unit is left out, or a letter behind blanks. -/
theorem Suffix.cases_letter {unit : List Char} (h : Suffix unit u) :
    unit = [] ∧ u = 1 ∨ ∃ blanks c, unit = blanks ++ [c] ∧ unitSeconds? c = some u ∧
      ∀ c ∈ blanks, isBlank c = true := by
  cases h with
  | bare => exact .inl ⟨rfl, rfl⟩
  | second hblanks => exact .inr ⟨_, 's', rfl, rfl, hblanks⟩
  | minute hblanks => exact .inr ⟨_, 'm', rfl, rfl, hblanks⟩
  | hour hblanks => exact .inr ⟨_, 'h', rfl, rfl, hblanks⟩

theorem splitUnit_append (hunit : unitSeconds? c = some u) :
    splitUnit (number ++ [c]) = (number, u) := by
  simp [splitUnit, hunit]

theorem splitUnit_of_none (hunit : cs.getLast?.bind unitSeconds? = none) : splitUnit cs = (cs, 1) := by
  simp [splitUnit, hunit]

/-- Either a letter is split off at the end, or nothing. -/
theorem splitUnit_cases (cs : List Char) :
    (∃ number c u, cs = number ++ [c] ∧ unitSeconds? c = some u ∧ splitUnit cs = (number, u)) ∨
      splitUnit cs = (cs, 1) := by
  cases hunit : cs.getLast?.bind unitSeconds? with
  | none => exact .inr (splitUnit_of_none hunit)
  | some u =>
      obtain ⟨c, hlast, hc⟩ := Option.bind_eq_some_iff.1 hunit
      obtain ⟨number, rfl⟩ := List.getLast?_eq_some_iff.1 hlast
      exact .inl ⟨number, c, u, rfl, hc, splitUnit_append hc⟩

/-- Blanks behind a number are not part of it. -/
theorem strips_number {sign digits : List Char} (hsign : sign = [] ∨ sign = ['+'])
    (hne : digits ≠ []) (hdigits : ∀ c ∈ digits, isDigit c = true)
    (hblanks : ∀ c ∈ blanks, isBlank c = true) :
    Strips (sign ++ digits ++ blanks) (sign ++ digits) where
  ends := ⟨[], blanks, rfl, by simp, hblanks⟩
  first c hfirst := by
    rcases hsign with rfl | rfl
    · exact Text.Decimal.isBlank_of_isDigit (hdigits c (List.mem_of_head? hfirst))
    · obtain rfl : '+' = c := Option.some.inj hfirst
      rfl
  last c hlast := by
    rw [List.getLast?_append_of_ne_nil _ hne] at hlast
    exact Text.Decimal.isBlank_of_isDigit (hdigits c (List.mem_of_getLast? hlast))

/-- What is read off a text without blanks at its ends is its spelling. -/
theorem reads_iff (hstrips : Strips cs core) :
    Text.Decimal.unsigned64? (Text.trim (splitUnit core).1) = some n ∧ (splitUnit core).2 = u ↔
      n < UInt64.size ∧ Spelling n u core := by
  constructor
  · rw [Text.Decimal.unsigned64?_eq_some_iff]
    rintro ⟨⟨hsmall, sign, digits, hnumber, hsign, hne, hdigits, hvalue⟩, rfl⟩
    refine ⟨hsmall, ?_⟩
    rcases splitUnit_cases core with ⟨number, c, u, rfl, hc, hsplit⟩ | hsplit
    · rw [hsplit] at hnumber ⊢
      have hstart : Text.trimStart number = number := by
        refine Text.trimStart_of_first fun d hd => hstrips.first d ?_
        rw [List.head?_append, hd, Option.some_or]
      obtain ⟨blanks, hback, hblanks⟩ := Text.exists_trimEnd number
      rw [Text.trim, hstart] at hnumber
      rw [hback, hnumber, List.append_assoc (sign ++ digits)]
      exact .mk hsign hne hdigits hvalue (suffix_append hc hblanks)
    · rw [hsplit] at hnumber ⊢
      rw [Text.trim_of_ends hstrips.first hstrips.last] at hnumber
      rw [hnumber, ← List.append_nil (sign ++ digits)]
      exact .mk hsign hne hdigits hvalue .bare
  · rintro ⟨hsmall, ⟨hsign, hne, hdigits, hvalue, hunit⟩⟩
    rename_i sign digits unit
    rw [Text.Decimal.unsigned64?_eq_some_iff]
    rcases hunit.cases_letter with ⟨rfl, rfl⟩ | ⟨blanks, c, rfl, hc, hblanks⟩
    · have hnone : (sign ++ digits).getLast?.bind unitSeconds? = none := by
        rw [List.getLast?_append_of_ne_nil _ hne, Option.bind_eq_none_iff]
        exact fun c hlast => unitSeconds?_of_isDigit (hdigits c (List.mem_of_getLast? hlast))
      have hplain : Text.trim (sign ++ digits ++ []) = sign ++ digits :=
        (strips_number hsign hne hdigits (by simp)).trim_eq
      rw [List.append_nil] at hplain ⊢
      rw [splitUnit_of_none hnone]
      exact ⟨⟨hsmall, sign, digits, hplain, hsign, hne, hdigits, hvalue⟩, rfl⟩
    · rw [← List.append_assoc, splitUnit_append hc]
      exact ⟨⟨hsmall, sign, digits, (strips_number hsign hne hdigits hblanks).trim_eq, hsign, hne,
        hdigits, hvalue⟩, rfl⟩

theorem parse_of_spelling {s : String} (h : n < UInt64.size ∧ Spelling n u (Text.trim s.toList)) :
    parse s = if n * u < UInt64.size then .ok (n * u)
      else .error (.overflow (String.ofList (Text.trim s.toList))) := by
  obtain ⟨hread, hunit⟩ := (reads_iff (Text.strips_trim s.toList)).2 h
  simp only [parse, hread, hunit]

theorem parse_of_no_spelling {s : String}
    (h : ¬ ∃ n u, n < UInt64.size ∧ Spelling n u (Text.trim s.toList)) :
    parse s = .error (.invalid (String.ofList (Text.trim s.toList))) := by
  have hnone : Text.Decimal.unsigned64? (Text.trim (splitUnit (Text.trim s.toList)).1) = none := by
    by_contra hsome
    obtain ⟨n, hread⟩ := Option.ne_none_iff_exists'.1 hsome
    exact h ⟨n, _, (reads_iff (Text.strips_trim s.toList)).1 ⟨hread, rfl⟩⟩
  simp only [parse, hnone]

theorem parse_eq_ok_iff {t : String} {seconds : Nat} :
    parse t = .ok seconds ↔ ∃ n u, Spelling n u (Text.trim t.toList) ∧ n < UInt64.size ∧
      n * u < UInt64.size ∧ n * u = seconds := by
  constructor
  · intro hparse
    by_cases hspelled : ∃ n u, n < UInt64.size ∧ Spelling n u (Text.trim t.toList)
    · obtain ⟨n, u, hspelling⟩ := hspelled
      rw [parse_of_spelling hspelling] at hparse
      split at hparse
      · rename_i hfits
        exact ⟨n, u, hspelling.2, hspelling.1, hfits, Except.ok.inj hparse⟩
      · cases hparse
    · rw [parse_of_no_spelling hspelled] at hparse
      cases hparse
  · rintro ⟨n, u, hspelling, hsmall, hfits, rfl⟩
    rw [parse_of_spelling ⟨hsmall, hspelling⟩, if_pos hfits]

theorem parse_eq_overflow_iff {t : String} :
    parse t = .error (.overflow (String.ofList (Text.trim t.toList))) ↔
      ∃ n u, Spelling n u (Text.trim t.toList) ∧ n < UInt64.size ∧ UInt64.size ≤ n * u := by
  constructor
  · intro hparse
    by_cases hspelled : ∃ n u, n < UInt64.size ∧ Spelling n u (Text.trim t.toList)
    · obtain ⟨n, u, hspelling⟩ := hspelled
      rw [parse_of_spelling hspelling] at hparse
      split at hparse
      · cases hparse
      · rename_i hfits
        exact ⟨n, u, hspelling.2, hspelling.1, Nat.le_of_not_lt hfits⟩
    · rw [parse_of_no_spelling hspelled] at hparse
      cases hparse
  · rintro ⟨n, u, hspelling, hsmall, hlarge⟩
    rw [parse_of_spelling ⟨hsmall, hspelling⟩, if_neg (Nat.not_lt.2 hlarge)]

theorem parse_eq_invalid_iff {t : String} :
    parse t = .error (.invalid (String.ofList (Text.trim t.toList))) ↔
      ¬ ∃ n u, Spelling n u (Text.trim t.toList) ∧ n < UInt64.size := by
  constructor
  · rintro hparse ⟨n, u, hspelling, hsmall⟩
    rw [parse_of_spelling ⟨hsmall, hspelling⟩] at hparse
    split at hparse <;> cases hparse
  · intro hnone
    refine parse_of_no_spelling ?_
    rintro ⟨n, u, hsmall, hspelling⟩
    exact hnone ⟨n, u, hspelling, hsmall⟩

/-! ## Where a text is cut -/

theorem placed_append (start : Nat) (cs : List Char) (c : Char) :
    placed start (cs ++ [c]) = placed start cs ++ [(start + (String.ofList cs).utf8ByteSize, c)] := by
  induction cs generalizing start with
  | nil => simp [placed]
  | cons d rest ih =>
      rw [List.cons_append, placed, placed, ih, List.cons_append, String.ofList_cons,
        String.utf8ByteSize_append, String.utf8ByteSize_singleton, Nat.add_assoc]

/-- The byte at which the last character begins ends the text in front of that character. -/
theorem last_placed (h : (placed 0 cs).getLast? = some (i, c)) :
    ∃ number, cs = number ++ [c] ∧ i = (String.ofList number).utf8ByteSize := by
  rcases List.eq_nil_or_concat cs with rfl | ⟨number, d, rfl⟩
  · cases h
  · rw [List.concat_eq_append, placed_append, List.getLast?_concat, Option.some_inj,
      Prod.mk.injEq] at h
    obtain ⟨rfl, rfl⟩ := h
    exact ⟨number, List.concat_eq_append, by simp⟩

/-- What stands in front of the letter of a unit is what stands in front of its first byte, and a
text may be cut there. -/
theorem splitUnit_placed (h : (placed 0 cs).getLast? = some (i, c)) :
    (String.Pos.Raw.mk i).IsValid (String.ofList cs) ∧
      ∀ u, unitSeconds? c = some u →
        (String.ofList cs).toByteArray.extract 0 i =
          (String.ofList (splitUnit cs).1).toByteArray := by
  obtain ⟨number, rfl, rfl⟩ := last_placed h
  rw [String.ofList_append]
  refine ⟨String.Pos.Raw.isValid_iff_exists_append.2 ⟨_, _, rfl, rfl⟩, fun u hunit => ?_⟩
  rw [splitUnit_append hunit, String.toByteArray_append]
  exact ByteArray.extract_append_eq_left String.size_toByteArray.symm

end

end Interval

/-! ## Intervals that are written as numbers -/

namespace Json

variable {n : Nat}

theorem integer?_nat (n : Nat) : (nat n).integer? = some (n : Int) := by
  have hread : Text.Decimal.natural? (Nat.toDigits 10 n) = some n :=
    Text.Decimal.natural?_eq_some_iff.2
      ⟨Nat.toDigits_ne_nil, Toml.isDigit_of_mem_toDigits, Toml.value_toDigits n⟩
  unfold nat integer?
  split
  · rename_i hminus
    have hdigit := Toml.isDigit_of_mem_toDigits (n := n) '-' (by simp_all)
    cases hdigit
  · rename_i hspelling
    obtain rfl := (number.inj hspelling).symm
    rw [hread]
    rfl
  · rename_i hother
    exact absurd rfl (hother _)

theorem wholePart_toDigits (n : Nat) :
    wholePart (Nat.toDigits 10 n) = some (Nat.toDigits 10 n, []) := by
  by_cases hzero : n = 0
  · subst hzero
    decide
  · have hall := Toml.isDigit_of_mem_toDigits (n := n)
    have hword : (Nat.toDigits 10 n).takeWhile Text.Decimal.isDigit = Nat.toDigits 10 n :=
      List.takeWhile_eq_self_iff.2 hall
    have hrest : (Nat.toDigits 10 n).dropWhile Text.Decimal.isDigit = [] :=
      List.dropWhile_eq_nil_iff.2 hall
    unfold wholePart
    split
    · rename_i rest hdigits
      exact absurd (hdigits ▸ rfl) (Toml.head_toDigits hzero)
    · simp [digits1, hword, hrest, Nat.toDigits_ne_nil]

theorem readNumber_toDigits (n : Nat) :
    readNumber (Nat.toDigits 10 n) = some (Nat.toDigits 10 n, []) := by
  have hwhole := wholePart_toDigits n
  obtain ⟨first, later, hdigits, hfirst⟩ := Toml.exists_toDigits n
  have hminus : first ≠ '-' := Toml.ne_of_eq_true hfirst rfl
  rw [hdigits] at hwhole ⊢
  simp [readNumber, hminus, hwhole, fractionPart, exponentPart]

section

variable {first : Char} {later : List Char}

theorem skipSpace_digit (hfirst : Text.Decimal.isDigit first = true) :
    skipSpace (first :: later) = first :: later := by
  have hother {c : Char} (hc : Text.Decimal.isDigit c = false) : first ≠ c :=
    Toml.ne_of_eq_true hfirst hc
  have hblank : isSpace first = false := by
    simp [isSpace, hother (c := ' ') rfl, hother (c := '\n') rfl, hother (c := '\t') rfl,
      hother (c := '\r') rfl]
  simp [skipSpace, hblank]

/-- What begins with a digit is a number. -/
theorem readValue_digit (k : Nat) (hfirst : Text.Decimal.isDigit first = true) :
    readValue (k + 1) (first :: later) =
      (readNumber (first :: later)).map fun (spelling, rest) => (.number spelling, rest) := by
  have hother {c : Char} (hc : Text.Decimal.isDigit c = false) : first ≠ c :=
    Toml.ne_of_eq_true hfirst hc
  rw [readValue, skipSpace_digit hfirst]
  split
  case h_1 heq | h_2 heq | h_3 heq | h_4 heq | h_5 heq | h_6 heq =>
    exact absurd (List.cons.inj heq).1 (hother rfl)
  case h_7 => rfl

end

/-- A number is read back from its document. -/
theorem parse_print_nat (n : Nat) : parse (print (nat n)) = some (nat n) := by
  have hnumber := readNumber_toDigits n
  have hprint : (print (nat n)).toList = Nat.toDigits 10 n := by
    rw [print, nat, printValue, String.toList_ofList]
  obtain ⟨first, later, hdigits, hfirst⟩ := Toml.exists_toDigits n
  have hvalue (k : Nat) : readValue (k + 1) (Nat.toDigits 10 n) = some (nat n, []) := by
    rw [hdigits, readValue_digit k hfirst, ← hdigits, hnumber]
    rfl
  rw [parse, hprint]
  simp only [hvalue (2 * (Nat.toDigits 10 n).length + 1), bind, Option.bind]
  rfl

end Json

theorem Datum.ofJson_nat {n : Nat} (h : n < 2 ^ 64) : Datum.ofJson (.nat n) = .integer n :=
  Datum.ofJson_number (Json.integer?_nat n) (by omega) (by omega)

namespace Interval

/-- A text is read as an interval exactly if it has a spelling, blanks at its ends apart, whose number
and whose seconds fit into 64 bits. If only the seconds do not fit, that is the error; every other
text is no interval. The letter of the unit is cut off between two characters. An interval that is
written as a number of seconds is read back, whatever it is. -/
theorem intervals_exact :
    (∀ t : String, ∃ core, Text.Strips t.toList core ∧
      (∀ seconds, parse t = .ok seconds ↔
        ∃ n u, Spelling n u core ∧ n < 2 ^ 64 ∧ n * u < 2 ^ 64 ∧ n * u = seconds) ∧
      (parse t = .error (.overflow (String.ofList core)) ↔
        ∃ n u, Spelling n u core ∧ n < 2 ^ 64 ∧ 2 ^ 64 ≤ n * u) ∧
      (parse t = .error (.invalid (String.ofList core)) ↔
        ¬ ∃ n u, Spelling n u core ∧ n < 2 ^ 64) ∧
      ∀ i c, (placed 0 core).getLast? = some (i, c) →
        (String.Pos.Raw.mk i).IsValid (String.ofList core) ∧
        ∀ u, unitSeconds? c = some u →
          (String.ofList core).toByteArray.extract 0 i =
            (String.ofList (splitUnit core).1).toByteArray) ∧
    ∀ d : UInt64, (Datum.integer d.toNat).interval = .ok d ∧
      (Json.parse (Json.print (.nat d.toNat))).map (fun v => (Datum.ofJson v).interval) =
        some (.ok d) := by
  refine ⟨fun t => ⟨Text.trim t.toList, Text.strips_trim t.toList, fun seconds => parse_eq_ok_iff,
    parse_eq_overflow_iff, parse_eq_invalid_iff, fun i c => splitUnit_placed⟩, fun d => ⟨?_, ?_⟩⟩
  · exact Datum.unsigned64_integer d
  · rw [Json.parse_print_nat, Option.map_some, Datum.ofJson_nat d.toNat_lt]
    exact congrArg some (Datum.unsigned64_integer d)

example : parse " +0090 m\n" = .ok 5400 := by decide +kernel

end Interval

end SessionGateway
