import Mathlib.Tactic.SplitIfs
import SessionGateway.Toml.Printer

/-!
# Written strings are read back

A string is written in one of four forms. Each character of a form with escapes is spelled on its
own, so what remains are the delimiters: a long form holds runs of its quotes, and the reader must
not take the end of a run for the closing ones.
-/

namespace SessionGateway.Toml

variable {c : Char} {cs spelling text rest : List Char} {run : Nat}

@[simp] theorem push_some (c : Char) (text rest : List Char) :
    push c (some (text, rest)) = some (c :: text, rest) := rfl

theorem ne_of_eq_true {p : Char → Bool} {x : Char} (h : p c = true) (hx : p x = false) : c ≠ x := by
  rintro rfl
  rw [h] at hx
  cases hx

theorem isSpace_eq_false {p : Char → Bool} (h : p c = true) (hblank : p ' ' = false)
    (htab : p '\t' = false) : isSpace c = false := by
  simp [isSpace, ne_of_eq_true h hblank, ne_of_eq_true h htab]

/-! ## Escapes -/

theorem hex_upperDigit : ∀ n < 16, Text.Hex.value? (upperDigit n) = some n := by
  decide

theorem scalarOfHex_upperDigit (h : c.toNat < 256) :
    scalarOfHex? ['0', '0', upperDigit (c.toNat / 16), upperDigit (c.toNat % 16)] = some c := by
  have hhigh := hex_upperDigit (c.toNat / 16) (by omega)
  have hlow := hex_upperDigit (c.toNat % 16) (by omega)
  have hzero : Text.Hex.value? '0' = some 0 := by decide
  have hnumber : 16 * (c.toNat / 16) + c.toNat % 16 = c.toNat := by omega
  have hscalar : scalar? c.toNat = some c := by
    rw [scalar?, if_pos (Or.inl (by omega)), Char.ofNat_toNat]
  simp [scalarOfHex?, Text.Hex.number?, hzero, hhigh, hlow, hnumber, hscalar]

/-- How a character can stand in a form with escapes. -/
inductive Spelled (c : Char) : List Char → Prop
  | plain (hprintable : isPrintable c = true) (hquote : c ≠ '"') (hescape : c ≠ '\\') :
      Spelled c [c]
  | letter {x : Char} (hescape : escape? x = some c) : Spelled c ['\\', x]
  | code {a b : Char} (hnumber : scalarOfHex? ['0', '0', a, b] = some c) :
      Spelled c ['\\', 'u', '0', '0', a, b]

theorem toNat_lt_of_isControl (h : isControl c = true) : c.toNat < 256 := by
  unfold isControl at h
  simp only [Bool.or_eq_true, Bool.and_eq_true, decide_eq_true_eq] at h
  omega

theorem isPrintable_of_not_isControl (h : isControl c = false) (hbreak : c ≠ '\n') :
    isPrintable c = true := by
  unfold isControl at h
  unfold isPrintable
  simp only [Bool.or_eq_false_iff, Bool.and_eq_false_iff, decide_eq_false_iff_not] at h
  simp only [Bool.or_eq_true, Bool.and_eq_true, decide_eq_true_eq]
  by_cases htab : c = '\t'
  · exact .inl htab
  · refine .inr ⟨?_, h.2⟩
    rcases h.1 with (h | h) | h
    · omega
    · exact absurd htab h
    · exact absurd hbreak h

theorem spelled_escapeChar (hquote : c ≠ '"') (hbreak : c ≠ '\n') :
    Spelled c (escapeChar c) := by
  unfold escapeChar
  split_ifs with h₁ h₂ h₃ h₄ hescape hcontrol
  · subst h₁; exact .letter rfl
  · subst h₂; exact .letter rfl
  · subst h₃; exact .letter rfl
  · subst h₄; exact .letter rfl
  · subst hescape; exact .letter rfl
  · exact .code (scalarOfHex_upperDigit (toNat_lt_of_isControl hcontrol))
  · exact .plain (isPrintable_of_not_isControl (by simpa using hcontrol) hbreak) hquote hescape

theorem ne_of_escape {x : Char} (h : escape? x = some c) (rest : List Char) :
    x ≠ 'u' ∧ x ≠ 'U' ∧ endsLine (x :: rest) = false := by
  unfold escape? at h
  split_ifs at h with h₁ h₂ h₃ h₄ h₅ h₆ h₇ <;> subst x <;>
    exact ⟨by decide, by decide, rfl⟩

theorem ne_of_isPrintable (h : isPrintable c = true) : c ≠ '\n' ∧ c ≠ '\r' :=
  ⟨ne_of_eq_true h rfl, ne_of_eq_true h rfl⟩

theorem Spelled.head (h : Spelled c spelling) :
    ∃ first later, spelling = first :: later ∧ first ≠ '"' ∧ first ≠ '\n' ∧ first ≠ '\r' := by
  cases h with
  | plain hprintable hquote hescape =>
      exact ⟨c, [], rfl, hquote, ne_of_isPrintable hprintable⟩
  | letter | code => exact ⟨'\\', _, rfl, by decide, by decide, by decide⟩

theorem basicString_spelled (h : Spelled c spelling) (rest : List Char) :
    basicString (spelling ++ rest) = push c (basicString rest) := by
  cases h with
  | plain hprintable hquote hescape => simp [basicString, hescape, hprintable]
  | letter hescape =>
      obtain ⟨hshort, hlong, -⟩ := ne_of_escape hescape []
      simp [basicString, hshort, hlong, hescape]
  | code hnumber => simp [basicString, hnumber]

theorem longBasicBody_spelled (h : Spelled c spelling) (rest : List Char) :
    longBasicBody false (spelling ++ rest) = push c (longBasicBody false rest) := by
  cases h with
  | plain hprintable hquote hescape =>
      obtain ⟨hbreak, hreturn⟩ := ne_of_isPrintable hprintable
      simp [longBasicBody, hquote, hescape, hprintable, hbreak, hreturn]
  | letter hescape =>
      obtain ⟨hshort, hlong, hends⟩ := ne_of_escape hescape rest
      simp [longBasicBody, hshort, hlong, hends, hescape]
  | code hnumber => simp [longBasicBody, hnumber]

theorem spelled_quote : Spelled '"' ['\\', '"'] :=
  .letter rfl

theorem basicBody_cons (c : Char) (cs : List Char) :
    ∃ spelling, Spelled c spelling ∧ basicBody (c :: cs) = spelling ++ basicBody cs := by
  refine ⟨_, ?_, List.flatMap_cons⟩
  split_ifs with hquote hbreak
  · exact hquote ▸ spelled_quote
  · exact hbreak ▸ .letter rfl
  · exact spelled_escapeChar hquote hbreak

theorem basicString_basicBody (cs rest : List Char) :
    basicString (basicBody cs ++ '"' :: rest) = some (cs, rest) := by
  induction cs with
  | nil => rfl
  | cons c cs ih =>
      obtain ⟨spelling, hspelled, hbody⟩ := basicBody_cons c cs
      rw [hbody, List.append_assoc, basicString_spelled hspelled, ih, push_some]

theorem literalString_append (h : ∀ c ∈ cs, isPrintable c = true ∧ c ≠ '\'') (rest : List Char) :
    literalString (cs ++ '\'' :: rest) = some (cs, rest) := by
  induction cs with
  | nil => rfl
  | cons c cs ih =>
      obtain ⟨hprintable, hquote⟩ := h c List.mem_cons_self
      have hlater := ih fun x hx => h x (List.mem_cons_of_mem _ hx)
      simp [literalString, hprintable, hlater]

/-! ## Runs of quotes -/

/-- A text as it stands behind `run` quotes in a long form: quotes of the text are spelled as they
are while the run is short enough, and every other character is spelled on its own. -/
inductive Spells (quote : Char) (reader : List Char → Option (List Char × List Char)) :
    Nat → List Char → List Char → Prop
  | nil {run : Nat} : Spells quote reader run [] []
  | quote {run : Nat} {text cs : List Char} (hrun : run < 2)
      (hlater : Spells quote reader (run + 1) text cs) :
      Spells quote reader run (quote :: text) (quote :: cs)
  | char {run : Nat} {c first : Char} {spelling text cs : List Char} (hfirst : first ≠ quote)
      (hread : ∀ rest, reader (first :: spelling ++ rest) = push c (reader rest))
      (hlater : Spells quote reader 0 text cs) :
      Spells quote reader run (first :: spelling ++ text) (c :: cs)

/-- A reader that ends at three quotes and takes up to two more of them for a part of the text. -/
structure Delimits (quote : Char) (reader : List Char → Option (List Char × List Char)) : Prop where
  single : ∀ c rest, c ≠ quote → reader (quote :: c :: rest) = push quote (reader (c :: rest))
  double : ∀ c rest, c ≠ quote →
    reader (quote :: quote :: c :: rest) = push quote (reader (quote :: c :: rest))
  closing : ∀ run ≤ 2, ∀ rest, rest.head? ≠ some quote →
    reader (List.replicate run quote ++ (quote :: quote :: quote :: rest)) =
      some (List.replicate run quote, rest)

section

variable {quote : Char} {reader : List Char → Option (List Char × List Char)}

theorem Spells.self (hquote : c ≠ quote) (hread : ∀ rest, reader (c :: rest) = push c (reader rest))
    (hlater : Spells quote reader 0 text cs) : Spells quote reader run (c :: text) (c :: cs) :=
  @Spells.char quote reader run c c [] text cs hquote hread hlater

theorem Delimits.inside (h : Delimits quote reader) (hrun : run ≤ 2) (hc : c ≠ quote)
    (hread : reader (c :: rest) = some (cs, text)) :
    reader (List.replicate run quote ++ c :: rest) =
      some (List.replicate run quote ++ cs, text) := by
  have hone := h.single c rest hc
  have htwo := h.double c rest hc
  rw [hread, push_some] at hone
  rw [hone, push_some] at htwo
  have hcases : run = 0 ∨ run = 1 ∨ run = 2 := by omega
  rcases hcases with rfl | rfl | rfl
  · exact hread
  · exact hone
  · exact htwo

theorem Spells.reads (hdelimits : Delimits quote reader) (h : Spells quote reader run text cs)
    (hrun : run ≤ 2) (hrest : rest.head? ≠ some quote) :
    reader (List.replicate run quote ++ (text ++ (quote :: quote :: quote :: rest))) =
      some (List.replicate run quote ++ cs, rest) := by
  -- A quote of the text joins the run in front of it; any other character ends that run.
  induction h with
  | nil => simpa using hdelimits.closing _ hrun rest hrest
  | @quote run text cs hshort _ ih =>
      have hlater := ih (by omega)
      rw [List.replicate_succ', List.append_assoc, List.append_assoc] at hlater
      exact hlater
  | @char run c first spelling text cs hfirst hread _ ih =>
      have hlater := ih (by omega)
      have hchar := hread (text ++ (quote :: quote :: quote :: rest))
      rw [List.replicate_zero, List.nil_append, List.nil_append] at hlater
      rw [hlater, push_some, List.cons_append] at hchar
      rw [List.append_assoc, List.cons_append]
      exact hdelimits.inside hrun hfirst hchar

end

theorem delimits_longBasicBody : Delimits '"' (longBasicBody false) := by
  constructor
  case single | double => intro c rest hc; simp [longBasicBody, hc, isPrintable]
  case closing =>
    intro run hrun rest hrest
    have hcases : run = 0 ∨ run = 1 ∨ run = 2 := by omega
    cases rest with
    | nil => rcases hcases with rfl | rfl | rfl <;> rfl
    | cons c rest =>
        have hc : c ≠ '"' := by simpa using hrest
        rcases hcases with rfl | rfl | rfl <;> simp [List.replicate, longBasicBody, hc]

theorem delimits_longLiteralBody : Delimits '\'' longLiteralBody := by
  constructor
  case single | double => intro c rest hc; simp [longLiteralBody, hc, isPrintable]
  case closing =>
    intro run hrun rest hrest
    have hcases : run = 0 ∨ run = 1 ∨ run = 2 := by omega
    cases rest with
    | nil => rcases hcases with rfl | rfl | rfl <;> rfl
    | cons c rest =>
        have hc : c ≠ '\'' := by simpa using hrest
        rcases hcases with rfl | rfl | rfl <;> simp [List.replicate, longLiteralBody, hc]

theorem Spelled.spells (h : Spelled c spelling)
    (hlater : Spells '"' (longBasicBody false) 0 text cs) :
    Spells '"' (longBasicBody false) run (spelling ++ text) (c :: cs) := by
  have hread := longBasicBody_spelled h
  obtain ⟨first, later, rfl, hfirst, -⟩ := h.head
  exact .char hfirst hread hlater

theorem spells_longBasicText (cs : List Char) (run : Nat) :
    Spells '"' (longBasicBody false) run (longBasicText run cs) cs := by
  induction cs generalizing run with
  | nil => exact .nil
  | cons c cs ih =>
      unfold longBasicText
      split_ifs with hquote hshort hbreak
      · subst hquote
        exact .quote hshort (ih (run + 1))
      · subst hquote
        exact spelled_quote.spells (ih 0)
      · subst hbreak
        exact .self (by decide) (fun rest => by simp [longBasicBody]) (ih 0)
      · exact (spelled_escapeChar hquote hbreak).spells (ih 0)

theorem le_longestRun (x : Char) (run : Nat) (cs : List Char) : run ≤ longestRun x run cs := by
  induction cs generalizing run with
  | nil => exact Nat.le_refl run
  | cons c cs ih =>
      unfold longestRun
      split_ifs with hsame
      · exact Nat.le_of_succ_le (ih (run + 1))
      · exact Nat.le_max_left _ _

/-- A text whose runs of quotes are short can stand in a long literal form. -/
theorem spells_self (hcontrol : ∀ c ∈ cs, isControl c = false)
    (hrun : longestRun '\'' run cs ≤ 2) : Spells '\'' longLiteralBody run cs cs := by
  induction cs generalizing run with
  | nil => exact .nil
  | cons c cs ih =>
      have hlater : ∀ c ∈ cs, isControl c = false := fun x hx =>
        hcontrol x (List.mem_cons_of_mem _ hx)
      unfold longestRun at hrun
      split_ifs at hrun with hquote
      · subst hquote
        have hshort := le_longestRun '\'' (run + 1) cs
        exact .quote (by omega) (ih hlater hrun)
      · have hc := hcontrol c List.mem_cons_self
        have hreturn : '\r' ≠ c := ne_of_eq_true (rfl : isControl '\r' = true) hc
        have hallowed : c = '\n' ∨ isPrintable c = true := by
          by_cases hbreak : c = '\n'
          · exact .inl hbreak
          · exact .inr (isPrintable_of_not_isControl hc hbreak)
        have hread : ∀ rest, longLiteralBody (c :: rest) = push c (longLiteralBody rest) := by
          intro rest
          simp [longLiteralBody, hreturn.symm, hquote, hallowed]
        exact .self hquote hread (ih hlater (by omega))

/-! ## Whole strings -/

/-- Whether a text can be written in a form: only the forms with escapes hold any text. -/
def StringForm.Holds (form : StringForm) (cs : List Char) : Prop :=
  match form with
  | .basic | .longBasic => True
  | .literal => ∀ c ∈ cs, isPrintable c = true ∧ c ≠ '\''
  | .longLiteral => (∀ c ∈ cs, isControl c = false) ∧ longestRun '\'' 0 cs ≤ 2

theorem not_mem_of_longestRun {x : Char} (h : longestRun x run cs = 0) : x ∉ cs := by
  induction cs generalizing run with
  | nil => exact List.not_mem_nil
  | cons c cs ih =>
      unfold longestRun at h
      split_ifs at h with hsame
      · have hle := le_longestRun x (run + 1) cs
        omega
      · have hlater : longestRun x 0 cs = 0 := by omega
        rw [List.mem_cons, not_or]
        exact ⟨Ne.symm hsame, ih hlater⟩

theorem holds_literal (hcontrol : cs.any isControl = false) (hbreak : cs.contains '\n' = false)
    (hquote : '\'' ∉ cs) : StringForm.literal.Holds cs := by
  intro c hc
  rw [List.any_eq_false] at hcontrol
  have hplain : isControl c = false := by simpa using hcontrol c hc
  refine ⟨isPrintable_of_not_isControl hplain ?_, ?_⟩
  · rintro rfl
    simp [hc] at hbreak
  · rintro rfl
    exact hquote hc

theorem holds_ofValue (cs : List Char) : (StringForm.ofValue cs).Holds cs := by
  unfold StringForm.ofValue
  simp only [Bool.and_eq_true, Bool.not_eq_true', beq_iff_eq]
  split_ifs with h₁ hliteral h₃ hlong h₅
  · trivial
  · exact holds_literal hliteral.1.1 hliteral.2 (not_mem_of_longestRun hliteral.1.2)
  · trivial
  · have hcontrol := List.any_eq_false.1 hlong.1
    exact ⟨fun c hc => by simpa using hcontrol c hc, by simpa using hlong.2⟩
  · trivial
  · trivial

theorem skipNewline_lead
    (h : ∀ first, text.head? = some first → first ≠ '\r' ∧ (first = '\n' → '\n' ∈ cs)) :
    skipNewline (leadBreak cs ++ text) = text := by
  unfold leadBreak
  split_ifs with hbreak
  · rfl
  · cases text with
    | nil => rfl
    | cons first later =>
        obtain ⟨hreturn, hsame⟩ := h first rfl
        have hfirst : first ≠ '\n' := fun heq => hbreak (by simpa using hsame heq)
        simp [skipNewline, newline?, hfirst, hreturn]

theorem skipNewline_longBasic (cs rest : List Char) :
    skipNewline (leadBreak cs ++ (longBasicText 0 cs ++ '"' :: rest)) =
      longBasicText 0 cs ++ '"' :: rest := by
  apply skipNewline_lead
  intro first hfirst
  cases cs with
  | nil =>
      obtain rfl : '"' = first := by simpa [longBasicText] using hfirst
      exact ⟨by decide, by decide⟩
  | cons c cs =>
      unfold longBasicText at hfirst
      split_ifs at hfirst with hquote hshort hbreak
      · obtain rfl : '"' = first := by simpa using hfirst
        exact ⟨by decide, fun heq => absurd heq (by decide)⟩
      · omega
      · obtain rfl : '\n' = first := by simpa using hfirst
        exact ⟨by decide, fun _ => hbreak ▸ List.mem_cons_self⟩
      · obtain ⟨head, later, hspelling, -, hnew, hreturn⟩ :=
          (spelled_escapeChar hquote hbreak).head
        obtain rfl : head = first := by simpa [hspelling] using hfirst
        exact ⟨hreturn, fun heq => absurd heq hnew⟩

theorem skipNewline_longLiteral (hcontrol : ∀ c ∈ cs, isControl c = false) (rest : List Char) :
    skipNewline (leadBreak cs ++ (cs ++ '\'' :: rest)) = cs ++ '\'' :: rest := by
  apply skipNewline_lead
  intro first hfirst
  cases cs with
  | nil =>
      obtain rfl : '\'' = first := by simpa using hfirst
      exact ⟨by decide, by decide⟩
  | cons c cs =>
      obtain rfl : c = first := by simpa using hfirst
      have hc := hcontrol c List.mem_cons_self
      have hreturn : '\r' ≠ c := ne_of_eq_true (rfl : isControl '\r' = true) hc
      exact ⟨hreturn.symm, fun heq => heq ▸ List.mem_cons_self⟩

/-- A reader tells a string on one line from a long one, because what stands behind a string does
not begin with a quote. -/
theorem string?_basic (cs : List Char) (hrest : rest.head? ≠ some '"') :
    string? ('"' :: (basicBody cs ++ '"' :: rest)) = some (cs, rest) := by
  have hshort : string? ('"' :: (basicBody cs ++ '"' :: rest)) =
      basicString (basicBody cs ++ '"' :: rest) := by
    cases cs with
    | nil => cases rest <;> simp_all [basicBody, string?]
    | cons c cs =>
        obtain ⟨spelling, hspelled, hbody⟩ := basicBody_cons c cs
        obtain ⟨first, later, rfl, hfirst, -⟩ := hspelled.head
        simp [hbody, string?, hfirst]
  rw [hshort, basicString_basicBody]

theorem string?_literal (h : StringForm.literal.Holds cs) (hrest : rest.head? ≠ some '\'') :
    string? ('\'' :: (cs ++ '\'' :: rest)) = some (cs, rest) := by
  have hshort : string? ('\'' :: (cs ++ '\'' :: rest)) = literalString (cs ++ '\'' :: rest) := by
    cases cs with
    | nil => cases rest <;> simp_all [string?]
    | cons c cs =>
        have hc : c ≠ '\'' := (h c List.mem_cons_self).2
        simp [string?, hc]
  rw [hshort, literalString_append h]

theorem string?_write (form : StringForm) (h : form.Holds cs) (hdouble : rest.head? ≠ some '"')
    (hsingle : rest.head? ≠ some '\'') : string? (form.write cs ++ rest) = some (cs, rest) := by
  cases form with
  | basic => simpa [StringForm.write] using string?_basic cs hdouble
  | literal => simpa [StringForm.write] using string?_literal h hsingle
  | longBasic =>
      have hread := (spells_longBasicText cs 0).reads delimits_longBasicBody (by omega) hdouble
      simpa [StringForm.write, string?, skipNewline_longBasic] using hread
  | longLiteral =>
      have hread := (spells_self h.1 h.2).reads delimits_longLiteralBody (by omega) hsingle
      simpa [StringForm.write, string?, skipNewline_longLiteral h.1] using hread

/-! ## First characters -/

def isQuote (c : Char) : Bool :=
  c = '"' || c = '\''

theorem writeString_head (s : String) :
    ∃ first later, writeString s = first :: later ∧ isQuote first = true := by
  unfold writeString
  cases StringForm.ofValue s.toList with
  | basic | longBasic => exact ⟨'"', _, rfl, rfl⟩
  | literal | longLiteral => exact ⟨'\'', _, rfl, rfl⟩

/-! ## Keys -/

theorem ofKey_holds (cs : List Char) : StringForm.ofKey cs = .basic ∨
    StringForm.ofKey cs = .literal ∧ StringForm.literal.Holds cs := by
  unfold StringForm.ofKey
  simp only [Bool.and_eq_true, Bool.not_eq_true']
  split_ifs with hbasic hliteral
  · exact .inl rfl
  · refine .inr ⟨rfl, fun c hc => ?_⟩
    have hplain : isControl c = false ∧ c ≠ '\n' := by
      simpa using List.any_eq_false.1 hliteral.1 c hc
    refine ⟨isPrintable_of_not_isControl hplain.1 hplain.2, ?_⟩
    rintro rfl
    simp [hc] at hliteral
  · exact .inl rfl

def startsKey (c : Char) : Bool :=
  isBareKeyChar c || isQuote c

theorem writeKey_head (key : String) :
    ∃ first later, writeKey key = first :: later ∧ startsKey first = true := by
  simp only [writeKey]
  split_ifs with hbare
  · obtain ⟨first, later, hkey⟩ := List.exists_cons_of_ne_nil hbare.1
    have hfirst := List.all_eq_true.1 hbare.2 first (by rw [hkey]; exact List.mem_cons_self)
    exact ⟨first, later, hkey, by rw [startsKey, hfirst]; rfl⟩
  · rcases ofKey_holds key.toList with hform | ⟨hform, -⟩ <;> rw [hform]
    · exact ⟨'"', _, rfl, rfl⟩
    · exact ⟨'\'', _, rfl, rfl⟩

theorem keyPart?_writeKey (key : String)
    (hrest : ∀ c, rest.head? = some c → isBareKeyChar c = false) :
    keyPart? (writeKey key ++ rest) = some (key.toList, rest) := by
  simp only [writeKey]
  split_ifs with hbare
  · obtain ⟨hne, hall⟩ := hbare
    rw [List.all_eq_true] at hall
    have hnot : rest.takeWhile isBareKeyChar = [] ∧ rest.dropWhile isBareKeyChar = rest := by
      cases rest with
      | nil => exact ⟨rfl, rfl⟩
      | cons c rest => simp [hrest c rfl]
    obtain ⟨first, later, hkey⟩ := List.exists_cons_of_ne_nil hne
    have hfirst : isBareKeyChar first = true := hall first (by rw [hkey]; exact List.mem_cons_self)
    have hdouble : first ≠ '"' := ne_of_eq_true hfirst rfl
    have hsingle : first ≠ '\'' := ne_of_eq_true hfirst rfl
    have hword : (key.toList ++ rest).takeWhile isBareKeyChar = key.toList := by
      rw [List.takeWhile_append_of_pos hall, hnot.1, List.append_nil]
    have hleft : (key.toList ++ rest).dropWhile isBareKeyChar = rest := by
      rw [List.dropWhile_append_of_pos hall, hnot.2]
    rw [keyPart?.eq_3 _ (by simp [hkey, hdouble]) (by simp [hkey, hsingle]), hword, hleft]
    simp [hne]
  · rcases ofKey_holds key.toList with hform | ⟨hform, hholds⟩ <;> rw [hform]
    · simpa [StringForm.write, keyPart?] using basicString_basicBody key.toList rest
    · simpa [StringForm.write, keyPart?] using literalString_append hholds rest

end SessionGateway.Toml
