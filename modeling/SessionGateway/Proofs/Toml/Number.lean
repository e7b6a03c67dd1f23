import SessionGateway.Proofs.Toml.Text
import SessionGateway.Toml.Reader

/-!
# Written integers are read back

The digits of an integer at the end of a line are no date, no time and no floating-point number:
each of those needs a character between its digits that neither a digit nor the end of a line is.
-/

namespace SessionGateway.Toml

open SessionGateway.Text.Decimal (isDigit value)

variable {ds rest : List Char} {n : Nat}

theorem isDigit_of_mem_toDigits : ∀ c ∈ Nat.toDigits 10 n, isDigit c = true := by
  intro c hc
  have hdigit : c.isDigit = true := Nat.isDigit_of_mem_toDigits (by omega) (by omega) hc
  exact hdigit

theorem value_toDigits (n : Nat) : value (Nat.toDigits 10 n) = n := by
  have hsame : value (Nat.toDigits 10 n) = Nat.ofDigitChars 10 (Nat.toDigits 10 n) 0 :=
    Nat.ofDigitChars_eq_foldl.symm
  rw [hsame, Nat.ofDigitChars_ten_toDigits]

theorem exists_toDigits (n : Nat) :
    ∃ first later, Nat.toDigits 10 n = first :: later ∧ isDigit first = true := by
  obtain ⟨first, later, hfirst⟩ :=
    List.exists_cons_of_ne_nil (Nat.toDigits_ne_nil (n := n) (b := 10))
  exact ⟨first, later, hfirst, isDigit_of_mem_toDigits (n := n) first (by simp [hfirst])⟩

/-- Only zero begins with a zero. -/
theorem head_toDigits (hn : n ≠ 0) : (Nat.toDigits 10 n).head? ≠ some '0' := by
  induction n using Nat.strongRecOn with
  | ind n ih =>
      by_cases hsmall : n < 10
      · rw [Nat.toDigits_of_lt_base hsmall]
        have hall : ∀ n < 10, n ≠ 0 → [n.digitChar].head? ≠ some '0' := by decide
        exact hall n hsmall hn
      · -- The first digit of a longer number is that of its tenth.
        have hlead := ih (n / 10) (by omega) (by omega)
        obtain ⟨first, later, hfirst, -⟩ := exists_toDigits (n / 10)
        rw [Nat.toDigits_of_base_le (by omega) (by omega), hfirst]
        rw [hfirst] at hlead
        exact hlead

section

variable (hds : ∀ c ∈ ds, isDigit c = true)
include hds

theorem digitRun_line (rest : List Char) :
    digitRun isDigit (ds ++ '\n' :: rest) = (ds, '\n' :: rest) := by
  induction ds with
  | nil => rfl
  | cons c ds ih =>
      have hc : isDigit c = true := hds c List.mem_cons_self
      have hscore : c ≠ '_' := ne_of_eq_true hc rfl
      have hlater := ih fun x hx => hds x (List.mem_cons_of_mem _ hx)
      simp [digitRun, hc, hscore, hlater]

theorem takeWhile_line (rest : List Char) : (ds ++ '\n' :: rest).takeWhile isDigit = ds := by
  have hbreak : ('\n' :: rest).takeWhile isDigit = [] := rfl
  rw [List.takeWhile_append_of_pos hds, hbreak, List.append_nil]

theorem date?_line (rest : List Char) : date? (ds ++ '\n' :: rest) = none := by
  have hword := takeWhile_line hds rest
  unfold date?
  split
  · rename_i a b c d later htext
    rw [htext] at hword
    by_cases hall : [a, b, c, d].all isDigit = true
    · -- Four digits in front of a dash would be the whole integer, and a line ends behind that.
      have hfour : ds = [a, b, c, d] := by
        simp only [List.all_cons, List.all_nil, Bool.and_true, Bool.and_eq_true] at hall
        obtain ⟨ha, hb, hc, hd⟩ := hall
        have hdash : isDigit '-' = false := by decide
        simpa [List.takeWhile_cons, ha, hb, hc, hd, hdash] using hword.symm
      rw [hfour] at htext
      simp at htext
    · simp only [hall]
      rfl
  · rfl

theorem char?_line {x : Char} (hdigit : isDigit x = false) (hbreak : x ≠ '\n')
    (rest : List Char) : char? x (ds ++ '\n' :: rest) = none := by
  cases ds with
  | nil => simp [char?, hbreak.symm]
  | cons c ds =>
      have hc : c ≠ x := ne_of_eq_true (hds c List.mem_cons_self) hdigit
      simp [char?, hc]

theorem time?_line (rest : List Char) : time? (ds ++ '\n' :: rest) = none := by
  have hbreak : isDigit '\n' = false := by decide
  match ds, hds with
  | [], _ => cases rest <;> simp [time?, twoDigits?, hbreak]
  | [a], _ => simp [time?, twoDigits?, hbreak]
  | a :: b :: later, hds =>
      have hcolon : char? ':' (later ++ '\n' :: rest) = none :=
        char?_line (fun c hc => hds c (by simp [hc])) (by decide) (by decide) rest
      simp only [List.cons_append, time?, twoDigits?]
      split_ifs <;> simp [hcolon]

theorem decimalWhole?_line (hne : ds ≠ []) (hzero : ds.head? = some '0' → ds = ['0'])
    (rest : List Char) : decimalWhole? (ds ++ '\n' :: rest) = some (ds, '\n' :: rest) := by
  have hrun := digitRun_line hds rest
  obtain ⟨first, later, rfl⟩ := List.exists_cons_of_ne_nil hne
  by_cases hfirst : first = '0'
  · subst hfirst
    obtain rfl : later = [] := by simpa using hzero rfl
    rfl
  · have hdigit : isDigit first = true := hds first List.mem_cons_self
    rw [List.cons_append] at hrun ⊢
    simp [decimalWhole?, digits?, hfirst, hdigit, hrun]

end

theorem decimalWhole?_toDigits (n : Nat) (rest : List Char) :
    decimalWhole? (Nat.toDigits 10 n ++ '\n' :: rest) =
      some (Nat.toDigits 10 n, '\n' :: rest) := by
  apply decimalWhole?_line isDigit_of_mem_toDigits Nat.toDigits_ne_nil
  intro hzero
  by_cases hn : n = 0
  · rw [hn, Nat.toDigits_zero]
  · exact absurd hzero (head_toDigits hn)

theorem float?_toDigits (n : Nat) (rest : List Char) :
    float? (Nat.toDigits 10 n ++ '\n' :: rest) = none := by
  have hwhole := decimalWhole?_toDigits n rest
  obtain ⟨first, later, hfirst, hdigit⟩ := exists_toDigits n
  rw [hfirst, List.cons_append] at hwhole ⊢
  have hplus : first ≠ '+' := ne_of_eq_true hdigit rfl
  have hminus : first ≠ '-' := ne_of_eq_true hdigit rfl
  have hinf : first ≠ 'i' := ne_of_eq_true hdigit rfl
  have hnan : first ≠ 'n' := ne_of_eq_true hdigit rfl
  have hfraction : fraction? ('\n' :: rest) = none := by simp [fraction?]
  have hexponent : exponent? ('\n' :: rest) = none := by simp [exponent?]
  simp [float?, sign, hplus, hminus, hinf, hnan, hwhole, hfraction, hexponent]

theorem integer?_toDigits (hn : n < UInt64.size / 2) (rest : List Char) :
    integer? (Nat.toDigits 10 n ++ '\n' :: rest) = some (↑n, '\n' :: rest) := by
  have hwhole := decimalWhole?_toDigits n rest
  have hvalue := value_toDigits n
  have hrange : Int64.minValue.toInt ≤ (n : Int) ∧ (n : Int) ≤ Int64.maxValue.toInt := by
    have hmin : Int64.minValue.toInt = -2 ^ 63 := rfl
    have hmax : Int64.maxValue.toInt = 2 ^ 63 - 1 := rfl
    have hsize : UInt64.size / 2 = 2 ^ 63 := rfl
    omega
  by_cases hzero : n = 0
  · subst hzero
    rw [Nat.toDigits_zero]
    rfl
  · have hhead := head_toDigits hzero
    obtain ⟨first, later, hfirst, hdigit⟩ := exists_toDigits n
    rw [hfirst] at hhead hvalue hwhole ⊢
    have hplus : first ≠ '+' := ne_of_eq_true hdigit rfl
    have hminus : first ≠ '-' := ne_of_eq_true hdigit rfl
    have hlead : first ≠ '0' := by simpa using hhead
    rw [List.cons_append] at hwhole ⊢
    simp [integer?, sign, hplus, hminus, hlead, hwhole, hvalue, hrange]

/-- An integer that can be written is read as a number, and nothing but the line break is left. -/
theorem number?_toDigits (hn : n < UInt64.size / 2) (rest : List Char) :
    number? (Nat.toDigits 10 n ++ '\n' :: rest) = some (.integer n, '\n' :: rest) := by
  have hdate : dateTime? (Nat.toDigits 10 n ++ '\n' :: rest) = none := by
    simp [dateTime?, date?_line isDigit_of_mem_toDigits, time?_line isDigit_of_mem_toDigits]
  simp [number?, hdate, float?_toDigits, integer?_toDigits hn]

end SessionGateway.Toml
