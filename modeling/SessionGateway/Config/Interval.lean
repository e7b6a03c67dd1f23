import SessionGateway.Text.Basic

/-!
# Intervals

A span of time is counted in nanoseconds. In texts it is a number of whole seconds or of a unit that
follows: `15`, `15s`, `2m`, `1h`.
-/

namespace SessionGateway

structure Interval where
  seconds : UInt64
  nanos : Fin 1000000000
  deriving DecidableEq, Repr

namespace Interval

def ofSeconds (seconds : UInt64) : Interval :=
  ⟨seconds, 0⟩

def total (i : Interval) : Nat :=
  i.seconds.toNat * 1000000000 + i.nanos.val

theorem ofSeconds_seconds {i : Interval} (h : i.nanos = 0) : ofSeconds i.seconds = i := by
  rw [ofSeconds, ← h]

theorem total_eq_zero_iff {i : Interval} : i.total = 0 ↔ i = ofSeconds 0 := by
  obtain ⟨seconds, nanos⟩ := i
  rw [ofSeconds, Interval.mk.injEq, ← UInt64.toNat_inj, Fin.ext_iff, total]
  simp only [UInt64.toNat_zero, Fin.val_zero]
  omega

/-- Why a text is no interval. Both causes keep the text without the blanks around it. -/
inductive Error where
  /-- The text is not a number with a unit, or the number needs more than 64 bits. -/
  | invalid (text : String)
  /-- The number of seconds needs more than 64 bits. -/
  | overflow (text : String)
  deriving DecidableEq, Repr

def Error.message : Error → String
  | .invalid text => "invalid duration: " ++ Text.quoted text
  | .overflow text => "duration overflows: " ++ Text.quoted text

def unitSeconds? (c : Char) : Option Nat :=
  if c = 's' then some 1
  else if c = 'm' then some 60
  else if c = 'h' then some 3600
  else none

/-- Splits off a unit at the end; without one the number counts seconds. -/
def splitUnit (cs : List Char) : List Char × Nat :=
  match cs.getLast?.bind unitSeconds? with
  | some seconds => (cs.dropLast, seconds)
  | none => (cs, 1)

/-- Reads an interval in seconds. Blanks may stand around the text and before the unit. -/
def parse (s : String) : Except Error Nat :=
  let trimmed := Text.trim s.toList
  let (number, seconds) := splitUnit trimmed
  match Text.Decimal.unsigned64? (Text.trim number) with
  | none => .error (.invalid (String.ofList trimmed))
  | some n =>
    if n * seconds < UInt64.size then .ok (n * seconds)
    else .error (.overflow (String.ofList trimmed))

end Interval

end SessionGateway
