import SessionGateway.Connection.Keepalive

/-!
# The steps of the probing

`Keepalive.State.Move` lists everything that can happen to the probing of a connection. By
`move_of_step` every step of the probing is in the list.
-/

namespace SessionGateway.Keepalive.State

inductive Move (cancelled : Bool) (now : Nat) (k : State) : Event → List Act → State → Prop
  | start {panic : String} (hphase : k.phase = .ready) (hfit : ¬ k.settings.Unfit now) :
      Move cancelled now k (.start panic) []
        { k with phase := .waiting (now + k.settings.interval) }
  | crash {panic : String} (hphase : k.phase = .ready) (hunfit : k.settings.Unfit now) :
      Move cancelled now k (.start panic) [] { k with phase := .crashed panic }
  | send {due : Nat} (hphase : k.phase = .waiting due) (hdue : due ≤ now) :
      Move cancelled now k .tick [.probe] { k with
        phase := .probing ((if due + tolerance < now then now else due) + k.settings.period)
          (now + k.settings.interval) }
  | answer {due deadline : Nat} (hphase : k.phase = .probing due deadline) (alive : Bool) :
      Move cancelled now k (.probed alive) (k.settle due alive).2 (k.settle due alive).1
  | expire {due deadline : Nat} (hphase : k.phase = .probing due deadline)
      (hover : deadline ≤ now) :
      Move cancelled now k .expire (k.settle due false).2 (k.settle due false).1
  | stop (hphase : (∃ due, k.phase = .waiting due) ∨ ∃ due deadline, k.phase = .probing due deadline)
      (hcancel : cancelled = true) :
      Move cancelled now k .stop [] { k with phase := .stopped }

theorem move_of_step {cancelled : Bool} {now : Nat} {k l : State} {e : Event} {acts : List Act}
    (hstep : k.step cancelled now e = some (l, acts)) : Move cancelled now k e acts l := by
  cases e with
  | start panic =>
      simp only [step] at hstep
      split at hstep
      · rename_i hphase
        split at hstep <;> rename_i hinterval <;>
          obtain ⟨rfl, rfl⟩ := Prod.mk.inj (Option.some.inj hstep)
        · exact .crash hphase hinterval
        · exact .start hphase hinterval
      · cases hstep
  | tick =>
      simp only [step] at hstep
      split at hstep
      · rename_i due hphase
        split at hstep
        · rename_i hdue
          obtain ⟨rfl, rfl⟩ := Prod.mk.inj (Option.some.inj hstep)
          exact .send hphase hdue
        · cases hstep
      · cases hstep
  | probed alive =>
      simp only [step] at hstep
      split at hstep
      · rename_i hphase
        obtain ⟨rfl, rfl⟩ := Prod.mk.inj (Option.some.inj hstep)
        exact .answer hphase alive
      · cases hstep
  | expire =>
      simp only [step] at hstep
      split at hstep
      · rename_i hphase
        split at hstep
        · rename_i hover
          obtain ⟨rfl, rfl⟩ := Prod.mk.inj (Option.some.inj hstep)
          exact .expire hphase hover
        · cases hstep
      · cases hstep
  | stop =>
      simp only [step] at hstep
      split at hstep
      · rename_i due hphase
        split at hstep
        · rename_i hcancel
          obtain ⟨rfl, rfl⟩ := Prod.mk.inj (Option.some.inj hstep)
          exact .stop (.inl ⟨due, hphase⟩) hcancel
        · cases hstep
      · rename_i due deadline hphase
        split at hstep
        · rename_i hcancel
          obtain ⟨rfl, rfl⟩ := Prod.mk.inj (Option.some.inj hstep)
          exact .stop (.inr ⟨due, deadline, hphase⟩) hcancel
        · cases hstep
      · cases hstep

/-- Whether the task can begin does not depend on the words for a panic. -/
theorem step_start_eq_none_iff {cancelled : Bool} {now : Nat} {k : State} {panic : String} :
    k.step cancelled now (.start panic) = none ↔ k.phase ≠ .ready := by
  by_cases hunfit : k.settings.Unfit now <;> cases hphase : k.phase <;> simp [step, hphase, hunfit]

end SessionGateway.Keepalive.State
