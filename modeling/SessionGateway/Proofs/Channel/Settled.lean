import SessionGateway.Proofs.Channel.Cleanup

/-!
# Settled channels

A channel is settled when none of its tasks can go on without something from outside. A settled
channel whose token is cancelled has come to its end, unless it waits for the cluster, for the peer
to receive a closing line, or for its stream to be closed: nothing else keeps it.
-/

namespace SessionGateway.Channel

def Event.isOwn : Event → Bool
  | .advance | .run _ => true
  | _ => false

namespace Handler

/-- No task of the channel can go on by itself. -/
def Settled (ctx : Context) (h : Handler) : Prop :=
  ∀ e : Event, e.isOwn = true → h.step ctx e = none

variable {ctx : Context} {h t : Handler} {e : Event} {acts : List Act}

theorem closed_of_move (hlasting : h.table.Lasting) (hmove : Move ctx h e acts t)
    (hclosed : h.scratch.closed = true) : t.scratch.closed = true := by
  cases hmove with
  | cancel => rfl
  | start _ => exact Table.runStartup_closed hlasting.startup hclosed
  | take _ hopen _ =>
      rw [hopen] at hclosed
      cases hclosed
  | brief _ | join _ _ | execEnds _ _ | forwardEnds _ | written _ => simp [hclosed]
  | _ => exact hclosed

/-- In a settled channel that has been told to stop, a task that is not done waits for the cluster
or writes a closing line. -/
theorem waits_of_settled (hsettled : h.Settled ctx) (hstopped : h.scratch.stopped = true) {w : Work}
    (hwork : w ∈ h.scratch.works) (hstage : w.stage ≠ .done) :
    Operation.call.waits w = true ∨ Operation.write.waits w = true := by
  obtain ⟨i, hlt, hindex⟩ := List.getElem_of_mem hwork
  have hat : h.scratch.works[i]? = some w := by rw [List.getElem?_eq_getElem hlt, hindex]
  have hrun : h.run? i = none := hsettled (.run i) rfl
  obtain ⟨job, stage⟩ := w
  cases stage with
  | ready => cases job <;> simp [run?, hat, hstopped] at hrun
  | calling => exact .inl rfl
  | writing line => exact .inr rfl
  | done => exact absurd rfl hstage

/-- The channel's own task has left its loop if it waits and there is nothing that it could still
take. -/
theorem left_of_waits (hwaits : h.step ctx .advance = none)
    (hend : h.scratch.closed = true ∨ h.inbox.ended = true) : h.phase.left = true := by
  have hadvance : h.advance? ctx = none := hwaits
  cases hphase : h.phase with
  | ready => simp [advance?, hphase] at hadvance
  | serving =>
      by_cases hclosed : h.scratch.closed = true
      · simp [advance?, hphase, hclosed] at hadvance
      · have hended := hend.resolve_left hclosed
        cases hqueue : h.inbox.queued <;>
          simp [advance?, hphase, hclosed, Inbox.take?, hqueue, hended] at hadvance
  | draining | closing | closed => rfl

/-- A settled channel that has left its loop has waited for its tasks, unless a task waits for the
cluster or writes a closing line. -/
theorem Sound.joined_of_settled (hsound : h.Sound) (hsettled : h.Settled ctx)
    (hleft : h.phase.left = true) (hcalls : h.pending .call = 0) (hwrites : h.pending .write = 0) :
    h.phase.joined = true := by
  have hadvance : h.advance? ctx = none := hsettled .advance rfl
  cases hphase : h.phase with
  | ready | serving =>
      rw [hphase] at hleft
      cases hleft
  | draining =>
      have hbusy : h.scratch.running ≠ 0 := by
        intro hrunning
        simp [advance?, hphase, hrunning] at hadvance
      obtain ⟨w, hwork, hstage⟩ := List.countP_pos_iff.1 (Nat.pos_of_ne_zero hbusy)
      have hidle : ∀ op : Operation, h.pending op = 0 → op.waits w = false := by
        intro op hnone
        have hcount : h.scratch.works.countP op.waits = 0 := by
          unfold pending at hnone
          omega
        simpa using List.countP_eq_zero.1 hcount w hwork
      have hwaits := waits_of_settled hsettled (hsound.stopped_of_left hleft) hwork
        (by simpa using hstage)
      simp [hidle .call hcalls, hidle .write hwrites] at hwaits
  | closing | closed => rfl

/-- A settled channel that is cancelled is closed, unless something that it has begun has not
ended. -/
theorem Sound.closed_of_settled (hsound : h.Sound) (hsettled : h.Settled ctx)
    (hclosed : h.scratch.closed = true) (hdone : ∀ op, h.pending op = 0) : h.phase = .closed := by
  have hleft := left_of_waits (hsettled .advance rfl) (.inl hclosed)
  have hjoined := hsound.joined_of_settled hsettled hleft (hdone .call) (hdone .write)
  cases hphase : h.phase with
  | closing =>
      have hnone := hdone .close
      simp [pending, hphase, Operation.waitsIn] at hnone
  | closed => rfl
  | ready | serving | draining =>
      rw [hphase] at hjoined
      cases hjoined

end Handler

end SessionGateway.Channel
