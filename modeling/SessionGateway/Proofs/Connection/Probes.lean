import SessionGateway.Proofs.Connection.Fates
import SessionGateway.Proofs.Connection.Probing

/-!
# The probes of a connection

At most one probe is outstanding. Every other probe that has been sent has come to an end with what
the peer has done, or the wait for it has been given up. Probing is also one of the three ways in
which the token of a connection is cancelled: from outside, by too many failures in a row, and when
the connection has waited for its channels.
-/

namespace SessionGateway

namespace Keepalive

def State.awaits (k : State) : Bool :=
  match k.phase with
  | .probing _ _ => true
  | _ => false

def Act.isProbe : Act → Bool
  | .probe => true
  | .exhausted _ => false

def Event.isProbed : Event → Bool
  | .probed _ => true
  | _ => false

theorem settle_quiet (k : State) (due : Nat) (alive : Bool) :
    (k.settle due alive).1.awaits = false ∧ (k.settle due alive).2.countP Act.isProbe = 0 := by
  simp only [State.settle]
  split <;> split <;> exact ⟨rfl, rfl⟩

/-- A step of the probing sends a probe when none is outstanding, or ends the one that is. -/
theorem probes_of_step {k l : State} {cancelled : Bool} {now : Nat} {e : Event} {acts : List Act}
    (hstep : k.step cancelled now e = some (l, acts)) :
    k.awaits.toNat + acts.countP Act.isProbe =
      l.awaits.toNat + e.isProbed.toNat + (Connection.State.givesUpProbe k e).toNat := by
  cases State.move_of_step hstep with
  | start hphase _ | crash hphase _ | send hphase _ =>
      simp [State.awaits, hphase, Event.isProbed, Connection.State.givesUpProbe, Act.isProbe]
  | @answer due _ hphase alive =>
      obtain ⟨hnone, hquiet⟩ := settle_quiet k due alive
      have hsome : k.awaits = true := by simp [State.awaits, hphase]
      rw [hsome, hnone, hquiet]
      rfl
  | @expire due _ hphase _ =>
      obtain ⟨hnone, hquiet⟩ := settle_quiet k due false
      have hsome : k.awaits = true := by simp [State.awaits, hphase]
      have hgives : Connection.State.givesUpProbe k .expire = true := by
        simp [Connection.State.givesUpProbe, hphase]
      rw [hsome, hnone, hquiet, hgives]
      rfl
  | stop hphase _ =>
      rcases hphase with ⟨due, hphase⟩ | ⟨due, deadline, hphase⟩ <;>
        simp [State.awaits, hphase, Event.isProbed, Connection.State.givesUpProbe]

end Keepalive

namespace Connection

def Act.isProbe : Act → Bool
  | .probe _ => true
  | _ => false

def Event.isProbed : Event → Bool
  | .keepalive e => e.isProbed
  | _ => false

def Act.probes : Act → Bool
  | .probe _ | .giveUpProbe => true
  | _ => false

theorem counts_of_quiet {acts : List Act} (hquiet : ∀ a ∈ acts, a.probes = false) :
    acts.countP Act.isProbe = 0 ∧ acts.count .giveUpProbe = 0 := by
  constructor
  · rw [List.countP_eq_zero]
    intro a ha
    have hnone := hquiet a ha
    cases a <;> simp_all [Act.isProbe, Act.probes]
  · rw [List.count_eq_zero]
    intro hmem
    cases hquiet _ hmem

namespace State

variable {s t : State} {e : Event} {acts : List Act}

theorem quiet_of_attempt {ctx : Context} {cancelled : Bool} {n : Nat} {stage after : Stage}
    (hstep : stage.Step ctx cancelled n e acts after) : ∀ a ∈ acts, a.probes = false := by
  intro a ha
  rcases hstep.own_or_warn a ha with hnumber | ⟨text, rfl⟩
  · cases a <;> cases hnumber <;> rfl
  · rfl

theorem keepalive_of_move {own : Keepalive.Event} (hmove : s.Move (.keepalive own) acts t) :
    ∃ k owns, s.keepalive.step s.cancelled s.clock own = some (k, owns) ∧
      acts = (if givesUpProbe s.keepalive own then [.giveUpProbe] else []) ++
        owns.map (probing k.settings.request) ∧
      t = if exhausts owns then State.cancel { s with keepalive := k }
        else { s with keepalive := k } := by
  cases hmove with
  | leave hleaves => cases hleaves
  | attempt _ hstep => cases hstep
  | keepalive _ hstep => exact ⟨_, _, hstep, rfl, rfl⟩

/-- Nothing but the probing sends a probe or gives one up. -/
theorem quiet_of_move (hmove : s.Move e acts t) (hother : ∀ own, e ≠ .keepalive own) :
    (∀ a ∈ acts, a.probes = false) ∧ t.keepalive = s.keepalive := by
  cases hmove with
  | elapse _ | cancel | arrive _ _ _ | refuse _ _ _ | endOpens | globalRequest _ | endGlobals
  | provision _ _ | provisioned _ | join _ _ | takeOpen _ _ _ =>
      exact ⟨by simp [Act.probes], rfl⟩
  | leave hleaves =>
      refine ⟨fun a ha => ?_, rfl⟩
      rcases List.mem_append.1 ha with hreport | hdropped
      · cases hleaves with
        | noPod _ =>
            split at hreport
            · cases hreport
            · rw [List.mem_singleton.1 hreport]
              rfl
        | giveUpPod _ _ =>
            rw [List.mem_singleton.1 hreport]
            rfl
        | _ => cases hreport
      · rcases mem_dropQueued hdropped with ⟨m, rfl⟩ | ⟨m, i, rfl⟩ <;> rfl
  | close _ _ _ =>
      refine ⟨?_, rfl⟩
      simp only [crashReport]
      split <;> simp [Act.probes]
  | attempt _ hstep => exact ⟨quiet_of_attempt hstep, rfl⟩
  | keepalive _ _ => exact absurd rfl (hother _)
  | discard _ _ => exact ⟨by simp [Act.probes], rfl⟩
  | @closed outcome report _ hreport =>
      refine ⟨?_, rfl⟩
      rw [hreport]
      cases outcome <;> simp [Act.probes]

/-- A step of a connection sends a probe when none is outstanding, or ends the one that is. -/
theorem probes_of_move (hmove : s.Move e acts t) :
    s.keepalive.awaits.toNat + acts.countP Act.isProbe =
      t.keepalive.awaits.toNat + e.isProbed.toNat + acts.count .giveUpProbe := by
  by_cases hother : ∀ own, e ≠ .keepalive own
  · obtain ⟨hquiet, hkeepalive⟩ := quiet_of_move hmove hother
    obtain ⟨hprobes, hgiven⟩ := counts_of_quiet hquiet
    have hevent : e.isProbed = false := by
      cases e with
      | keepalive own => exact absurd rfl (hother own)
      | _ => rfl
    rw [hprobes, hgiven, hkeepalive, hevent]
    rfl
  · obtain ⟨e, rfl⟩ := not_forall_not.1 hother
    obtain ⟨k, own, hstep, rfl, rfl⟩ := keepalive_of_move hmove
    have hown := Keepalive.probes_of_step hstep
    have hafter : (if exhausts own then State.cancel { s with keepalive := k }
        else { s with keepalive := k }).keepalive = k := by split <;> rfl
    have hprobes : (own.map (probing k.settings.request)).countP Act.isProbe =
        own.countP Keepalive.Act.isProbe := by
      rw [List.countP_map]
      congr 1
      funext a
      cases a <;> rfl
    have hgiven : (own.map (probing k.settings.request)).count .giveUpProbe = 0 := by
      rw [List.count_eq_zero, List.mem_map]
      rintro ⟨a, _, ha⟩
      cases a <;> cases ha
    have hevent : (Event.keepalive e).isProbed = e.isProbed := rfl
    rw [hafter, hevent, List.countP_append, List.count_append, hprobes, hgiven]
    cases hgives : givesUpProbe s.keepalive e <;> rw [hgives] at hown <;>
      simpa [Act.isProbe] using hown

/-- The token is cancelled from outside, when the connection has waited for its channels, or because
too many probes have failed. -/
theorem cancels_of_move (hmove : s.Move e acts t) (hlive : s.cancelled = false)
    (hcancel : t.cancelled = true) :
    e = .cancel ∨
      (e = .advance ∧ s.phase = .draining ∧ s.channels.all Stage.finished = true) ∨
      ∃ own failures, e = .keepalive own ∧ .warn (Keepalive.exhaustedWarning failures) ∈ acts := by
  have hkept : t.cancelled = s.cancelled → False := by
    intro hsame
    rw [hcancel, hlive] at hsame
    cases hsame
  cases hmove with
  | cancel => exact .inl rfl
  | join hphase hfinished => exact .inr (.inl ⟨rfl, hphase, hfinished⟩)
  | @keepalive e k own _ _ =>
      by_cases hexhausts : exhausts own = true
      · obtain ⟨a, hmem, ha⟩ := List.any_eq_true.1 hexhausts
        cases a with
        | probe => cases ha
        | exhausted failures =>
            refine .inr (.inr ⟨e, failures, rfl, ?_⟩)
            exact List.mem_append_right _ (List.mem_map.2 ⟨_, hmem, rfl⟩)
      · rw [if_neg hexhausts] at hkept
        exact (hkept rfl).elim
  | _ => exact (hkept rfl).elim

end State

theorem probes_of_run {ctx : Context} {cancelled : Bool} {log : Log} {s : State}
    (hrun : Run State.step (State.fresh ctx cancelled) log s) :
    (seen log).countP Act.isProbe = s.keepalive.awaits.toNat +
      log.countP (fun τ => τ.event.isProbed) + (seen log).count .giveUpProbe := by
  induction hrun with
  | nil => rfl
  | @snoc log s t e acts _ hstep ih =>
      have hlast := State.probes_of_move (State.move_of_step hstep)
      have hone : (if e.isProbed = true then 1 else 0) = e.isProbed.toNat := by
        cases e.isProbed <;> rfl
      rw [seen_append, List.countP_append, List.countP_append, List.count_append, seen_cons,
        seen_nil, List.append_nil, List.countP_singleton, hone]
      dsimp only
      omega

end Connection

end SessionGateway
