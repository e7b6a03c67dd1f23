import SessionGateway.Proofs.Connection.Probes
import SessionGateway.Proofs.Connection.Watch

/-!
# A connection watches its peer

What the probing of a connection goes through is what a watch goes through by itself. From the watch's
side, the token is cancelled from outside both when the owner of the connection cancels it and when
the connection has waited for its channels.
-/

namespace SessionGateway

def Keepalive.Event.watched : Keepalive.Event → Keepalive.Watch.Event
  | .start panic => .start panic
  | .tick => .tick
  | .probed alive => .settle (if alive then .answered true else .failed)
  | .expire => .settle .unanswered
  | .stop => .stop

theorem Keepalive.Watch.step_watched (w : Watch) (e : Keepalive.Event) :
    w.step e.watched = w.act e := by
  cases e with
  | probed alive => cases alive <;> rfl
  | _ => rfl

namespace Connection

open Keepalive (Watch)

def probesAt (now : Nat) (acts : List Act) : List Nat :=
  acts.filterMap fun
    | .probe _ => some now
    | _ => none

def probedAt (log : Log) : List Nat :=
  log.flatMap fun τ => probesAt τ.source.clock τ.acts

theorem probesAt_append (now : Nat) (acts rest : List Act) :
    probesAt now (acts ++ rest) = probesAt now acts ++ probesAt now rest :=
  List.filterMap_append

theorem probedAt_append (pre post : Log) : probedAt (pre ++ post) = probedAt pre ++ probedAt post :=
  List.flatMap_append

namespace State

def watch (s : State) : Watch :=
  ⟨s.keepalive, s.clock, s.cancelled⟩

variable {s t : State} {e : Event} {acts : List Act}

theorem watch_of_probing {own : Keepalive.Event} (hmove : s.Move (.keepalive own) acts t) :
    ∃ owns, s.watch.step own.watched = some (t.watch, owns) ∧
      probesAt s.clock acts = Watch.probesAt s.clock owns := by
  obtain ⟨k, owns, hstep, rfl, rfl⟩ := keepalive_of_move hmove
  refine ⟨owns, ?_, ?_⟩
  · have hact : s.watch.probing.step s.watch.cancelled s.watch.clock own = some (k, owns) := hstep
    have hexhausts : owns.any Keepalive.Act.cancels = exhausts owns := by
      unfold exhausts
      congr 1
      funext a
      cases a <;> rfl
    rw [Watch.step_watched, Watch.act, hact, Option.map_some]
    dsimp only
    rw [hexhausts]
    cases exhausts owns <;> simp [watch, State.cancel]
  · have hgiven : probesAt s.clock (if givesUpProbe s.keepalive own then [.giveUpProbe] else []) =
        [] := by
      split <;> rfl
    rw [probesAt_append, hgiven, List.nil_append, probesAt, List.filterMap_map]
    congr 1
    funext a
    cases a <;> rfl

/-- What else happens to a connection is time that passes, a token that is cancelled from outside, or
nothing to the watch. -/
theorem watch_of_other (hmove : s.Move e acts t) (hother : ∀ own, e ≠ .keepalive own) :
    (t.watch = s.watch ∨ s.watch.step .cancel = some (t.watch, []) ∨
      ∃ time, s.watch.step (.elapse time) = some (t.watch, [])) ∧
      probesAt s.clock acts = [] := by
  refine ⟨?_, ?_⟩
  · cases hmove with
    | elapse time => exact .inr (.inr ⟨time, rfl⟩)
    | cancel | join _ _ => exact .inr (.inl rfl)
    | keepalive _ _ => exact absurd rfl (hother _)
    | _ => exact .inl rfl
  · rw [probesAt, List.filterMap_eq_nil_iff]
    intro a ha
    have hquiet := (quiet_of_move hmove hother).1 a ha
    cases a <;> first | rfl | cases hquiet

end State

/-- In every run of a connection its probing goes through a run of a watch that sends the same probes
at the same times. -/
theorem watch_of_run {log : Log} {s₀ s : State} (hrun : Run State.step s₀ log s) :
    ∃ watched, Run Watch.step s₀.watch watched s.watch ∧ Watch.sent watched = probedAt log := by
  induction hrun with
  | nil => exact ⟨[], .nil, rfl⟩
  | @snoc log s t e acts _ hstep ih =>
      obtain ⟨watched, hwatched, hsent⟩ := ih
      have hmove := State.move_of_step hstep
      have hlast : probedAt [⟨s, e, acts, t⟩] = probesAt s.clock acts :=
        List.flatMap_singleton _ _
      -- One more step of the watch, if it sends what the connection sends.
      have hmore : ∀ {own owns}, s.watch.step own = some (t.watch, owns) →
          Watch.probesAt s.clock owns = probesAt s.clock acts →
          ∃ watched, Run Watch.step s₀.watch watched t.watch ∧
            Watch.sent watched = probedAt (log ++ [⟨s, e, acts, t⟩]) := by
        intro own owns hown hsame
        refine ⟨_, hwatched.snoc hown, ?_⟩
        rw [Watch.sent_append, Watch.sent_singleton, probedAt_append, hlast, hsent, ← hsame]
        rfl
      by_cases hother : ∀ own, e ≠ .keepalive own
      · obtain ⟨hwatch | hcancel | ⟨time, helapse⟩, hquiet⟩ := State.watch_of_other hmove hother
        · refine ⟨watched, hwatch ▸ hwatched, ?_⟩
          rw [probedAt_append, hlast, hquiet, List.append_nil, hsent]
        · exact hmore hcancel hquiet.symm
        · exact hmore helapse hquiet.symm
      · obtain ⟨own, rfl⟩ := not_forall_not.1 hother
        obtain ⟨owns, hown, hsame⟩ := State.watch_of_probing hmove
        exact hmore hown hsame.symm

theorem watch_of_fresh {ctx : Context} {cancelled : Bool} {log : Log} {s : State}
    (hrun : Run State.step (.fresh ctx cancelled) log s) :
    ∃ watched, Run Watch.step (Watch.fresh (.ofConfig ctx.config) cancelled) watched s.watch :=
  let ⟨watched, hwatched, _⟩ := watch_of_run hrun
  ⟨watched, hwatched⟩

theorem clock_le_of_run {log : Log} {s t : State} (hrun : Run State.step s log t) :
    s.clock ≤ t.clock := by
  obtain ⟨watched, hwatched, _⟩ := watch_of_run hrun
  exact Watch.clock_le_of_run hwatched

/-- A connection that is set up later is one for which time has passed before anything else. -/
theorem run_of_freshAt {ctx : Context} {cancelled : Bool} {reading : Nat} {log : Log} {s : State}
    (hrun : Run State.step (.freshAt ctx cancelled reading) log s) :
    ∃ τ, Run State.step (.fresh ctx cancelled) (τ :: log) s := by
  have hlater : (State.fresh ctx cancelled).step (.elapse reading) =
      some (.freshAt ctx cancelled reading, []) := by
    simp [State.step, State.freshAt, State.fresh]
  exact ⟨_, (Run.single hlater).trans hrun⟩

end Connection

end SessionGateway
