import SessionGateway.Proofs.Connection.Outlook
import SessionGateway.Proofs.Connection.Probes

/-!
# Isolation of channels

The channels of a connection share its token, its context and its task group, and nothing else. As
long as the token is not cancelled before a channel has come to its end, what is seen of the channel
follows from its own events alone, whatever happens to the other channels; and nothing that happens
to one channel cancels another or the connection.
-/

namespace SessionGateway

deriving instance DecidableEq for Channel.Event

namespace Connection

deriving instance DecidableEq for Event

/-- Whether the tasks of a channel have been told to stop; this is what a call sees of its token. -/
def State.stopped (n : Nat) (s : State) : Option Bool :=
  match s.channels[n]? with
  | some (.serving h) => some h.scratch.stopped
  | _ => none

/-- The token of the connection is not cancelled before the attempt has come to its end. -/
def Undisturbed (n : Nat) (log : Log) : Prop :=
  ∀ τ ∈ log, τ.target.cancelled = true → τ.source.finished n = true

instance (n : Nat) (log : Log) : Decidable (Undisturbed n log) :=
  inferInstanceAs (Decidable (∀ τ ∈ log, τ.target.cancelled = true → τ.source.finished n = true))

/-- What happens to an attempt and its channel, the steps of its own tasks included. -/
def eventsAbout (n : Nat) (log : Log) : List Event :=
  log.filterMap fun τ => τ.source.own? n τ.event

/-- Something that happens to an attempt, what is seen of the attempt at once, and whether the tasks
of its channel have been told to stop afterwards. -/
structure Sight where
  event : Event
  acts : List Act
  stopped : Option Bool

def sight? (n : Nat) (τ : Transition State Event Act) : Option Sight :=
  (τ.source.own? n τ.event).map fun e => ⟨e, about n τ.acts, τ.target.stopped n⟩

/-- Nothing that is seen of an attempt in one run differs from what is seen of it in another. -/
structure Indistinct (n m : Nat) (log log' : Log) (s s' : State) : Prop where
  sights : log.filterMap (sight? n) = log'.filterMap (sight? m)
  acts : about n (seen log) = about m (seen log')
  closes : (about n (seen log)).count (.channel 0 .closeStream) ≤ 1
  stopped : s.stopped n = s'.stopped m

/-- A step that happens to an attempt does nothing to the others and to the connection. -/
structure Apart (τ : Transition State Event Act) : Prop where
  others : ∀ k, τ.event.number? = some k →
    τ.target.cancelled = τ.source.cancelled ∧
      ∀ j, j ≠ k → τ.target.channels[j]? = τ.source.channels[j]?
  /-- The token is cancelled from outside, when the connection has waited for its channels, or
  because too many probes have failed. -/
  token : τ.source.cancelled = false → τ.target.cancelled = true →
    τ.event = .cancel ∨
      (τ.event = .advance ∧ τ.source.phase = .draining ∧
        τ.source.channels.all Stage.finished = true) ∨
      ∃ own failures, τ.event = .keepalive own ∧
        .warn (Keepalive.exhaustedWarning failures) ∈ τ.acts
  /-- The tasks of a channel are told to stop by what happens to the channel itself, unless the
  connection is cancelled with this step. -/
  tasks : ∀ j, τ.source.stopped j = some false → τ.target.stopped j = some true →
    τ.event.number? = some j ∨ (τ.source.cancelled = false ∧ τ.target.cancelled = true)

def Outlook.stopped : Outlook → Option Bool
  | .present (.serving h) => some h.scratch.stopped
  | _ => none

namespace State

variable {n m : Nat} {s t : State} {e : Event} {acts : List Act}

theorem stopped_outlook (hsound : ∀ h, s.channels[n]? = some (.serving h) → h.Sound) :
    (s.outlook n).stopped = s.stopped n := by
  rw [outlook, stopped]
  cases hstage : s.channels[n]? with
  | none => rfl
  | some stage =>
      cases hfinished : stage.finished with
      | false =>
          simp only [Stage.normalize_of_running hfinished]
          cases stage <;> rfl
      | true =>
          cases stage with
          | serving h =>
              have hphase : h.phase = .closed := by simpa [Stage.finished] using hfinished
              have hstopped := (hsound h hstage).stopped_of_left (by rw [hphase]; rfl)
              simp [Stage.normalize, hfinished, Stage.cancel, Outlook.stopped, hstopped]
          | _ => rfl

theorem others_of_move (hmove : s.Move e acts t) {k : Nat} (hnumber : e.number? = some k) :
    t.cancelled = s.cancelled ∧ ∀ j, j ≠ k → t.channels[j]? = s.channels[j]? := by
  cases hmove with
  | @attempt m stage after _ _ hstage hstep =>
      obtain rfl : m = k := Option.some.inj (hstep.number.symm.trans hnumber)
      exact ⟨rfl, fun j hj => by simp [setStage, Ne.symm hj]⟩
  | leave hleaves => cases hleaves <;> cases hnumber
  | _ => cases hnumber

/-- The events of an attempt with a channel are those of its number. -/
theorem number_of_own {b : Event} {h : Channel.Handler} (hown : s.own? n e = some b)
    (hserving : s.channels[n]? = some (.serving h)) : e.number? = some n := by
  have hlt : n < s.channels.length := (List.getElem?_eq_some_iff.1 hserving).1
  cases e with
  | openChannel kind payload =>
      have hn : ¬ s.channels.length = n := by omega
      simp [own?, hn] at hown
  | endOpens =>
      have hn : ¬ s.channels.length ≤ n := by omega
      simp [own?, hn] at hown
  | provisioned outcome =>
      cases outcome <;> simp [own?, hserving, Stage.isQueued, Event.number?] at hown
  | takeOpen =>
      have hn : ¬ s.channels.findIdx? Stage.isQueued = some n := by
        intro hfirst
        obtain ⟨_, hqueued, _⟩ := List.findIdx?_eq_some_iff_getElem.1 hfirst
        rw [(List.getElem?_eq_some_iff.1 hserving).2] at hqueued
        cases hqueued
      simp [own?, hn] at hown
  | runOpen k | accepted k _ | rejected k _ | channel k _ =>
      by_contra hnumber
      simp only [own?, if_neg hnumber] at hown
      cases hown
  | _ => simp [own?, Event.number?] at hown

theorem serving_of_stopped {b : Bool} (h : s.stopped n = some b) :
    ∃ own, s.channels[n]? = some (.serving own) ∧ own.scratch.stopped = b := by
  rw [stopped] at h
  split at h
  · exact ⟨_, ‹_›, Option.some.inj h⟩
  · cases h

theorem tasks_of_move (hmove : s.Move e acts t) (hprompt : s.Prompt)
    (hsound : ∀ h, s.channels[n]? = some (.serving h) → h.Sound)
    (hafter : ∀ h, t.channels[n]? = some (.serving h) → h.Sound)
    (hrunning : s.stopped n = some false) (hstopped : t.stopped n = some true) :
    e.number? = some n ∨ (s.cancelled = false ∧ t.cancelled = true) := by
  obtain ⟨h, hserving, hlive⟩ := serving_of_stopped hrunning
  cases hcancelled : t.cancelled with
  | true =>
      -- Had the connection been cancelled before, it would have told the channel to stop then.
      refine .inr ⟨?_, rfl⟩
      by_contra hbefore
      have hsevered : h.scratch.closed = true :=
        hprompt.severed (by simpa using hbefore) _ (List.mem_of_getElem? hserving)
      rw [(hsound h hserving).stopped_of_closed hsevered] at hlive
      cases hlive
  | false =>
      refine .inl ?_
      have hfollows : Follows n s e acts t := follows_of_move hmove hsound fun hcancel => by
        rw [hcancelled] at hcancel
        cases hcancel
      cases hown : s.own? n e with
      | none =>
          obtain ⟨hsame, _⟩ := hfollows.skip hown
          rw [← stopped_outlook hafter, hsame, stopped_outlook hsound, hrunning] at hstopped
          cases hstopped
      | some b => exact number_of_own hown hserving

end State

section

variable {ctx : Context} {n m : Nat} {log log' : Log} {s s' : State}

/-- What is known of every step of a run. -/
theorem step_of_run {cancelled : Bool} {τ : Transition State Event Act}
    (hrun : Run State.step (State.fresh ctx cancelled) log s) (hτ : τ ∈ log) :
    τ.source.Move τ.event τ.acts τ.target ∧ τ.source.context = ctx ∧ τ.source.Prompt ∧
      (∀ (j : Nat) (h : Channel.Handler), τ.source.channels[j]? = some (.serving h) → h.Sound) ∧
      ∀ (j : Nat) (h : Channel.Handler), τ.target.channels[j]? = some (.serving h) → h.Sound := by
  obtain ⟨pre, post, rfl⟩ := List.append_of_mem hτ
  obtain ⟨hpre, hstep, _⟩ := hrun.at_step
  exact ⟨State.move_of_step hstep, (traced_of_run hpre 0).1, prompt_of_run hpre,
    channels_sound hpre, channels_sound (hpre.snoc hstep)⟩

theorem apart_of_run {cancelled : Bool}
    (hrun : Run State.step (State.fresh ctx cancelled) log s) : ∀ τ ∈ log, Apart τ := by
  intro τ hτ
  obtain ⟨hmove, _, hprompt, hsound, hafter⟩ := step_of_run hrun hτ
  constructor
  case others => exact fun k hnumber => State.others_of_move hmove hnumber
  case token => exact State.cancels_of_move hmove
  case tasks => exact fun j => State.tasks_of_move hmove hprompt (hsound j) (hafter j)

/-- An attempt alone: the steps of a run that it notices. -/
def aloneLog (n : Nat) (log : Log) : List (Transition Outlook Event Act) :=
  log.filterMap (Transition.project (State.outlook n) (State.own? n) (Act.about? n))

/-- The steps of a run that an attempt notices are a run of the attempt's own machine. -/
theorem alone_of_run (hrun : Run State.step (State.fresh ctx false) log s)
    (hquiet : Undisturbed n log) :
    Run (Outlook.step ctx) (.absent true) (aloneLog n log) (s.outlook n) ∧
      seen (aloneLog n log) = about n (seen log) := by
  have hfollows : ∀ τ ∈ log, State.Follows n τ.source τ.event τ.acts τ.target := by
    intro τ hτ
    obtain ⟨hmove, _, _, hsound, _⟩ := step_of_run hrun hτ
    exact State.follows_of_move hmove (hsound n) (hquiet τ hτ)
  apply hrun.project (State.outlook n) (State.own? n) (Act.about? n)
  · intro τ hτ e hown
    obtain ⟨_, hctx, _⟩ := step_of_run hrun hτ
    rw [← hctx]
    exact (hfollows τ hτ).take e hown
  · exact fun τ hτ => (hfollows τ hτ).skip

theorem sights_eq (hrun : Run State.step (State.fresh ctx false) log s) :
    log.filterMap (sight? n) =
      (aloneLog n log).map fun ρ => ⟨ρ.event, ρ.acts, ρ.target.stopped⟩ := by
  rw [aloneLog, List.map_filterMap]
  apply List.filterMap_congr
  intro τ hτ
  obtain ⟨_, _, _, _, hafter⟩ := step_of_run hrun hτ
  rw [sight?, Transition.project, Option.map_map, ← State.stopped_outlook (hafter n)]
  rfl

theorem events_aloneLog : (aloneLog n log).map (·.event) = eventsAbout n log := by
  rw [aloneLog, List.map_filterMap, eventsAbout]
  congr 1
  funext τ
  rw [Transition.project, Option.map_map]
  exact Option.map_id'

theorem count_closeStream_about (acts : List Act) :
    (about n acts).count (.channel 0 .closeStream) = (actsOn n acts).count .closeStream := by
  rw [about, actsOn, List.count, List.count, List.countP_filterMap, List.countP_filterMap]
  congr 1
  funext a
  cases a with
  | channel k own =>
      by_cases hk : k = n <;> simp [Act.about?, Act.number?, Act.renumber, Act.on?, hk]
  | _ =>
      simp only [Act.about?, Act.renumber, Act.on?]
      split <;> rfl

theorem Traced.closes_le {stage : Option Stage} (htraced : Traced ctx n log stage) :
    (actsOn n (seen log)).count .closeStream ≤ 1 := by
  rw [← Channel.countP_closeStream]
  cases htraced with
  | absent hacts _ _ | waiting _ _ hacts _ _ => simp [hacts]
  | ended hacts _ _ | crashed _ hacts _ _ => simp [countP_begins_of_forgo hacts]
  | serving _ hrun hacts _ _ _ =>
      rw [hacts, Channel.Handler.countP_close_of_run hrun rfl]
      exact Bool.toNat_le _

/-- Channels are isolated. Nothing that happens to one channel cancels another or the connection;
and if the connection is not cancelled before a channel has come to its end, all that is seen of the
channel follows from what happens to it. -/
theorem channels_isolated (hrun : Run State.step (State.fresh ctx false) log s) :
    (∀ τ ∈ log, Apart τ) ∧
      ∀ n, Undisturbed n log →
        ∀ {m : Nat} {log' : Log} {s' : State}, Run State.step (State.fresh ctx false) log' s' →
          Undisturbed m log' → eventsAbout n log = eventsAbout m log' →
          Indistinct n m log log' s s' := by
  refine ⟨apart_of_run hrun, fun n hquiet m log' s' hrun' hquiet' hevents => ?_⟩
  -- To the attempt both runs are runs of its own machine, whose events decide everything.
  obtain ⟨halone, hseen⟩ := alone_of_run hrun hquiet
  obtain ⟨halone', hseen'⟩ := alone_of_run hrun' hquiet'
  have hlogs : aloneLog n log = aloneLog m log' :=
    halone.unique halone' (by rw [events_aloneLog, events_aloneLog, hevents])
  have houtlook : s.outlook n = s'.outlook m := by
    rw [← hlogs] at halone'
    exact halone.target_unique halone'
  constructor
  case sights => rw [sights_eq hrun, sights_eq hrun', hlogs]
  case acts => rw [← hseen, ← hseen', hlogs]
  case closes =>
    rw [count_closeStream_about]
    exact (traced_of_run hrun n).2.closes_le
  case stopped =>
    rw [← State.stopped_outlook (channels_sound hrun n),
      ← State.stopped_outlook (channels_sound hrun' m), houtlook]

/-- A shell is opened, exits and is closed. Once it is the only channel. In the other run it is the
third: the first is of an unknown kind and cannot even be rejected, the second is closed before the
shell runs, and the fourth is malformed. -/
theorem channels_isolated_shell :
    ∃ ctx log s log' s', Run State.step (State.fresh ctx false) log s ∧
      Run State.step (State.fresh ctx false) log' s' ∧
      .channel 0 (.exec 0 ⟨"team", "ada", ["bash"], false, false⟩) ∈ about 2 (seen log') ∧
      .channel 0 .closeStream ∈ about 2 (seen log') ∧
      Indistinct 0 2 log log' s s' := by
  let shell : List Event :=
    [.openChannel "session" [], .takeOpen, .runOpen 0, .accepted 0 (.ok ()), .channel 0 .advance,
      .channel 0 (.arrive ⟨"shell", [], true⟩), .channel 0 .advance, .channel 0 (.run 0),
      .channel 0 (.returned 0 (.ok ())), .channel 0 (.written 0), .channel 0 .advance,
      .channel 0 .advance, .channel 0 .streamClosed]
  have halone : ∃ log s, Run State.step (State.fresh ⟨⟨"team", "ada"⟩, .standard⟩ false) log s ∧
      Undisturbed 0 log ∧ eventsAbout 0 log = shell ∧
      .channel 0 (.exec 0 ⟨"team", "ada", ["bash"], false, false⟩) ∈ about 0 (seen log) ∧
      .channel 0 .closeStream ∈ about 0 (seen log) :=
    exists_run_of_replay (.advance :: .provisioned (.ok ()) :: shell) (by decide +kernel)
  have hamong : ∃ log s, Run State.step (State.fresh ⟨⟨"team", "ada"⟩, .standard⟩ false) log s ∧
      Undisturbed 2 log ∧ eventsAbout 2 log = shell :=
    exists_run_of_replay
      [.advance, .provisioned (.ok ()), .openChannel "x11" [], .takeOpen, .runOpen 0,
        .openChannel "session" [], .openChannel "session" [], .takeOpen,
        .rejected 0 (.error ⟨"gone", []⟩), .takeOpen, .openChannel "direct-tcpip" [], .runOpen 1,
        .accepted 1 (.ok ()), .runOpen 2, .takeOpen, .accepted 2 (.ok ()), .runOpen 3,
        .channel 1 .advance, .channel 2 .advance, .channel 2 (.arrive ⟨"shell", [], true⟩),
        .channel 1 .hangUp, .channel 1 .advance, .channel 2 .advance, .channel 1 .advance,
        .channel 1 .streamClosed, .channel 2 (.run 0), .rejected 3 (.ok ()),
        .channel 2 (.returned 0 (.ok ())), .channel 2 (.written 0), .channel 2 .advance,
        .channel 2 .advance, .channel 2 .streamClosed, .cancel]
      (by decide +kernel)
  obtain ⟨log, s, hrun, hquiet, hevents, hexec, hclose⟩ := halone
  obtain ⟨log', s', hrun', hquiet', hevents'⟩ := hamong
  have hsame := (channels_isolated hrun).2 0 hquiet hrun' hquiet' (hevents.trans hevents'.symm)
  exact ⟨_, log, s, log', s', hrun, hrun', hsame.acts ▸ hexec, hsame.acts ▸ hclose, hsame⟩

end

end Connection

end SessionGateway
