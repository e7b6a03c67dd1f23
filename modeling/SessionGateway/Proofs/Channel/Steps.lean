import SessionGateway.Channel.Handler
import SessionGateway.Proofs.Run

/-!
# The steps of a channel

`Handler.Move` lists everything that can happen to a channel, each case with its condition, what is
seen of it and the state that it leads to. By `move_of_step` every step of a channel is one of them;
what a step keeps is proved by going through the list.
-/

namespace SessionGateway.Channel

def Job.callAct? (work : Nat) : Job → Option Act
  | .exec request _ => some (.exec work request)
  | .forward request => some (.forward work request)
  | .idle _ | .brief _ _ => none

def Phase.left : Phase → Bool
  | .ready | .serving => false
  | .draining | .closing | .closed => true

def Phase.joined : Phase → Bool
  | .ready | .serving | .draining => false
  | .closing | .closed => true

theorem Phase.left_of_joined {p : Phase} (h : p.joined) : p.left := by
  cases p <;> simp_all [joined, left]

namespace Scratch

@[simp] theorem close_closed (s : Scratch) : s.close.closed = true := rfl
@[simp] theorem close_stopped (s : Scratch) : s.close.stopped = true := rfl
@[simp] theorem close_works (s : Scratch) : s.close.works = s.works := rfl
@[simp] theorem close_sizes (s : Scratch) : s.close.sizes = s.sizes := rfl
@[simp] theorem close_pty (s : Scratch) : s.close.pty = s.pty := rfl
@[simp] theorem close_commandStarted (s : Scratch) :
    s.close.commandStarted = s.commandStarted := rfl

variable (s : Scratch) (i : Nat) (stage : Job.Stage)

@[simp] theorem setStage_closed : (s.setStage i stage).closed = s.closed := rfl
@[simp] theorem setStage_stopped : (s.setStage i stage).stopped = s.stopped := rfl
@[simp] theorem setStage_sizes : (s.setStage i stage).sizes = s.sizes := rfl
@[simp] theorem setStage_pty : (s.setStage i stage).pty = s.pty := rfl
@[simp] theorem setStage_commandStarted :
    (s.setStage i stage).commandStarted = s.commandStarted := rfl

@[simp] theorem setStage_jobs : (s.setStage i stage).works.map Work.job = s.works.map Work.job := by
  simp only [setStage]
  generalize s.works = works
  induction works generalizing i with
  | nil => simp
  | cons w rest ih =>
      cases i with
      | zero => simp
      | succ i =>
          rw [List.modify_succ_cons, List.map_cons, List.map_cons, ih]

/-- A task that moves to another stage counts for that stage and no longer for the one it was
in. -/
theorem countP_setStage {s : Scratch} {i : Nat} {job : Job} {before : Job.Stage}
    (p : Work → Bool) (after : Job.Stage) (hwork : s.works[i]? = some ⟨job, before⟩) :
    (s.setStage i after).works.countP p + (p ⟨job, before⟩).toNat =
      s.works.countP p + (p ⟨job, after⟩).toNat := by
  simp only [setStage]
  generalize s.works = works at hwork
  induction works generalizing i with
  | nil => simp at hwork
  | cons w rest ih =>
      cases i with
      | zero =>
          obtain rfl : w = ⟨job, before⟩ := by simpa using hwork
          rw [List.modify_zero_cons, List.countP_cons, List.countP_cons]
          cases p ⟨job, before⟩ <;> cases p ⟨job, after⟩ <;> simp
      | succ i =>
          have hrest := ih (by simpa using hwork)
          rw [List.modify_succ_cons, List.countP_cons, List.countP_cons]
          omega

theorem running_pos {s : Scratch} {i : Nat} {w : Work} (hwork : s.works[i]? = some w)
    (hstage : w.stage ≠ .done) : 0 < s.running :=
  List.countP_pos_iff.2 ⟨w, List.mem_of_getElem? hwork, by simpa using hstage⟩

end Scratch

namespace Handler

section

variable (h : Handler) (f : Scratch → Scratch) (sizes : Terminal.SizeQueue) (i : Nat) (closes : Bool)

@[simp] theorem mapScratch_scratch : (h.mapScratch f).scratch = f h.scratch := rfl
@[simp] theorem mapScratch_table : (h.mapScratch f).table = h.table := rfl
@[simp] theorem mapScratch_inbox : (h.mapScratch f).inbox = h.inbox := rfl
@[simp] theorem mapScratch_taken : (h.mapScratch f).taken = h.taken := rfl
@[simp] theorem mapScratch_phase : (h.mapScratch f).phase = h.phase := rfl
@[simp] theorem setSizes_scratch :
    (h.setSizes sizes).scratch = { h.scratch with sizes := sizes } := rfl
@[simp] theorem setSizes_table : (h.setSizes sizes).table = h.table := rfl
@[simp] theorem setSizes_inbox : (h.setSizes sizes).inbox = h.inbox := rfl
@[simp] theorem setSizes_taken : (h.setSizes sizes).taken = h.taken := rfl
@[simp] theorem setSizes_phase : (h.setSizes sizes).phase = h.phase := rfl

theorem finishWork_scratch : (h.finishWork i closes).scratch =
    if closes then (h.scratch.setStage i .done).close else h.scratch.setStage i .done := by
  cases closes <;> rfl

@[simp] theorem finishWork_closed :
    (h.finishWork i closes).scratch.closed = (h.scratch.closed || closes) := by
  cases closes <;> simp [finishWork_scratch]

@[simp] theorem finishWork_stopped :
    (h.finishWork i closes).scratch.stopped = (h.scratch.stopped || closes) := by
  cases closes <;> simp [finishWork_scratch]

@[simp] theorem finishWork_works :
    (h.finishWork i closes).scratch.works = (h.scratch.setStage i .done).works := by
  cases closes <;> rfl

@[simp] theorem finishWork_sizes : (h.finishWork i closes).scratch.sizes = h.scratch.sizes := by
  cases closes <;> rfl

@[simp] theorem finishWork_pty : (h.finishWork i closes).scratch.pty = h.scratch.pty := by
  cases closes <;> rfl

@[simp] theorem finishWork_commandStarted :
    (h.finishWork i closes).scratch.commandStarted = h.scratch.commandStarted := by
  cases closes <;> rfl

@[simp] theorem finishWork_table : (h.finishWork i closes).table = h.table := by
  cases closes <;> rfl

@[simp] theorem finishWork_inbox : (h.finishWork i closes).inbox = h.inbox := by
  cases closes <;> rfl

@[simp] theorem finishWork_taken : (h.finishWork i closes).taken = h.taken := by
  cases closes <;> rfl

@[simp] theorem finishWork_phase : (h.finishWork i closes).phase = h.phase := by
  cases closes <;> rfl

end

inductive Move (ctx : Context) (h : Handler) : Event → List Act → Handler → Prop
  | arrive (r : ChannelRequest) :
      Move ctx h (.arrive r) [] { h with inbox := h.inbox.send r }
  | hangUp : Move ctx h .hangUp [] { h with inbox := h.inbox.finish }
  | cancel : Move ctx h .cancel [] (h.mapScratch Scratch.close)
  | start (hphase : h.phase = .ready) :
      Move ctx h .advance (Table.runStartup ctx h.table.startup h.scratch).2
        { h with
          scratch := (Table.runStartup ctx h.table.startup h.scratch).1
          phase := .serving }
  | take {raw : ChannelRequest} {rest : List ChannelRequest} (hphase : h.phase = .serving)
      (hopen : h.scratch.closed = false) (hqueue : h.inbox.queued = raw :: rest) :
      Move ctx h .advance (h.table.dispatch ctx h.taken raw h.scratch).2
        { h with
          scratch := (h.table.dispatch ctx h.taken raw h.scratch).1
          inbox := { h.inbox with queued := rest }
          taken := h.taken + 1 }
  | leave (hphase : h.phase = .serving)
      (hend : h.scratch.closed = true ∨ h.inbox.exhausted = true) :
      Move ctx h .advance (forgoFrom h.taken h.inbox.queued) h.leave.1
  | close (hphase : h.phase = .draining) (hidle : h.scratch.running = 0) :
      Move ctx h .advance [.closeStream] { h with phase := .closing }
  | call {i : Nat} {job : Job} {act : Act} (hwork : h.scratch.works[i]? = some ⟨job, .ready⟩)
      (hact : job.callAct? i = some act) :
      Move ctx h (.run i) [act] (h.mapScratch (·.setStage i .calling))
  | brief {i : Nat} {label : String} {closes : Bool}
      (hwork : h.scratch.works[i]? = some ⟨.brief label closes, .ready⟩) :
      Move ctx h (.run i) [] (h.finishWork i closes)
  | join {i : Nat} {label : String} (hwork : h.scratch.works[i]? = some ⟨.idle label, .ready⟩)
      (hstop : h.scratch.stopped = true) :
      Move ctx h (.run i) [.joined label] (h.finishWork i false)
  | execEnds {i : Nat} {request : ExecRequest} {interactive : Bool} {outcome : Except Cause Unit}
      (hwork : h.scratch.works[i]? = some ⟨.exec request interactive, .calling⟩)
      (hend : h.scratch.stopped = true ∨ ¬(interactive ∧ closingLine ctx outcome ≠ "")) :
      Move ctx h (.returned i outcome)
        (if h.scratch.stopped then [] else execWarning outcome) (h.finishWork i true)
  | write {i : Nat} {request : ExecRequest} {interactive : Bool} {outcome : Except Cause Unit}
      (hwork : h.scratch.works[i]? = some ⟨.exec request interactive, .calling⟩)
      (hstop : h.scratch.stopped = false)
      (hline : interactive ∧ closingLine ctx outcome ≠ "") :
      Move ctx h (.returned i outcome)
        (execWarning outcome ++ [.write i (closingLine ctx outcome)])
        (h.mapScratch (·.setStage i (.writing (closingLine ctx outcome))))
  | forwardEnds {i : Nat} {request : ForwardRequest} {outcome : Except Cause Unit}
      (hwork : h.scratch.works[i]? = some ⟨.forward request, .calling⟩) :
      Move ctx h (.returned i outcome)
        (if h.scratch.stopped then [] else forwardWarning outcome) (h.finishWork i true)
  | written {i : Nat} {job : Job} {line : String}
      (hwork : h.scratch.works[i]? = some ⟨job, .writing line⟩) :
      Move ctx h (.written i) [] (h.finishWork i true)
  | streamClosed (hphase : h.phase = .closing) :
      Move ctx h .streamClosed [] { h with phase := .closed }
  | pollSize {size : Option Terminal.Size} {sizes : Terminal.SizeQueue}
      (hpoll : h.scratch.sizes.poll = some (size, sizes)) :
      Move ctx h .pollSize [.delivered none size] (h.setSizes sizes)
  | awaitSize (consumer : Nat) :
      Move ctx h (.awaitSize consumer) [] (h.setSizes (h.scratch.sizes.enqueue consumer))
  | abandonSize (consumer : Nat) :
      Move ctx h (.abandonSize consumer) [] (h.setSizes (h.scratch.sizes.abandon consumer))
  | serveSize {consumer : Nat} {size : Option Terminal.Size} {sizes : Terminal.SizeQueue}
      (hserve : h.scratch.sizes.serve? = some (consumer, size, sizes)) :
      Move ctx h .serveSize [.delivered (some consumer) size] (h.setSizes sizes)

variable {ctx : Context} {h t : Handler} {acts : List Act}

theorem move_of_advance (hstep : h.advance? ctx = some (t, acts)) :
    Move ctx h .advance acts t := by
  unfold advance? at hstep
  split at hstep
  · rename_i hphase
    obtain ⟨rfl, rfl⟩ := Prod.mk.inj (Option.some.inj hstep)
    exact .start hphase
  · rename_i hphase
    split at hstep
    · rename_i hclosed
      obtain ⟨rfl, rfl⟩ := Prod.mk.inj (Option.some.inj hstep)
      exact .leave hphase (.inl hclosed)
    · rename_i hopen
      unfold Inbox.take? at hstep
      cases hqueue : h.inbox.queued with
      | nil =>
          simp only [hqueue] at hstep
          split at hstep
          · rename_i hended
            obtain ⟨rfl, rfl⟩ := Prod.mk.inj (Option.some.inj hstep)
            exact .leave hphase (.inr (by simp [Inbox.exhausted, hqueue, hended]))
          · cases hstep
      | cons raw rest =>
          simp only [hqueue] at hstep
          obtain ⟨rfl, rfl⟩ := Prod.mk.inj (Option.some.inj hstep)
          exact .take hphase (by simpa using hopen) hqueue
  · rename_i hphase
    split at hstep
    · rename_i hidle
      obtain ⟨rfl, rfl⟩ := Prod.mk.inj (Option.some.inj hstep)
      exact .close hphase hidle
    · cases hstep
  all_goals cases hstep

theorem move_of_run {i : Nat} (hstep : h.run? i = some (t, acts)) : Move ctx h (.run i) acts t := by
  unfold run? at hstep
  split at hstep
  · rename_i job hwork
    cases job with
    | exec request interactive =>
        obtain ⟨rfl, rfl⟩ := Prod.mk.inj (Option.some.inj hstep)
        exact .call hwork rfl
    | forward request =>
        obtain ⟨rfl, rfl⟩ := Prod.mk.inj (Option.some.inj hstep)
        exact .call hwork rfl
    | idle label =>
        simp only at hstep
        split at hstep
        · rename_i hstop
          obtain ⟨rfl, rfl⟩ := Prod.mk.inj (Option.some.inj hstep)
          exact .join hwork hstop
        · cases hstep
    | brief label closes =>
        obtain ⟨rfl, rfl⟩ := Prod.mk.inj (Option.some.inj hstep)
        exact .brief hwork
  · cases hstep

theorem move_of_returned {i : Nat} {outcome : Except Cause Unit}
    (hstep : h.returned? ctx i outcome = some (t, acts)) :
    Move ctx h (.returned i outcome) acts t := by
  unfold returned? at hstep
  split at hstep
  · rename_i request interactive hwork
    split at hstep
    · rename_i hstop
      obtain ⟨rfl, rfl⟩ := Prod.mk.inj (Option.some.inj hstep)
      have hmove : Move ctx h (.returned i outcome) _ _ := .execEnds hwork (.inl hstop)
      simpa [hstop] using hmove
    · rename_i hstop
      simp only at hstep
      split at hstep
      · rename_i hline
        obtain ⟨rfl, rfl⟩ := Prod.mk.inj (Option.some.inj hstep)
        exact .write hwork (by simpa using hstop) hline
      · rename_i hline
        obtain ⟨rfl, rfl⟩ := Prod.mk.inj (Option.some.inj hstep)
        have hmove : Move ctx h (.returned i outcome) _ _ := .execEnds hwork (.inr hline)
        simpa [hstop] using hmove
  · rename_i request hwork
    obtain ⟨rfl, rfl⟩ := Prod.mk.inj (Option.some.inj hstep)
    exact .forwardEnds hwork
  · cases hstep

theorem move_of_step {e : Event} (hstep : h.step ctx e = some (t, acts)) : Move ctx h e acts t := by
  cases e with
  | arrive r =>
      obtain ⟨rfl, rfl⟩ := Prod.mk.inj (Option.some.inj hstep)
      exact .arrive r
  | hangUp =>
      obtain ⟨rfl, rfl⟩ := Prod.mk.inj (Option.some.inj hstep)
      exact .hangUp
  | cancel =>
      obtain ⟨rfl, rfl⟩ := Prod.mk.inj (Option.some.inj hstep)
      exact .cancel
  | advance => exact move_of_advance hstep
  | run i => exact move_of_run hstep
  | returned i outcome => exact move_of_returned hstep
  | written i =>
      simp only [step, written?] at hstep
      split at hstep
      · rename_i hwork
        obtain ⟨rfl, rfl⟩ := Prod.mk.inj (Option.some.inj hstep)
        exact .written hwork
      · cases hstep
  | streamClosed =>
      simp only [step] at hstep
      split at hstep
      · rename_i hphase
        obtain ⟨rfl, rfl⟩ := Prod.mk.inj (Option.some.inj hstep)
        exact .streamClosed hphase
      · cases hstep
  | pollSize =>
      obtain ⟨⟨size, sizes⟩, hpoll, heq⟩ := Option.map_eq_some_iff.1 hstep
      obtain ⟨rfl, rfl⟩ := Prod.mk.inj heq
      exact .pollSize hpoll
  | awaitSize consumer =>
      obtain ⟨rfl, rfl⟩ := Prod.mk.inj (Option.some.inj hstep)
      exact .awaitSize consumer
  | abandonSize consumer =>
      obtain ⟨rfl, rfl⟩ := Prod.mk.inj (Option.some.inj hstep)
      exact .abandonSize consumer
  | serveSize =>
      obtain ⟨⟨consumer, size, sizes⟩, hserve, heq⟩ := Option.map_eq_some_iff.1 hstep
      obtain ⟨rfl, rfl⟩ := Prod.mk.inj heq
      exact .serveSize hserve

/-- The list holds nothing that cannot happen. -/
theorem step_of_move {e : Event} (hmove : Move ctx h e acts t) : h.step ctx e = some (t, acts) := by
  cases hmove with
  | arrive _ | hangUp | cancel | awaitSize _ | abandonSize _ => rfl
  | start hphase => simp [step, advance?, hphase]
  | take hphase hopen hqueue => simp [step, advance?, hphase, hopen, Inbox.take?, hqueue]
  | leave hphase hend =>
      by_cases hclosed : h.scratch.closed = true
      · simp [step, advance?, hphase, hclosed, leave]
      · have hexhausted := hend.resolve_left hclosed
        obtain ⟨hempty, hended⟩ : h.inbox.queued = [] ∧ h.inbox.ended = true := by
          simpa [Inbox.exhausted] using hexhausted
        simp [step, advance?, hphase, hclosed, Inbox.take?, hempty, hended, leave]
  | close hphase hidle => simp [step, advance?, hphase, hidle]
  | @call i job act hwork hact =>
      cases job <;> simp only [Job.callAct?, Option.some.injEq, reduceCtorEq] at hact <;>
        subst hact <;> simp [step, run?, hwork]
  | brief hwork => simp [step, run?, hwork]
  | join hwork hstop => simp [step, run?, hwork, hstop]
  | @execEnds i request interactive outcome hwork hend =>
      by_cases hstop : h.scratch.stopped = true
      · simp [step, returned?, hwork, hstop]
      · have hline := hend.resolve_left hstop
        simp only [step, returned?, hwork, hstop, if_neg hline]
        rfl
  | write hwork hstop hline =>
      simp only [step, returned?, hwork, hstop, if_pos hline]
      rfl
  | forwardEnds hwork => simp [step, returned?, hwork]
  | written hwork => simp [step, written?, hwork]
  | streamClosed hphase => simp [step, hphase]
  | pollSize hpoll => simp [step, hpoll]
  | serveSize hserve => simp [step, hserve]

end Handler

end SessionGateway.Channel
