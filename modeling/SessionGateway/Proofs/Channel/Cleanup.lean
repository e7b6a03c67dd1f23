import SessionGateway.Proofs.Channel.Tasks

/-!
# Cleaning up a channel

However a channel leaves its loop, its tasks have been told to stop, and its stream is closed once,
after all of them have ended. From then on nothing is asked of the cluster or of the stream. What
has been begun on a channel and has not ended is told by `Handler.pending`.
-/

namespace SessionGateway.Channel

/-- What the gateway begins on a channel and waits for. -/
inductive Operation where
  | call
  | write
  | close
  deriving DecidableEq

namespace Operation

def begins : Operation → Act → Bool
  | .call, .exec _ _ | .call, .forward _ _ => true
  | .write, .write _ _ => true
  | .close, .closeStream => true
  | _, _ => false

def ends : Operation → Event → Bool
  | .call, .returned _ _ => true
  | .write, .written _ => true
  | .close, .streamClosed => true
  | _, _ => false

theorem begins_of_not_isCall {op : Operation} {a : Act} (h : a.isCall = false) :
    op.begins a = false := by
  cases op <;> cases a <;> simp_all [begins, Act.isCall]

theorem countP_begins {op : Operation} {acts : List Act} (h : ∀ a ∈ acts, a.isCall = false) :
    acts.countP op.begins = 0 :=
  List.countP_eq_zero.2 fun a ha => by simp [begins_of_not_isCall (h a ha)]

def waits : Operation → Work → Bool
  | .call, w => w.stage = .calling
  | .write, ⟨_, .writing _⟩ => true
  | _, _ => false

def waitsIn : Operation → Phase → Bool
  | .close, .closing => true
  | _, _ => false

@[simp] theorem waits_ready (op : Operation) (job : Job) : op.waits ⟨job, .ready⟩ = false := by
  cases op <;> rfl

@[simp] theorem waits_done (op : Operation) (job : Job) : op.waits ⟨job, .done⟩ = false := by
  cases op <;> rfl

theorem stage_ne_done_of_waits {op : Operation} {w : Work} (h : op.waits w = true) :
    w.stage ≠ .done := by
  obtain ⟨job, stage⟩ := w
  rintro rfl
  simp at h

end Operation

theorem countP_closeStream (acts : List Act) :
    acts.countP Operation.close.begins = acts.count .closeStream := by
  rw [List.count]
  congr 1
  funext a
  cases a <;> rfl

/-- Whether an event comes from the peer, from the connection, or from the command that reads
sizes. -/
def Event.isOutside : Event → Bool
  | .arrive _ | .hangUp | .cancel | .pollSize | .awaitSize _ | .abandonSize _ | .serveSize => true
  | _ => false

namespace Handler

/-- How many of the operations have begun on a channel and not ended. -/
def pending (op : Operation) (h : Handler) : Nat :=
  h.scratch.works.countP op.waits + (op.waitsIn h.phase).toNat

/-- A channel that has been accepted, with the requests that have arrived for it so far. -/
def opened (ctx : Context) (table : Table) (forwardOpen : Option ForwardOpen) (cancelled : Bool)
    (early : List ChannelRequest) (ended : Bool) : Handler :=
  { Handler.accepted ctx table forwardOpen cancelled with inbox := ⟨early, ended, false⟩ }

structure Sound (h : Handler) : Prop where
  orderly : h.table.Orderly
  stopped_of_closed : h.scratch.closed = true → h.scratch.stopped = true
  stopped_of_left : h.phase.left = true → h.scratch.stopped = true
  inbox_of_left : h.phase.left = true → h.inbox.dropped = true ∧ h.inbox.queued = []
  running_of_joined : h.phase.joined = true → h.scratch.running = 0

variable {ctx : Context} {h t : Handler} {e : Event} {acts : List Act}

theorem sound_opened {table : Table} (horderly : table.Orderly) (forwardOpen : Option ForwardOpen)
    (cancelled : Bool) (early : List ChannelRequest) (ended : Bool) :
    (opened ctx table forwardOpen cancelled early ended).Sound where
  orderly := horderly
  stopped_of_closed hclosed := hclosed
  stopped_of_left hleft := by simp [opened, accepted, Phase.left] at hleft
  inbox_of_left hleft := by simp [opened, accepted, Phase.left] at hleft
  running_of_joined hjoined := by simp [opened, accepted, Phase.joined] at hjoined

/-- A task that has not ended keeps the channel from closing its stream. -/
theorem Sound.not_joined (hsound : h.Sound) {i : Nat} {w : Work}
    (hwork : h.scratch.works[i]? = some w) (hstage : w.stage ≠ .done) : h.phase.joined = false := by
  rw [Bool.eq_false_iff]
  intro hjoined
  have hrunning := hsound.running_of_joined hjoined
  have hpos := Scratch.running_pos hwork hstage
  omega

theorem Sound.setStage (hsound : h.Sound) {i : Nat} {w : Work} (stage : Job.Stage)
    (hwork : h.scratch.works[i]? = some w) (hstage : w.stage ≠ .done) :
    (h.mapScratch (·.setStage i stage)).Sound where
  orderly := hsound.orderly
  stopped_of_closed := hsound.stopped_of_closed
  stopped_of_left := hsound.stopped_of_left
  inbox_of_left := hsound.inbox_of_left
  running_of_joined hjoined := by
    have hfree := hsound.not_joined hwork hstage
    simp [hfree] at hjoined

theorem Sound.close (hsound : h.Sound) : (h.mapScratch Scratch.close).Sound where
  orderly := hsound.orderly
  stopped_of_closed _ := rfl
  stopped_of_left _ := rfl
  inbox_of_left := hsound.inbox_of_left
  running_of_joined := hsound.running_of_joined

theorem Sound.finishWork (hsound : h.Sound) {i : Nat} {w : Work} (closes : Bool)
    (hwork : h.scratch.works[i]? = some w) (hstage : w.stage ≠ .done) :
    (h.finishWork i closes).Sound := by
  have hdone := hsound.setStage .done hwork hstage
  cases closes with
  | false => exact hdone
  | true => exact hdone.close

theorem Sound.setSizes (hsound : h.Sound) (sizes : Terminal.SizeQueue) :
    (h.setSizes sizes).Sound where
  orderly := hsound.orderly
  stopped_of_closed := hsound.stopped_of_closed
  stopped_of_left := hsound.stopped_of_left
  inbox_of_left := hsound.inbox_of_left
  running_of_joined := hsound.running_of_joined

theorem Sound.move (hsound : h.Sound) (hmove : Move ctx h e acts t) : t.Sound := by
  cases hmove with
  | arrive r =>
      refine { hsound with inbox_of_left := fun hleft => ?_ }
      obtain ⟨hdropped, hqueued⟩ := hsound.inbox_of_left hleft
      simp [Inbox.send, Inbox.accepts, hdropped, hqueued]
  | hangUp => exact { hsound with }
  | cancel => exact hsound.close
  | start hphase =>
      have hgrows : h.scratch.Grows (Table.runStartup ctx h.table.startup h.scratch).1 :=
        Table.runStartup_grows hsound.orderly.startup
      exact {
        orderly := hsound.orderly
        stopped_of_closed := hgrows.stopped_of_closed hsound.stopped_of_closed
        stopped_of_left := by simp [Phase.left]
        inbox_of_left := by simp [Phase.left]
        running_of_joined := by simp [Phase.joined] }
  | @take raw _ hphase _ _ =>
      have hgrows : h.scratch.Grows (h.table.dispatch ctx h.taken raw h.scratch).1 :=
        hsound.orderly.dispatch_grows h.taken raw
      exact {
        orderly := hsound.orderly
        stopped_of_closed := hgrows.stopped_of_closed hsound.stopped_of_closed
        stopped_of_left := by simp [hphase, Phase.left]
        inbox_of_left := by simp [hphase, Phase.left]
        running_of_joined := by simp [hphase, Phase.joined] }
  | leave _ _ =>
      exact {
        orderly := hsound.orderly
        stopped_of_closed := fun _ => rfl
        stopped_of_left := fun _ => rfl
        inbox_of_left := fun _ => ⟨rfl, rfl⟩
        running_of_joined := by simp [Handler.leave, Phase.joined] }
  | close hphase hidle =>
      have hleft : h.phase.left = true := by rw [hphase]; rfl
      exact {
        orderly := hsound.orderly
        stopped_of_closed := hsound.stopped_of_closed
        stopped_of_left := fun _ => hsound.stopped_of_left hleft
        inbox_of_left := fun _ => hsound.inbox_of_left hleft
        running_of_joined := fun _ => hidle }
  | call hwork _ => exact hsound.setStage .calling hwork (by simp)
  | brief hwork => exact hsound.finishWork _ hwork (by simp)
  | join hwork _ => exact hsound.finishWork false hwork (by simp)
  | execEnds hwork _ => exact hsound.finishWork true hwork (by simp)
  | write hwork _ _ => exact hsound.setStage _ hwork (by simp)
  | forwardEnds hwork => exact hsound.finishWork true hwork (by simp)
  | written hwork => exact hsound.finishWork true hwork (by simp)
  | streamClosed hphase =>
      have hjoined : h.phase.joined = true := by rw [hphase]; rfl
      have hleft := Phase.left_of_joined hjoined
      exact {
        orderly := hsound.orderly
        stopped_of_closed := hsound.stopped_of_closed
        stopped_of_left := fun _ => hsound.stopped_of_left hleft
        inbox_of_left := fun _ => hsound.inbox_of_left hleft
        running_of_joined := fun _ => hsound.running_of_joined hjoined }
  | pollSize _ => exact hsound.setSizes _
  | awaitSize _ => exact hsound.setSizes _
  | abandonSize _ => exact hsound.setSizes _
  | serveSize _ => exact hsound.setSizes _

theorem Sound.step (hsound : h.Sound) (hstep : h.step ctx e = some (t, acts)) : t.Sound :=
  hsound.move (move_of_step hstep)

/-! ## What has begun and what has ended -/

theorem pending_setStage (op : Operation) {i : Nat} {job : Job} {before : Job.Stage}
    (after : Job.Stage) (hwork : h.scratch.works[i]? = some ⟨job, before⟩) :
    (h.mapScratch (·.setStage i after)).pending op + (op.waits ⟨job, before⟩).toNat =
      h.pending op + (op.waits ⟨job, after⟩).toNat := by
  have hcount := Scratch.countP_setStage op.waits after hwork
  simp only [pending, mapScratch_scratch, mapScratch_phase]
  omega

theorem pending_finishWork (op : Operation) {i : Nat} {job : Job} {before : Job.Stage}
    (closes : Bool) (hwork : h.scratch.works[i]? = some ⟨job, before⟩) :
    (h.finishWork i closes).pending op + (op.waits ⟨job, before⟩).toNat = h.pending op := by
  have hdone := pending_setStage op .done hwork
  rw [Operation.waits_done] at hdone
  cases closes <;> exact hdone

theorem pending_of_grows {op : Operation} {s : Scratch} (hgrows : h.scratch.Grows s) :
    s.works.countP op.waits = h.scratch.works.countP op.waits := by
  obtain ⟨jobs, hworks⟩ := hgrows.works
  have hready : (jobs.map fun job => (⟨job, .ready⟩ : Work)).countP op.waits = 0 := by
    simp [List.countP_eq_zero]
  rw [hworks, List.countP_append, hready, Nat.add_zero]

theorem countP_begins_warnings (op : Operation) (outcome : Except Cause Unit) :
    (execWarning outcome).countP op.begins = 0 ∧ (forwardWarning outcome).countP op.begins = 0 := by
  constructor <;> apply Operation.countP_begins <;> cases outcome <;>
    simp [execWarning, forwardWarning, Act.isCall]

/-- Every step adds to what is pending what it begins, and takes away what it ends. -/
theorem Sound.balance (hsound : h.Sound) (op : Operation) (hmove : Move ctx h e acts t) :
    h.pending op + acts.countP op.begins = t.pending op + (op.ends e).toNat := by
  cases hmove with
  | arrive r => cases op <;> rfl
  | hangUp => cases op <;> rfl
  | cancel => cases op <;> rfl
  | start hphase =>
      have hgrows : h.scratch.Grows (Table.runStartup ctx h.table.startup h.scratch).1 :=
        Table.runStartup_grows hsound.orderly.startup
      rw [Operation.countP_begins Table.runStartup_isCall]
      simp only [pending, pending_of_grows hgrows, hphase]
      cases op <;> rfl
  | @take raw _ hphase _ _ =>
      have hgrows : h.scratch.Grows (h.table.dispatch ctx h.taken raw h.scratch).1 :=
        hsound.orderly.dispatch_grows h.taken raw
      rw [Operation.countP_begins Table.dispatch_isCall]
      simp only [pending, pending_of_grows hgrows]
      cases op <;> rfl
  | leave hphase _ =>
      rw [Operation.countP_begins forgoFrom_isCall]
      simp only [pending, Handler.leave, hphase]
      cases op <;> rfl
  | close hphase _ =>
      simp only [pending, hphase]
      cases op <;> rfl
  | @call i job act hwork hact =>
      -- Only tasks that run a command or a forward call, and each call begins one operation.
      have hset := pending_setStage op .calling hwork
      cases job <;> simp only [Job.callAct?, Option.some.injEq, reduceCtorEq] at hact <;>
        subst hact <;> cases op <;> simp_all [Operation.begins, Operation.ends, Operation.waits]
  | @brief _ _ closes hwork =>
      have hset := pending_finishWork op closes hwork
      cases op <;> simp_all [Operation.ends, Operation.waits]
  | join hwork _ =>
      have hset := pending_finishWork op false hwork
      cases op <;> simp_all [Operation.begins, Operation.ends, Operation.waits]
  | @execEnds i request interactive outcome hwork _ =>
      have hset := pending_finishWork op true hwork
      have hnone : (if h.scratch.stopped then [] else execWarning outcome).countP op.begins = 0 := by
        split
        · rfl
        · exact (countP_begins_warnings op outcome).1
      cases op <;> simp_all [Operation.ends, Operation.waits]
  | @write i request interactive outcome hwork _ _ =>
      have hset := pending_setStage op (.writing (closingLine ctx outcome)) hwork
      have hnone := (countP_begins_warnings op outcome).1
      rw [List.countP_append, hnone]
      cases op <;> simp_all [Operation.begins, Operation.ends, Operation.waits]
  | @forwardEnds i request outcome hwork =>
      have hset := pending_finishWork op true hwork
      have hnone : (if h.scratch.stopped then [] else forwardWarning outcome).countP op.begins = 0 := by
        split
        · rfl
        · exact (countP_begins_warnings op outcome).2
      cases op <;> simp_all [Operation.ends, Operation.waits]
  | written hwork =>
      have hset := pending_finishWork op true hwork
      cases op <;> simp_all [Operation.ends, Operation.waits]
  | streamClosed hphase =>
      simp only [pending, hphase]
      cases op <;> rfl
  | pollSize _ => cases op <;> rfl
  | awaitSize _ => cases op <;> rfl
  | abandonSize _ => cases op <;> rfl
  | serveSize _ => cases op <;> rfl

/-- The stream is closed by the step with which the channel has waited for its tasks, and by no
other. -/
theorem countP_close (hmove : Move ctx h e acts t) :
    h.phase.joined.toNat + acts.countP Operation.close.begins = t.phase.joined.toNat := by
  cases hmove with
  | start hphase =>
      rw [Operation.countP_begins Table.runStartup_isCall, hphase]
      rfl
  | take _ _ _ =>
      rw [Operation.countP_begins Table.dispatch_isCall]
      rfl
  | leave hphase _ =>
      rw [Operation.countP_begins forgoFrom_isCall, hphase]
      rfl
  | close hphase _ =>
      rw [hphase]
      rfl
  | @call i job act _ hact =>
      cases job <;> simp only [Job.callAct?, Option.some.injEq, reduceCtorEq] at hact <;>
        subst hact <;> rfl
  | @execEnds i request interactive outcome _ _ =>
      split
      · simp
      · simp [(countP_begins_warnings .close outcome).1]
  | @write i request interactive outcome _ _ _ =>
      rw [List.countP_append, (countP_begins_warnings .close outcome).1]
      rfl
  | @forwardEnds i request outcome _ =>
      split
      · simp
      · simp [(countP_begins_warnings .close outcome).2]
  | streamClosed hphase =>
      rw [hphase]
      rfl
  | _ => simp [Operation.begins]

theorem countP_close_of_run {log : List (Transition Handler Event Act)}
    (hrun : Run (Handler.step ctx) h log t) (hstart : h.phase.joined = false) :
    (seen log).countP Operation.close.begins = t.phase.joined.toNat := by
  induction hrun with
  | nil => simp [hstart]
  | snoc _ hstep ih =>
      have hlast := countP_close (move_of_step hstep)
      rw [seen_append, List.countP_append, ih]
      simpa using hlast

/-- On a closed channel nothing happens any more that a task of the gateway does or waits for. -/
theorem Sound.outside_of_closed (hsound : h.Sound) (hphase : h.phase = .closed)
    (hmove : Move ctx h e acts t) : e.isOutside = true := by
  have hjoined : h.phase.joined = true := by rw [hphase]; rfl
  have hbusy : ∀ {i : Nat} {w : Work}, h.scratch.works[i]? = some w → w.stage ≠ .done → False := by
    intro i w hwork hstage
    rw [hsound.not_joined hwork hstage] at hjoined
    cases hjoined
  cases hmove with
  | arrive _ | hangUp | cancel | awaitSize _ | abandonSize _ | pollSize _ | serveSize _ => rfl
  | start hready => rw [hphase] at hready; cases hready
  | take hserving _ _ => rw [hphase] at hserving; cases hserving
  | leave hserving _ => rw [hphase] at hserving; cases hserving
  | close hdraining _ => rw [hphase] at hdraining; cases hdraining
  | streamClosed hclosing => rw [hphase] at hclosing; cases hclosing
  | call hwork _ => exact (hbusy hwork (by simp)).elim
  | brief hwork => exact (hbusy hwork (by simp)).elim
  | join hwork _ => exact (hbusy hwork (by simp)).elim
  | execEnds hwork _ => exact (hbusy hwork (by simp)).elim
  | write hwork _ _ => exact (hbusy hwork (by simp)).elim
  | forwardEnds hwork => exact (hbusy hwork (by simp)).elim
  | written hwork => exact (hbusy hwork (by simp)).elim

/-- What still happens on a closed channel is that the command's side reads sizes. -/
theorem Sound.closed_move (hsound : h.Sound) (hphase : h.phase = .closed)
    (hmove : Move ctx h e acts t) :
    t.phase = .closed ∧ ∀ a ∈ acts, ∃ consumer size, a = .delivered consumer size := by
  have houtside := hsound.outside_of_closed hphase hmove
  cases hmove with
  | arrive _ | hangUp | cancel | awaitSize _ | abandonSize _ => simpa using hphase
  | pollSize _ | serveSize _ => simpa using hphase
  | _ => cases houtside

end Handler

end SessionGateway.Channel
