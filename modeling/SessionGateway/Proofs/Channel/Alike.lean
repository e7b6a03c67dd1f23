import SessionGateway.Proofs.Channel.Origin

/-!
# What the peer has no say in

A request for a terminal carries the terminal's name, its size in pixels and its modes, and a forward
is opened with a host and with the address of its originator. Nothing that a channel asks of the
cluster depends on any of these, nor on the name and the payload of a request that the gateway does
not know: channels that differ only in this go on side by side, and call the cluster in the same
steps for the same.
-/

namespace SessionGateway

/-- Requests that differ only in what nothing depends on. -/
inductive ChannelRequest.Alike : ChannelRequest → ChannelRequest → Prop
  | same (r : ChannelRequest) : Alike r r
  | terminal {r q : ChannelRequest} {pty other : PtyRequest}
      (hr : Request.decode r.name r.payload = .ok (.pty pty))
      (hq : Request.decode q.name q.payload = .ok (.pty other))
      (hcols : pty.dimensions.cols = other.dimensions.cols)
      (hrows : pty.dimensions.rows = other.dimensions.rows)
      (hreply : r.wantReply = q.wantReply) : Alike r q
  | resize {r q : ChannelRequest} {dimensions other : Dimensions}
      (hr : Request.decode r.name r.payload = .ok (.windowChange dimensions))
      (hq : Request.decode q.name q.payload = .ok (.windowChange other))
      (hcols : dimensions.cols = other.cols) (hrows : dimensions.rows = other.rows)
      (hreply : r.wantReply = q.wantReply) : Alike r q
  | unknown {r q : ChannelRequest} {name other : String}
      (hr : Request.decode r.name r.payload = .ok (.other name))
      (hq : Request.decode q.name q.payload = .ok (.other other))
      (hreply : r.wantReply = q.wantReply) : Alike r q

structure Inbox.Alike {α : Type} (R : α → α → Prop) (b c : Inbox α) : Prop where
  queued : List.Forall₂ R b.queued c.queued
  ended : b.ended = c.ended
  dropped : b.dropped = c.dropped

namespace Inbox.Alike

variable {α : Type} {R : α → α → Prop} {b c : Inbox α}

theorem fresh : Inbox.Alike R (Inbox.fresh : Inbox α) .fresh :=
  ⟨.nil, rfl, rfl⟩

theorem send {x y : α} (halike : b.Alike R c) (hxy : R x y) :
    (b.send x).Alike R (c.send y) := by
  have haccepts : b.accepts = c.accepts := by
    rw [Inbox.accepts, Inbox.accepts, halike.ended, halike.dropped]
  unfold Inbox.send
  rw [haccepts]
  split
  · exact ⟨List.rel_append halike.queued (.cons hxy .nil), halike.ended, halike.dropped⟩
  · exact halike

theorem finish (halike : b.Alike R c) : b.finish.Alike R c.finish :=
  ⟨halike.queued, rfl, halike.dropped⟩

theorem drop (halike : b.Alike R c) : b.drop.Alike R c.drop :=
  ⟨.nil, halike.ended, rfl⟩

theorem exhausted (halike : b.Alike R c) : b.exhausted = c.exhausted := by
  have hempty : b.queued.isEmpty = c.queued.isEmpty := by
    have hqueued := halike.queued
    cases hb : b.queued <;> cases hc : c.queued <;> simp_all
  rw [Inbox.exhausted, Inbox.exhausted, hempty, halike.ended]

end Inbox.Alike

namespace Channel

/-- Events of a channel that differ only in what nothing depends on. -/
inductive Event.Alike : Event → Event → Prop
  | same (e : Event) : Alike e e
  | arrive {r q : ChannelRequest} (halike : r.Alike q) : Alike (.arrive r) (.arrive q)

def calls (acts : List Act) : List Act :=
  acts.filter Operation.call.begins

/-- Channels whose callbacks share the same but for the terminal's name, its size in pixels and its
modes, and for what a forward was opened with besides its port. -/
structure Scratch.Alike (s t : Scratch) : Prop where
  closed : s.closed = t.closed
  stopped : s.stopped = t.stopped
  works : s.works = t.works
  sizes : s.sizes = t.sizes
  terminal : s.pty.isSome = t.pty.isSome
  commandStarted : s.commandStarted = t.commandStarted
  opened : s.forwardOpen.map (·.port) = t.forwardOpen.map (·.port)

structure Handler.Alike (h k : Handler) : Prop where
  table : h.table = k.table
  known : h.table = Session.table ∨ h.table = Forward.table
  scratch : h.scratch.Alike k.scratch
  inbox : h.inbox.Alike ChannelRequest.Alike k.inbox
  taken : h.taken = k.taken
  phase : h.phase = k.phase

theorem calls_of_not_isCall {acts : List Act} (h : ∀ a ∈ acts, a.isCall = false) :
    calls acts = [] :=
  List.filter_eq_nil_iff.2 fun a ha => by simp [Operation.begins_of_not_isCall (h a ha)]

/-! ## Handling a request -/

namespace Session

/-- Requests that are alike ask a session for the same. -/
theorem same_of_alike {r q : ChannelRequest} (halike : r.Alike q) :
    r.asksTerminal = q.asksTerminal ∧
    (∀ ctx terminal, job? ctx terminal r = job? ctx terminal q) ∧
    ∀ terminal, broughtSize? terminal r = broughtSize? terminal q := by
  cases halike with
  | same => exact ⟨rfl, fun _ _ => rfl, fun _ => rfl⟩
  | terminal hr hq hcols hrows _ =>
      simp [ChannelRequest.asksTerminal, job?, broughtSize?, ChannelRequest.asked_eq_some.2 hr,
        ChannelRequest.asked_eq_some.2 hq, Dimensions.size, hcols, hrows]
  | resize hr hq hcols hrows _ =>
      simp [ChannelRequest.asksTerminal, job?, broughtSize?, ChannelRequest.asked_eq_some.2 hr,
        ChannelRequest.asked_eq_some.2 hq, Dimensions.size, hcols, hrows]
  | unknown hr hq _ =>
      simp [ChannelRequest.asksTerminal, job?, broughtSize?, ChannelRequest.asked_eq_some.2 hr,
        ChannelRequest.asked_eq_some.2 hq]

theorem dispatch_alike {ctx : Context} {s t : Scratch} {r q : ChannelRequest} (n : Nat)
    (halike : s.Alike t) (hrequests : r.Alike q) :
    (table.dispatch ctx n r s).1.Alike (table.dispatch ctx n q t).1 := by
  obtain ⟨hterminal, hjob, hsize⟩ := same_of_alike hrequests
  have hr : Handled ctx r s (table.dispatch ctx n r s).1 := handled_dispatch n
  have hq : Handled ctx q t (table.dispatch ctx n q t).1 := handled_dispatch n
  have hstartable : r.startable ctx.config = q.startable ctx.config := by
    rw [startable_eq ctx false, startable_eq ctx false, hjob]
  have hkeeps : Keeps s (table.dispatch ctx n r s).1 := keeps_dispatch n r
  have hkeeps' : Keeps t (table.dispatch ctx n q t).1 := keeps_dispatch n q
  refine ⟨?_, ?_, ?_, ?_, ?_, ?_, ?_⟩
  · rw [hkeeps.closed, hkeeps'.closed, halike.closed]
  · rw [hkeeps.stopped, hkeeps'.stopped, halike.stopped]
  · rw [hr.works, hq.works, halike.works, halike.commandStarted, halike.terminal, hjob]
  · rw [hr.sizes, hq.sizes, halike.sizes, halike.terminal, hsize]
  · rw [hr.terminal, hq.terminal, halike.terminal, hterminal]
  · rw [hr.command, hq.command, halike.commandStarted, hstartable]
  · rw [hkeeps.opened, hkeeps'.opened, halike.opened]

end Session

/-! ## One step -/

namespace Scratch.Alike

variable {s t : Scratch}

theorem close (halike : s.Alike t) : s.close.Alike t.close :=
  { halike with closed := rfl, stopped := rfl }

theorem leave (halike : s.Alike t) :
    Scratch.Alike { s.stop with sizes := s.sizes.close } { t.stop with sizes := t.sizes.close } :=
  { halike with stopped := rfl, sizes := congrArg Terminal.SizeQueue.close halike.sizes }

theorem setStage (halike : s.Alike t) (i : Nat) (stage : Job.Stage) :
    (s.setStage i stage).Alike (t.setStage i stage) :=
  { halike with works := by rw [Scratch.setStage, Scratch.setStage, halike.works] }

theorem setSizes (halike : s.Alike t) (sizes : Terminal.SizeQueue) :
    Scratch.Alike { s with sizes := sizes } { t with sizes := sizes } :=
  { halike with sizes := rfl }

theorem running (halike : s.Alike t) : s.running = t.running := by
  rw [Scratch.running, Scratch.running, halike.works]

end Scratch.Alike

theorem Forward.start_alike {ctx : Context} {s t : Scratch} (halike : s.Alike t) :
    (Table.runStartup ctx Forward.table.startup s).1.Alike
      (Table.runStartup ctx Forward.table.startup t).1 := by
  have hopened := halike.opened
  cases hs : s.forwardOpen with
  | none =>
      have ht : t.forwardOpen = none := by simpa [hs] using hopened.symm
      simpa [Forward.table, Table.empty, Table.onStart, Table.observing, Table.runStartup,
        Forward.onStart, hs, ht] using halike.close
  | some o =>
      obtain ⟨p, ht, hport⟩ : ∃ p, t.forwardOpen = some p ∧ p.port = o.port := by
        simpa [hs] using hopened.symm
      rw [Forward.runStartup_table hs, Forward.runStartup_table ht, hport]
      exact { halike with works := by rw [Scratch.spawn, Scratch.spawn, halike.works] }

namespace Handler

variable {ctx : Context} {h k t : Handler} {e e' : Event} {acts : List Act}

theorem Alike.finishWork (halike : h.Alike k) (i : Nat) (closes : Bool) :
    (h.finishWork i closes).Alike (k.finishWork i closes) := by
  have hdone := halike.scratch.setStage i .done
  cases closes with
  | true => exact { halike with scratch := hdone.close }
  | false => exact { halike with scratch := hdone }

theorem Alike.setSizes (halike : h.Alike k) (sizes : Terminal.SizeQueue) :
    (h.setSizes sizes).Alike (k.setSizes sizes) :=
  { halike with scratch := halike.scratch.setSizes sizes }

theorem Alike.start (halike : h.Alike k) : Handler.Alike
    { h with scratch := (Table.runStartup ctx h.table.startup h.scratch).1, phase := .serving }
    { k with scratch := (Table.runStartup ctx k.table.startup k.scratch).1, phase := .serving } := by
  rw [← halike.table]
  refine { halike with table := rfl, scratch := ?_, phase := rfl }
  rcases halike.known with htable | htable
  · rw [htable]
    exact halike.scratch
  · rw [htable]
    exact Forward.start_alike halike.scratch

theorem Alike.take {r q : ChannelRequest} {rest rest' : List ChannelRequest} (halike : h.Alike k)
    (hrequests : r.Alike q) (hrest : List.Forall₂ ChannelRequest.Alike rest rest') :
    Handler.Alike
      { h with
        scratch := (h.table.dispatch ctx h.taken r h.scratch).1
        inbox := { h.inbox with queued := rest }
        taken := h.taken + 1 }
      { k with
        scratch := (k.table.dispatch ctx k.taken q k.scratch).1
        inbox := { k.inbox with queued := rest' }
        taken := k.taken + 1 } := by
  rw [← halike.table, ← halike.taken]
  have hinbox := halike.inbox
  refine { halike with
    table := rfl
    scratch := ?_
    inbox := ⟨hrest, hinbox.ended, hinbox.dropped⟩
    taken := rfl }
  rcases halike.known with htable | htable
  · rw [htable]
    exact Session.dispatch_alike h.taken halike.scratch hrequests
  · rw [htable, Forward.dispatch_scratch, Forward.dispatch_scratch]
    exact halike.scratch

/-- Channels that are alike go on side by side, and call the cluster for the same. -/
theorem Alike.move (halike : h.Alike k) (hevent : e.Alike e') (hmove : Move ctx h e acts t) :
    ∃ u acts', Move ctx k e' acts' u ∧ t.Alike u ∧ calls acts = calls acts' := by
  have hscratch := halike.scratch
  have hphase := halike.phase
  have hworks := hscratch.works
  cases hevent with
  | @arrive r q hrequests =>
      cases hmove with
      | arrive _ => exact ⟨_, _, .arrive q, { halike with inbox := halike.inbox.send hrequests }, rfl⟩
  | same =>
      cases hmove with
      | arrive r =>
          exact ⟨_, _, .arrive r, { halike with inbox := halike.inbox.send (.same r) }, rfl⟩
      | hangUp => exact ⟨_, _, .hangUp, { halike with inbox := halike.inbox.finish }, rfl⟩
      | cancel => exact ⟨_, _, .cancel, { halike with scratch := hscratch.close }, rfl⟩
      | start h => 
          refine ⟨_, _, .start (hphase ▸ h), halike.start, ?_⟩
          rw [calls_of_not_isCall Table.runStartup_isCall, calls_of_not_isCall Table.runStartup_isCall]
      | take h hopen hqueue =>
          have hqueued := halike.inbox.queued
          rw [hqueue] at hqueued
          obtain ⟨q, rest', hfirst, hrest, hqueue'⟩ := List.forall₂_cons_left_iff.1 hqueued
          refine ⟨_, _, .take (hphase ▸ h) (hscratch.closed ▸ hopen) hqueue',
            halike.take hfirst hrest, ?_⟩
          rw [calls_of_not_isCall Table.dispatch_isCall, calls_of_not_isCall Table.dispatch_isCall]
      | leave h hend =>
          refine ⟨_, _, .leave (hphase ▸ h) ?_, ?_, ?_⟩
          · rw [← hscratch.closed, ← halike.inbox.exhausted]
            exact hend
          · exact { halike with scratch := hscratch.leave, inbox := halike.inbox.drop, phase := rfl }
          · rw [calls_of_not_isCall forgoFrom_isCall, calls_of_not_isCall forgoFrom_isCall]
      | close h hidle =>
          exact ⟨_, _, .close (hphase ▸ h) (hscratch.running ▸ hidle), { halike with phase := rfl }, rfl⟩
      | @call i job act hwork hact =>
          exact ⟨_, _, .call (hworks ▸ hwork) hact,
            { halike with scratch := hscratch.setStage i .calling }, rfl⟩
      | brief hwork => exact ⟨_, _, .brief (hworks ▸ hwork), halike.finishWork _ _, rfl⟩
      | join hwork hstop =>
          exact ⟨_, _, .join (hworks ▸ hwork) (hscratch.stopped ▸ hstop), halike.finishWork _ _, rfl⟩
      | execEnds hwork hend =>
          refine ⟨_, _, .execEnds (hworks ▸ hwork) (hscratch.stopped ▸ hend), halike.finishWork _ _, ?_⟩
          rw [hscratch.stopped]
      | write hwork hstop hline =>
          exact ⟨_, _, .write (hworks ▸ hwork) (hscratch.stopped ▸ hstop) hline,
            { halike with scratch := hscratch.setStage _ _ }, rfl⟩
      | forwardEnds hwork =>
          refine ⟨_, _, .forwardEnds (hworks ▸ hwork), halike.finishWork _ _, ?_⟩
          rw [hscratch.stopped]
      | written hwork => exact ⟨_, _, .written (hworks ▸ hwork), halike.finishWork _ _, rfl⟩
      | streamClosed h => exact ⟨_, _, .streamClosed (hphase ▸ h), { halike with phase := rfl }, rfl⟩
      | pollSize hpoll => exact ⟨_, _, .pollSize (hscratch.sizes ▸ hpoll), halike.setSizes _, rfl⟩
      | awaitSize consumer =>
          refine ⟨_, _, .awaitSize consumer, ?_, rfl⟩
          rw [← hscratch.sizes]
          exact halike.setSizes _
      | abandonSize consumer =>
          refine ⟨_, _, .abandonSize consumer, ?_, rfl⟩
          rw [← hscratch.sizes]
          exact halike.setSizes _
      | serveSize hserve =>
          exact ⟨_, _, .serveSize (hscratch.sizes ▸ hserve), halike.setSizes _, rfl⟩

end Handler

end Channel

end SessionGateway
