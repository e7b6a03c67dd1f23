import SessionGateway.Proofs.Channel.Command
import SessionGateway.Proofs.Terminal.SizeQueue

/-!
# The terminal sizes of a session

Requests bring sizes to the queue of a session, and the command takes them from it at any time in
between. What the command has received, followed by what is still pending, is the list of those
sizes for which there was room, in the order of the requests; sizes that come before the first
request for a terminal are not in it. The queue is closed when the session leaves its loop, so the
command learns of the end only after it has received the whole list.
-/

namespace SessionGateway.Channel

def Act.delivery? : Act → Option (Option Terminal.Size)
  | .delivered _ size => some size
  | _ => none

/-- What consumers of sizes have got, oldest first; `none` tells that there is no further size. -/
def deliveries (acts : List Act) : List (Option Terminal.Size) :=
  acts.filterMap Act.delivery?

def received (acts : List Act) : List Terminal.Size :=
  (deliveries acts).filterMap id

section

variable (acts rest : List Act) (a : Act)

@[simp] theorem deliveries_nil : deliveries [] = [] := rfl

@[simp] theorem deliveries_append :
    deliveries (acts ++ rest) = deliveries acts ++ deliveries rest := by
  simp [deliveries]

@[simp] theorem deliveries_cons :
    deliveries (a :: rest) = a.delivery?.toList ++ deliveries rest := by
  cases h : a.delivery? <;> simp [deliveries, h]

@[simp] theorem received_append : received (acts ++ rest) = received acts ++ received rest := by
  simp [received]

theorem received_of_quiet {acts : List Act} (h : deliveries acts = []) : received acts = [] := by
  rw [received, h, List.filterMap_nil]

theorem received_of_delivery {acts : List Act} {size : Option Terminal.Size}
    (h : deliveries acts = [size]) : received acts = size.toList := by
  cases size <;> simp [received, h]

theorem deliveries_of_isReport {acts : List Act} (h : ∀ a ∈ acts, a.isReport = true) :
    deliveries acts = [] := by
  rw [deliveries, List.filterMap_eq_nil_iff]
  intro a ha
  have hreport := h a ha
  cases a <;> first | rfl | cases hreport

end

namespace Handler

variable {ctx : Context} {h t : Handler} {e : Event} {acts : List Act}

/-- What a step does to the sizes of a session: it offers a size to the queue, it closes the queue,
it takes from the queue, or it leaves the pending sizes alone. -/
inductive Flows (h : Handler) (e : Event) (acts : List Act) (t : Handler) : Prop
  | take {r : ChannelRequest} (htakes : h.takes? e = some r) (hquiet : deliveries acts = [])
      (hbefore : h.phase.left = false) (hafter : t.phase.left = false)
      (hsizes : t.scratch.sizes =
        Session.offered h.scratch.sizes (Session.broughtSize? h.scratch.pty.isSome r))
  | leave (htakes : h.takes? e = none) (hquiet : deliveries acts = [])
      (hafter : t.phase.left = true) (hsizes : t.scratch.sizes = h.scratch.sizes.close)
  | give {size : Option Terminal.Size} (htakes : h.takes? e = none)
      (hgets : deliveries acts = [size]) (hleft : t.phase.left = h.phase.left)
      (hgives : h.scratch.sizes.Gives size t.scratch.sizes)
  | keep (htakes : h.takes? e = none) (hquiet : deliveries acts = [])
      (hleft : t.phase.left = h.phase.left)
      (hpending : t.scratch.sizes.pending = h.scratch.sizes.pending)
      (hcapacity : t.scratch.sizes.capacity = h.scratch.sizes.capacity)
      (hclosed : t.scratch.sizes.closed = h.scratch.sizes.closed)

theorem Flows.same (htakes : h.takes? e = none) (hquiet : deliveries acts = [])
    (hleft : t.phase.left = h.phase.left) (hsizes : t.scratch.sizes = h.scratch.sizes) :
    Flows h e acts t :=
  .keep htakes hquiet hleft (by rw [hsizes]) (by rw [hsizes]) (by rw [hsizes])

theorem flows_of_move (htable : h.table = Session.table) (hmove : Move ctx h e acts t) :
    Flows h e acts t := by
  cases hmove with
  | arrive _ | hangUp | cancel => exact .same rfl rfl rfl rfl
  | start hphase =>
      have hstartup : h.table.startup = [] := by rw [htable]; rfl
      rw [hstartup]
      exact .same (by simp [takes?, hphase]) rfl (by simp [hphase, Phase.left]) rfl
  | @take raw _ hphase hopen hqueue =>
      refine .take (r := raw) (by simp [takes?, hphase, hopen, hqueue])
        (deliveries_of_isReport Table.dispatch_isReport) (by simp [hphase, Phase.left])
        (by simp [hphase, Phase.left]) ?_
      rw [htable]
      exact (Session.handled_dispatch h.taken).sizes
  | leave _ hend =>
      exact .leave (takes_of_end hend _) (deliveries_of_isReport forgoFrom_isReport) rfl rfl
  | close hphase _ => exact .same (by simp [takes?, hphase]) rfl (by simp [hphase, Phase.left]) rfl
  | @call i job act _ hact =>
      have hquiet : act.delivery? = none := by
        cases job <;> simp only [Job.callAct?, Option.some.injEq, reduceCtorEq] at hact <;>
          subst hact <;> rfl
      exact .same rfl (by simp [hquiet]) rfl rfl
  | @execEnds i request interactive outcome _ _ =>
      refine .same rfl ?_ (by simp) (by simp)
      split
      · rfl
      · exact deliveries_of_isReport (warnings_isReport outcome).1
  | @write i request interactive outcome _ _ _ =>
      have hquiet := deliveries_of_isReport (warnings_isReport outcome).1
      exact .same rfl (by simp [hquiet, Act.delivery?]) rfl rfl
  | @forwardEnds i request outcome _ =>
      refine .same rfl ?_ (by simp) (by simp)
      split
      · rfl
      · exact deliveries_of_isReport (warnings_isReport outcome).2
  | brief _ | join _ _ | written _ => exact .same rfl rfl (by simp) (by simp)
  | streamClosed hphase => exact .same rfl rfl (by simp [hphase, Phase.left]) rfl
  | pollSize hpoll => exact .give rfl rfl rfl (Terminal.SizeQueue.gives_of_poll hpoll)
  | serveSize hserve => exact .give rfl rfl rfl (Terminal.SizeQueue.gives_of_serve hserve)
  | awaitSize _ | abandonSize _ => exact .keep rfl rfl rfl rfl rfl rfl

end Handler

namespace Session

variable {ctx : Context} {capacity : Nat} {terminal cancelled ended : Bool}
  {early : List ChannelRequest} {log pre post : Log} {h t : Handler}
  {τ : Transition Handler Event Act}

/-- The sizes that requests bring to a session while fewer than `capacity` sizes are pending, in the
order of the requests. The flag tells whether there is a terminal already. -/
def admitted (capacity : Nat) (terminal : Bool) : Log → List Terminal.Size
  | [] => []
  | τ :: rest =>
    (if τ.source.scratch.sizes.pending.length < capacity then
      ((τ.source.takes? τ.event).bind (broughtSize? terminal)).toList else []) ++
      admitted capacity (terminal || (processed [τ]).any (·.asksTerminal)) rest

theorem admitted_append (capacity : Nat) (terminal : Bool) (first second : Log) :
    admitted capacity terminal (first ++ second) = admitted capacity terminal first ++
      admitted capacity (terminal || (processed first).any (·.asksTerminal)) second := by
  induction first generalizing terminal with
  | nil => simp [admitted]
  | cons τ rest ih =>
      have hall : (processed (τ :: rest)).any (·.asksTerminal) =
          ((processed [τ]).any (·.asksTerminal) || (processed rest).any (·.asksTerminal)) := by
        simp
      simp only [List.cons_append, admitted, ih, List.append_assoc, Bool.or_assoc, hall]

theorem admitted_snoc : admitted capacity false (log ++ [τ]) = admitted capacity false log ++
    if τ.source.scratch.sizes.pending.length < capacity then
      ((τ.source.takes? τ.event).bind
        (broughtSize? ((processed log).any (·.asksTerminal)))).toList else [] := by
  rw [admitted_append, Bool.false_or]
  exact congrArg _ (List.append_nil _)

theorem admitted_of_idle (htakes : τ.source.takes? τ.event = none) :
    admitted capacity false (log ++ [τ]) = admitted capacity false log := by
  rw [admitted_snoc, htakes]
  simp

/-- A request for a terminal brings a size, and no request before the first one does. -/
theorem broughtSize_isSome (r : ChannelRequest) :
    (broughtSize? false r).isSome = r.asksTerminal := by
  simp only [broughtSize?, ChannelRequest.asksTerminal]
  split <;> simp_all

theorem admitted_of_no_terminal (hnone : (processed log).any (·.asksTerminal) = false) :
    admitted capacity false log = [] := by
  induction log with
  | nil => rfl
  | cons τ rest ih =>
      rw [processed_cons, List.any_append, Bool.or_eq_false_iff] at hnone
      have hfirst : (τ.source.takes? τ.event).bind (broughtSize? false) = none := by
        cases htakes : τ.source.takes? τ.event with
        | none => rfl
        | some r =>
            have hbrought := broughtSize_isSome r
            have hnot : r.asksTerminal = false := by simpa [htakes] using hnone.1
            rw [hnot, Option.isSome_eq_false_iff, Option.isNone_iff_eq_none] at hbrought
            exact hbrought
      have hflag : (processed [τ]).any (·.asksTerminal) = false := by simpa using hnone.1
      rw [admitted, hfirst, hflag]
      simpa using ih hnone.2

/-- The balance of the sizes of a session after a sequence of steps. -/
structure Balanced (capacity : Nat) (log : Log) (h : Handler) : Prop where
  balance : received (seen log) ++ h.scratch.sizes.pending = admitted capacity false log
  capacity : h.scratch.sizes.capacity = capacity
  closed : h.scratch.sizes.closed = h.phase.left

theorem Balanced.offer (hbalanced : Balanced capacity log h) (hleft : h.phase.left = false)
    (brought : Option Terminal.Size) :
    (offered h.scratch.sizes brought).pending = h.scratch.sizes.pending ++
        (if h.scratch.sizes.pending.length < capacity then brought.toList else []) ∧
      (offered h.scratch.sizes brought).capacity = capacity ∧
      (offered h.scratch.sizes brought).closed = false := by
  have hopen : h.scratch.sizes.closed = false := hbalanced.closed.trans hleft
  have hcapacity := hbalanced.capacity
  cases brought with
  | none => simp [offered, hcapacity, hopen]
  | some size =>
      by_cases hroom : h.scratch.sizes.pending.length < capacity
      · have hfill := Terminal.SizeQueue.fill_of_room (s := size) hopen (hcapacity ▸ hroom)
        simp [offered, hfill, hroom, hcapacity, hopen]
      · have hfull : h.scratch.sizes.capacity ≤ h.scratch.sizes.pending.length := by omega
        have hfill := Terminal.SizeQueue.fill_of_full (s := size) hopen hfull
        simp [offered, hfill, hroom, hcapacity, hopen]

theorem Balanced.step {e : Event} {acts : List Act} (hbalanced : Balanced capacity log h)
    (hterminal : h.scratch.pty.isSome = (processed log).any (·.asksTerminal))
    (hflows : h.Flows e acts t) : Balanced capacity (log ++ [⟨h, e, acts, t⟩]) t := by
  have hbalance := hbalanced.balance
  cases hflows with
  | take htakes hquiet hbefore hafter hsizes =>
      obtain ⟨hpending, hcapacity, hopen⟩ := hbalanced.offer hbefore
        (broughtSize? h.scratch.pty.isSome _)
      have hnone : received acts = [] := received_of_quiet hquiet
      refine ⟨?_, by rw [hsizes, hcapacity], by rw [hsizes, hopen, hafter]⟩
      rw [hsizes, hpending, admitted_snoc, ← hbalance, htakes, ← hterminal]
      simp [hnone]
  | leave htakes hquiet hafter hsizes =>
      have hnone : received acts = [] := received_of_quiet hquiet
      refine ⟨?_, by rw [hsizes]; exact hbalanced.capacity, by rw [hsizes, hafter]; rfl⟩
      rw [admitted_of_idle htakes, hsizes, ← hbalance]
      simp [hnone, Terminal.SizeQueue.close]
  | @give size htakes hgets hleft hgives =>
      have hgot : received acts = size.toList := received_of_delivery hgets
      refine ⟨?_, by rw [hgives.capacity, hbalanced.capacity], by
        rw [hgives.closed, hbalanced.closed, hleft]⟩
      rw [admitted_of_idle htakes, ← hbalance, hgives.pending]
      simp [hgot]
  | keep htakes hquiet hleft hpending hcapacity hclosed =>
      have hnone : received acts = [] := received_of_quiet hquiet
      refine ⟨?_, by rw [hcapacity, hbalanced.capacity], by
        rw [hclosed, hbalanced.closed, hleft]⟩
      rw [admitted_of_idle htakes, hpending, ← hbalance]
      simp [hnone]

theorem flows_of_run
    (hrun : Run (Handler.step ctx) (Handler.opened ctx table none cancelled early ended) log h)
    {e : Event} {acts : List Act} (hstep : h.step ctx e = some (t, acts)) : h.Flows e acts t := by
  have hserved := served_of_run table_orderly table_answering hrun
  exact Handler.flows_of_move hserved.table (Handler.move_of_step hstep)

theorem balanced_of_run (hcapacity : 1 ≤ ctx.config.queueCapacity.toNat)
    (hrun : Run (Handler.step ctx) (Handler.opened ctx table none cancelled early ended) log h) :
    Balanced ctx.config.queueCapacity.toNat log h := by
  induction hrun with
  | nil =>
      refine ⟨rfl, ?_, rfl⟩
      have hnot : ¬ ctx.config.queueCapacity.toNat = 0 := by omega
      exact if_neg hnot
  | snoc hbefore hstep ih =>
      exact ih.step (remembers_of_run hbefore).terminal (flows_of_run hbefore hstep)

/-! ## What follows from the balance -/

theorem received_of_no_terminal (hbalanced : Balanced capacity log h)
    (hnone : (processed log).any (·.asksTerminal) = false) :
    received (seen log) = [] ∧ h.scratch.sizes.pending = [] := by
  rw [← List.append_eq_nil_iff, hbalanced.balance]
  exact admitted_of_no_terminal hnone

theorem exists_first {p : ChannelRequest → Bool} (hany : (processed log).any p = true) :
    ∃ pre τ post r, log = pre ++ τ :: post ∧ τ.source.takes? τ.event = some r ∧
      (processed pre).any p = false ∧ p r = true := by
  induction log with
  | nil => cases hany
  | cons τ rest ih =>
      -- The first step takes such a request itself, or it is to be found among the others.
      by_cases hfirst : (processed [τ]).any p = true
      · cases htakes : τ.source.takes? τ.event with
        | none => simp [htakes] at hfirst
        | some r => exact ⟨[], τ, rest, r, rfl, htakes, rfl, by simpa [htakes] using hfirst⟩
      · rw [processed_cons, List.any_append, Bool.or_eq_true] at hany
        have hrest : (processed rest).any p = true :=
          hany.resolve_left fun hhere => hfirst (by simpa using hhere)
        obtain ⟨pre, σ, post, r, rfl, htakes, hnone, hr⟩ := ih hrest
        refine ⟨τ :: pre, σ, post, r, rfl, htakes, ?_, hr⟩
        rw [processed_cons, List.any_append, hnone, Bool.or_false]
        simpa using hfirst

theorem broughtSize_of_terminal {r : ChannelRequest} (hasks : r.asksTerminal = true) :
    ∃ pty, r.asked? = some (.pty pty) ∧
      ∀ terminal, broughtSize? terminal r = some pty.dimensions.size := by
  unfold ChannelRequest.asksTerminal at hasks
  split at hasks
  · rename_i pty hasked
    exact ⟨pty, hasked, fun terminal => by simp [broughtSize?, hasked]⟩
  · cases hasks

/-- The first request for a terminal finds the queue empty, so its size is the first of all. -/
theorem head_admitted (hcapacity : 1 ≤ ctx.config.queueCapacity.toNat)
    (hrun : Run (Handler.step ctx) (Handler.opened ctx table none cancelled early ended) log h)
    (hterminal : (processed log).any (·.asksTerminal) = true) :
    ∃ before r after pty, processed log = before ++ r :: after ∧
      before.any (·.asksTerminal) = false ∧ r.asked? = some (.pty pty) ∧
      (admitted ctx.config.queueCapacity.toNat false log).head? = some pty.dimensions.size := by
  obtain ⟨pre, τ, post, r, rfl, htakes, hnone, hasks⟩ := exists_first hterminal
  obtain ⟨hpre, _, _⟩ := hrun.at_step
  obtain ⟨pty, hasked, hbrought⟩ := broughtSize_of_terminal hasks
  have hempty := (received_of_no_terminal (balanced_of_run hcapacity hpre) hnone).2
  have hroom : τ.source.scratch.sizes.pending.length < ctx.config.queueCapacity.toNat := by
    rw [hempty, List.length_nil]
    omega
  refine ⟨processed pre, r, processed post, pty, by simp [htakes], hnone, hasked, ?_⟩
  rw [admitted_append, admitted_of_no_terminal hnone, List.nil_append, admitted, if_pos hroom,
    htakes, Option.bind_some, hbrought]
  rfl

theorem admitted_after_leaving
    (hpre : Run (Handler.step ctx) (Handler.opened ctx table none cancelled early ended) pre h)
    (hleft : h.phase.left = true) (hpost : Run (Handler.step ctx) h post t) :
    t.phase.left = true ∧ admitted capacity false (pre ++ post) = admitted capacity false pre := by
  induction hpost with
  | nil => exact ⟨hleft, by rw [List.append_nil]⟩
  | snoc hbefore hstep ih =>
      obtain ⟨hsource, hsame⟩ := ih
      rw [← List.append_assoc]
      cases flows_of_run (hpre.trans hbefore) hstep with
      | take _ _ hopen _ _ => rw [hsource] at hopen; cases hopen
      | leave htakes _ hafter _ => exact ⟨hafter, (admitted_of_idle htakes).trans hsame⟩
      | give htakes _ hkept _ =>
          exact ⟨hkept.trans hsource, (admitted_of_idle htakes).trans hsame⟩
      | keep htakes _ hkept _ _ _ =>
          exact ⟨hkept.trans hsource, (admitted_of_idle htakes).trans hsame⟩

theorem answer_of_resize (hcapacity : 1 ≤ ctx.config.queueCapacity.toNat)
    (hpre : Run (Handler.step ctx) (Handler.opened ctx table none cancelled early ended) pre
      τ.source) (hstep : τ.source.step ctx τ.event = some (τ.target, τ.acts)) {r : ChannelRequest}
    {d : Dimensions} (htakes : τ.source.takes? τ.event = some r)
    (hasked : r.asked? = some (.windowChange d))
    (hterminal : (processed pre).any (·.asksTerminal) = true) :
    ∃ ok : Bool, answers τ.acts = (if r.wantReply then [((processed pre).length, ok)] else []) ∧
      admitted ctx.config.queueCapacity.toNat false (pre ++ [τ]) =
        admitted ctx.config.queueCapacity.toNat false pre ++ if ok then [d.size] else [] := by
  have hserved := served_of_run table_orderly table_answering hpre
  have hbalanced := balanced_of_run hcapacity hpre
  have hphase : τ.source.phase = .serving := by
    cases hevent : τ.event <;> rw [hevent] at htakes <;>
      simp only [Handler.takes?, Option.ite_none_right_eq_some, reduceCtorEq] at htakes
    exact htakes.1.1
  have hopen : τ.source.scratch.sizes.closed = false := by
    rw [hbalanced.closed, hphase]
    rfl
  have hpty := (remembers_of_run hpre).terminal.trans hterminal
  refine ⟨(τ.source.scratch.sizes.fill d.size).isOk, ?_, ?_⟩
  · rw [hserved.answers_step table_answering (Handler.turn_of_step hstep), htakes]
    simp only [answer, hasked, hpty, Bool.not_true, Bool.false_or]
  · rw [admitted_snoc, htakes, Option.bind_some, hterminal]
    simp only [broughtSize?, hasked, if_true, Option.toList_some]
    by_cases hroom : τ.source.scratch.sizes.pending.length < ctx.config.queueCapacity.toNat
    · have hfill := Terminal.SizeQueue.fill_of_room (s := d.size) hopen
        (hbalanced.capacity.symm ▸ hroom)
      simp [hroom, hfill, Except.isOk, Except.toBool]
    · have hfull : τ.source.scratch.sizes.capacity ≤ τ.source.scratch.sizes.pending.length := by
        rw [hbalanced.capacity]
        omega
      have hfill := Terminal.SizeQueue.fill_of_full (s := d.size) hopen hfull
      simp [hroom, hfill, Except.isOk, Except.toBool]

/-- How sizes reach the command of a session. The sizes that it has received, followed by those that
are pending, are the sizes of the requests that found room in the queue, in the order of the
requests. A command with a terminal gets the size of the first request for one before any other, and
no size that was sent before that request is ever delivered. A later size is announced as taken
exactly if it is in the list, and the end is announced only after the session has left its loop and
the whole list has been received. -/
theorem sizes_reach_command_in_order (hcapacity : 1 ≤ ctx.config.queueCapacity.toNat)
    (hrun : Run (Handler.step ctx) (Handler.opened ctx table none cancelled early ended) log h) :
    received (seen log) ++ h.scratch.sizes.pending =
      admitted ctx.config.queueCapacity.toNat false log ∧
    (∀ d : Dimensions, d.size.width.toNat = min d.cols.toNat 65535 ∧
      d.size.height.toNat = min d.rows.toNat 65535) ∧
    (∀ i request, Act.exec i request ∈ seen log → request.tty = true →
      ∃ before r after pty, processed log = before ++ r :: after ∧
        before.any (·.asksTerminal) = false ∧ r.asked? = some (.pty pty) ∧
        (received (seen log) ++ h.scratch.sizes.pending).head? = some pty.dimensions.size) ∧
    (∀ pre post, log = pre ++ post → (processed pre).any (·.asksTerminal) = false →
      received (seen pre) = [] ∧ admitted ctx.config.queueCapacity.toNat false log =
        admitted ctx.config.queueCapacity.toNat false post) ∧
    (∀ pre τ post r d, log = pre ++ τ :: post → τ.source.takes? τ.event = some r →
      r.asked? = some (.windowChange d) → (processed pre).any (·.asksTerminal) = true →
      ∃ ok : Bool, answers τ.acts = (if r.wantReply then [((processed pre).length, ok)] else []) ∧
        admitted ctx.config.queueCapacity.toNat false (pre ++ [τ]) =
          admitted ctx.config.queueCapacity.toNat false pre ++ if ok then [d.size] else []) ∧
    (∀ pre τ post consumer, log = pre ++ τ :: post → Act.delivered consumer none ∈ τ.acts →
      τ.source.phase.left = true ∧
        received (seen pre) = admitted ctx.config.queueCapacity.toNat false log) := by
  have hbalanced := balanced_of_run hcapacity hrun
  refine ⟨hbalanced.balance, fun d => ⟨Terminal.saturate_toNat d.cols,
    Terminal.saturate_toNat d.rows⟩, ?_, ?_, ?_, ?_⟩
  · intro i request hexec htty
    obtain ⟨_, before, r, after, hhistory, hcommands⟩ := commands_of_exec hrun hexec
    have hterminal : (processed log).any (·.asksTerminal) = true := by
      rw [hcommands.tty, Bool.and_eq_true] at htty
      rw [hhistory, List.any_append, htty.2, Bool.true_or]
    rw [hbalanced.balance]
    exact head_admitted hcapacity hrun hterminal
  · rintro pre post rfl hnone
    obtain ⟨_, hpre, _⟩ := hrun.split
    have hbefore := received_of_no_terminal (balanced_of_run hcapacity hpre) hnone
    refine ⟨hbefore.1, ?_⟩
    rw [admitted_append, admitted_of_no_terminal hnone, hnone]
    rfl
  · rintro pre τ post r d rfl htakes hasked hterminal
    obtain ⟨hpre, hstep, _⟩ := hrun.at_step
    exact answer_of_resize hcapacity hpre hstep htakes hasked hterminal
  · rintro pre τ post consumer rfl hend
    obtain ⟨hpre, hstep, hpost⟩ := hrun.at_step
    have hbefore := balanced_of_run hcapacity hpre
    have hdelivery : none ∈ deliveries τ.acts := List.mem_filterMap.2 ⟨_, hend, rfl⟩
    cases flows_of_run hpre hstep with
    | take _ hquiet _ _ _ | leave _ hquiet _ _ | keep _ hquiet _ _ _ _ =>
        rw [hquiet] at hdelivery
        cases hdelivery
    | give htakes hgets hleft hgives =>
        rw [hgets, List.mem_singleton] at hdelivery
        obtain ⟨hclosed, hempty⟩ := hgives.ended hdelivery.symm
        have hsource : τ.source.phase.left = true := hbefore.closed ▸ hclosed
        have hlater : admitted ctx.config.queueCapacity.toNat false (pre ++ [τ] ++ post) =
            admitted ctx.config.queueCapacity.toNat false (pre ++ [τ]) :=
          (admitted_after_leaving (hpre.snoc hstep) (hleft.trans hsource) hpost).2
        refine ⟨hsource, ?_⟩
        rw [List.append_assoc, List.singleton_append] at hlater
        rw [hlater, admitted_of_idle htakes, ← hbefore.balance, hempty, List.append_nil]

/-- A shell gets the size of its terminal and a new one that is cut off at 16 bits, and then learns
that there is none left. A size that was sent before the terminal was asked for does not reach it. -/
theorem sizes_reach_command_in_order_shell :
    ∃ log h, Run (Handler.step ⟨⟨"team", "ada"⟩, .standard⟩)
      (Handler.opened ⟨⟨"team", "ada"⟩, .standard⟩ table none false
        [⟨"window-change", Wire.encode (Dimensions.fields ⟨132, 50, 0, 0⟩), true⟩,
          ⟨"pty-req", [0, 0, 0, 0] ++ Wire.encode (Dimensions.fields ⟨80, 24, 0, 0⟩) ++
            [0, 0, 0, 0], true⟩,
          ⟨"shell", [], true⟩,
          ⟨"window-change", Wire.encode (Dimensions.fields ⟨70000, 40, 0, 0⟩), true⟩] true) log h ∧
      deliveries (seen log) = [some ⟨80, 24⟩, some ⟨65535, 40⟩, none] ∧
      admitted Config.standard.queueCapacity.toNat false log = [⟨80, 24⟩, ⟨65535, 40⟩] := by
  have hcheck : ∃ log h, Run (Handler.step ⟨⟨"team", "ada"⟩, .standard⟩)
      (Handler.opened ⟨⟨"team", "ada"⟩, .standard⟩ table none false
        [⟨"window-change", Wire.encode (Dimensions.fields ⟨132, 50, 0, 0⟩), true⟩,
          ⟨"pty-req", [0, 0, 0, 0] ++ Wire.encode (Dimensions.fields ⟨80, 24, 0, 0⟩) ++
            [0, 0, 0, 0], true⟩,
          ⟨"shell", [], true⟩,
          ⟨"window-change", Wire.encode (Dimensions.fields ⟨70000, 40, 0, 0⟩), true⟩] true) log h ∧
      deliveries (seen log) = [some ⟨80, 24⟩, some ⟨65535, 40⟩, none] ∧
      h.scratch.sizes.pending = [] :=
    exists_run_of_replay
      [.advance, .advance, .advance, .advance, .run 0, .pollSize, .awaitSize 0, .advance,
        .serveSize, .awaitSize 1, .advance, .serveSize]
      (by decide +kernel)
  obtain ⟨log, h, hrun, hdeliveries, hempty⟩ := hcheck
  have hbalance := (sizes_reach_command_in_order (by decide) hrun).1
  rw [received, hdeliveries, hempty] at hbalance
  exact ⟨log, h, hrun, hdeliveries, hbalance.symm⟩

end Session

end SessionGateway.Channel
