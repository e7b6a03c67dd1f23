import SessionGateway.Proofs.Channel.Requests
import SessionGateway.Proofs.Connection.Steps

/-!
# The attempts of a connection

A step of a connection changes one attempt, or it cancels all channels at once, or it destroys all
attempts that are not taken. Seen from one attempt, the steps of the connection are steps of its
own, and once the attempt is accepted they are a run of its channel: what is proved of the runs of
a channel holds for every channel of a connection.
-/

namespace SessionGateway.Connection

def Act.on? (n : Nat) : Act → Option Channel.Act
  | .channel m a => if m = n then some a else none
  | _ => none

def Act.number? : Act → Option Nat
  | .accept n | .reject n _ _ | .withdraw n | .drop n | .channel n _ => some n
  | _ => none

def Event.number? : Event → Option Nat
  | .runOpen n | .accepted n _ | .rejected n _ | .channel n _ => some n
  | _ => none

def Event.on? (n : Nat) : Event → Option Channel.Event
  | .channel m e => if m = n then some e else none
  | _ => none

def Event.opens (n : Nat) : Event → Bool
  | .accepted m (.ok ()) => m = n
  | _ => false

def actsOn (n : Nat) (acts : List Act) : List Channel.Act :=
  acts.filterMap (Act.on? n)

def numbered (n : Nat) (acts : List Act) : List Act :=
  acts.filter fun a => a.number? = some n

abbrev Log := List (Transition State Event Act)

def eventsOn (n : Nat) (log : Log) : List Channel.Event :=
  log.filterMap fun τ => τ.event.on? n

def opens (n : Nat) (log : Log) : Nat :=
  log.countP fun τ => τ.event.opens n

section

variable (n m : Nat) (acts rest : List Act) (a : Act) (log : Log) (τ : Transition State Event Act)

@[simp] theorem actsOn_nil : actsOn n [] = [] := rfl

@[simp] theorem actsOn_append : actsOn n (acts ++ rest) = actsOn n acts ++ actsOn n rest := by
  simp [actsOn]

@[simp] theorem actsOn_cons : actsOn n (a :: rest) = (a.on? n).toList ++ actsOn n rest := by
  cases h : a.on? n <;> simp [actsOn, h]

theorem actsOn_map (own : List Channel.Act) :
    actsOn n (own.map (.channel m)) = if m = n then own else [] := by
  induction own with
  | nil => simp
  | cons a rest ih =>
      rw [List.map_cons, actsOn_cons, ih]
      by_cases hm : m = n <;> simp [Act.on?, hm]

theorem number_forgone (b : Attempt) : ∀ a ∈ forgone n b, a.number? = some n := by
  simp [forgone, Act.number?]

theorem actsOn_forgone (a : Attempt) : actsOn n (forgone m a) =
    if m = n then Channel.Handler.forgoFrom 0 a.requests.queued else [] :=
  actsOn_map n m _

@[simp] theorem actsOn_faultWarning (fault : Option Wire.Error) :
    actsOn n (faultWarning fault) = [] := by
  cases fault <;> rfl

@[simp] theorem numbered_nil : numbered n [] = [] := rfl

@[simp] theorem numbered_append :
    numbered n (acts ++ rest) = numbered n acts ++ numbered n rest := by
  simp [numbered]

theorem numbered_cons :
    numbered n (a :: rest) = (if a.number? = some n then [a] else []) ++ numbered n rest := by
  by_cases h : a.number? = some n <;> simp [numbered, h]

theorem numbered_forgone (b : Attempt) :
    numbered n (forgone m b) = if m = n then forgone m b else [] := by
  by_cases hm : m = n
  · subst hm
    rw [if_pos rfl, numbered, List.filter_eq_self]
    intro a ha
    simp [number_forgone m b a ha]
  · rw [if_neg hm, numbered, List.filter_eq_nil_iff]
    intro a ha
    simp [number_forgone m b a ha, hm]

theorem actsOn_numbered : actsOn n (numbered n acts) = actsOn n acts := by
  rw [actsOn, actsOn, numbered, List.filterMap_filter]
  congr 1
  funext a
  cases a <;> simp [Act.number?, Act.on?]

/-- Of an attempt nothing is seen in acts that are about no attempt. -/
theorem numbered_of_unnumbered (h : ∀ a ∈ acts, a.number? = none) : numbered n acts = [] := by
  rw [numbered, List.filter_eq_nil_iff]
  intro a ha
  simp [h a ha]

@[simp] theorem numbered_probing (request : String) (own : List Keepalive.Act) :
    numbered n (own.map (State.probing request)) = [] := by
  apply numbered_of_unnumbered
  intro a ha
  obtain ⟨act, _, rfl⟩ := List.mem_map.1 ha
  cases act <;> rfl

@[simp] theorem numbered_discards (own : List Discard.Act) :
    numbered n (own.map .discard) = [] := by
  apply numbered_of_unnumbered
  simp [Act.number?]

theorem eventsOn_snoc :
    eventsOn n (log ++ [τ]) = eventsOn n log ++ (τ.event.on? n).toList := by
  cases h : τ.event.on? n <;> simp [eventsOn, h]

theorem opens_snoc : opens n (log ++ [τ]) = opens n log + (τ.event.opens n).toNat := by
  cases h : τ.event.opens n <;> simp [opens, h]

end

def Stage.drop : Stage → Stage
  | .queued _ => .ended
  | stage => stage

theorem State.dropQueued_stages (m : Nat) (stages : List Stage) :
    (dropQueued m stages).1 = stages.map Stage.drop := by
  induction stages generalizing m with
  | nil => rfl
  | cons stage rest ih => cases stage <;> simp [dropQueued, Stage.drop, ih]

theorem State.leave_channels (s : State) : s.leave.1.channels = s.channels.map Stage.drop :=
  dropQueued_stages 0 s.channels

theorem State.numbered_dropQueued_of_lt {n m : Nat} (stages : List Stage) (hlt : n < m) :
    numbered n (dropQueued m stages).2 = [] := by
  induction stages generalizing m with
  | nil => rfl
  | cons stage rest ih =>
      have hrest := ih (show n < m + 1 by omega)
      have hne : ¬ m = n := by omega
      cases stage with
      | queued a => simp [dropQueued, hrest, numbered_forgone, numbered_cons, Act.number?, hne]
      | _ => exact hrest

theorem State.numbered_dropQueued (m k : Nat) (stages : List Stage) :
    numbered (m + k) (dropQueued m stages).2 = match stages[k]? with
      | some (.queued a) => .drop (m + k) :: forgone (m + k) a
      | _ => [] := by
  induction stages generalizing m k with
  | nil => rfl
  | cons stage rest ih =>
      cases k with
      | zero =>
          have hrest := numbered_dropQueued_of_lt rest (Nat.lt_succ_self m)
          cases stage <;>
            simp [dropQueued, hrest, numbered_forgone, numbered_cons, Act.number?]
      | succ k =>
          have hshift : m + (k + 1) = m + 1 + k := by omega
          have hne : ¬ m = m + 1 + k := by omega
          rw [hshift, List.getElem?_cons_succ, ← ih (m + 1) k]
          cases stage <;>
            simp [dropQueued, numbered_forgone, numbered_cons, Act.number?, hne]

/-- An attempt that is not taken is destroyed, with the requests for its channel. -/
theorem State.numbered_leave (s : State) (n : Nat) :
    numbered n s.leave.2 = match s.channels[n]? with
      | some (.queued a) => .drop n :: forgone n a
      | _ => [] := by
  have hdropped := numbered_dropQueued 0 n s.channels
  rwa [Nat.zero_add] at hdropped

section

variable {ctx : Context} {cancelled : Bool} {n : Nat} {stage after : Stage} {e : Event}
  {acts : List Act}

theorem Stage.Step.number (hstep : stage.Step ctx cancelled n e acts after) :
    e.number? = some n := by
  cases hstep <;> rfl

/-- What happens to an attempt is seen of this attempt, apart from warnings. -/
theorem Stage.Step.own_or_warn (hstep : stage.Step ctx cancelled n e acts after) :
    ∀ a ∈ acts, a.number? = some n ∨ ∃ text, a = .warn text := by
  have hforgone : ∀ b, ∀ a ∈ forgone n b, a.number? = some n ∨ ∃ text, a = .warn text :=
    fun b a ha => .inl (number_forgone n b a ha)
  have hfault : ∀ fault, ∀ a ∈ faultWarning fault,
      a.number? = some n ∨ ∃ text, a = .warn text := by
    intro fault
    cases fault <;> simp [faultWarning, failed]
  cases hstep with
  | accept _ _ | reject _ _ | serve _ _ | early _ _ => simp [Act.number?]
  | abandon _ | withdrawReject _ =>
      simp only [List.cons_append, List.forall_mem_cons, List.forall_mem_append]
      exact ⟨.inl rfl, hforgone _, hfault _⟩
  | withdrawAccept _ =>
      simp only [List.forall_mem_cons]
      exact ⟨.inl rfl, hforgone _⟩
  | crash _ _ => exact hforgone _
  | acceptFails _ | rejectFails _ =>
      simp only [List.forall_mem_append, List.forall_mem_singleton]
      exact ⟨hforgone _, .inr ⟨_, rfl⟩⟩
  | rejected _ =>
      simp only [List.forall_mem_append]
      exact ⟨hforgone _, hfault _⟩
  | work _ _ => simp [Act.number?]

end

/-- What a step of a connection does to one attempt. -/
inductive Change (ctx : Context) (cancelled : Bool) (n : Nat) :
    Event → List Act → Option Stage → Option Stage → Prop
  | keep {e : Event} {acts : List Act} {stage : Option Stage} (hevent : e.on? n = none)
      (hopens : e.opens n = false) (hacts : actsOn n acts = []) :
      Change ctx cancelled n e acts stage stage
  | arrive {kind : String} {payload : Wire.Bytes} :
      Change ctx cancelled n (.openChannel kind payload) [] none
        (some (.queued ⟨kind, payload, .fresh⟩))
  | refuse {kind : String} {payload : Wire.Bytes} :
      Change ctx cancelled n (.openChannel kind payload) [.drop n] none (some .ended)
  | takeOpen {a : Attempt} :
      Change ctx cancelled n .takeOpen [] (some (.queued a)) (some (.ready a))
  | drop {e : Event} {acts : List Act} {a : Attempt} (hevent : e.on? n = none)
      (hopens : e.opens n = false)
      (hacts : actsOn n acts = Channel.Handler.forgoFrom 0 a.requests.queued) :
      Change ctx cancelled n e acts (some (.queued a)) (some .ended)
  | own {e : Event} {acts : List Act} {stage after : Stage}
      (hstep : stage.Step ctx cancelled n e acts after) :
      Change ctx cancelled n e acts (some stage) (some after)
  | cancel {e : Event} {acts : List Act} {h : Channel.Handler} (hevent : e.on? n = none)
      (hopens : e.opens n = false) (hacts : actsOn n acts = []) :
      Change ctx cancelled n e acts (some (.serving h))
        (some (.serving (h.mapScratch Channel.Scratch.close)))

theorem Stage.Step.keep {ctx : Context} {cancelled : Bool} {n m : Nat} {stage after : Stage}
    {e : Event} {acts : List Act} (hstep : stage.Step ctx cancelled m e acts after) (hne : ¬ m = n)
    (other : Option Stage) : Change ctx cancelled n e acts other other := by
  cases hstep with
  | work _ _ =>
      exact .keep (by simp [Event.on?, hne]) rfl (by rw [actsOn_map, if_neg hne])
  | _ =>
      exact .keep (by simp [Event.on?, hne]) (by simp [Event.opens, hne])
        (by simp [actsOn_forgone, hne, Act.on?, failed])

namespace State

variable {s t : State} {e : Event} {acts : List Act}

theorem change_cancel {ctx : Context} {cancelled : Bool} {n : Nat} (hevent : e.on? n = none)
    (hopens : e.opens n = false) (hacts : actsOn n acts = []) :
    Change ctx cancelled n e acts s.channels[n]? s.cancel.channels[n]? := by
  simp only [cancel, List.getElem?_map]
  cases s.channels[n]? with
  | none => exact .keep hevent hopens hacts
  | some stage =>
      cases stage with
      | serving h => exact .cancel hevent hopens hacts
      | _ => exact .keep hevent hopens hacts

theorem change_leave {ctx : Context} {cancelled : Bool} {n : Nat} {report : List Act}
    (hevent : e.on? n = none) (hopens : e.opens n = false) (hreport : actsOn n report = []) :
    Change ctx cancelled n e (report ++ s.leave.2) s.channels[n]? s.leave.1.channels[n]? := by
  have hacts : actsOn n (report ++ s.leave.2) = actsOn n (numbered n s.leave.2) := by
    rw [actsOn_append, hreport, actsOn_numbered, List.nil_append]
  rw [numbered_leave] at hacts
  simp only [leave_channels, List.getElem?_map]
  cases hstage : s.channels[n]? with
  | none =>
      rw [hstage] at hacts
      exact .keep hevent hopens hacts
  | some stage =>
      rw [hstage] at hacts
      cases stage with
      | queued a => exact .drop hevent hopens (by simp [hacts, actsOn_forgone, Act.on?])
      | _ => exact .keep hevent hopens hacts

theorem change_setStage {ctx : Context} {cancelled : Bool} {n m : Nat} {stage after : Stage}
    (hstage : s.channels[m]? = some stage)
    (hown : Change ctx cancelled m e acts (some stage) (some after))
    (hother : ¬ m = n → Change ctx cancelled n e acts s.channels[n]? s.channels[n]?) :
    Change ctx cancelled n e acts s.channels[n]? (s.setStage m after).channels[n]? := by
  have hlt : m < s.channels.length := (List.getElem?_eq_some_iff.1 hstage).1
  by_cases hm : m = n
  · subst hm
    have hset : (s.setStage m after).channels[m]? = some after := by simp [setStage, hlt]
    rw [hset, hstage]
    exact hown
  · simpa [setStage, hm] using hother hm

theorem change_push {ctx : Context} {cancelled : Bool} {n : Nat} {stages : List Stage}
    {stage : Stage} (hnew : Change ctx cancelled stages.length e acts none (some stage))
    (hevent : e.on? n = none) (hopens : e.opens n = false) (hacts : actsOn n acts = []) :
    Change ctx cancelled n e acts stages[n]? (stages ++ [stage])[n]? := by
  by_cases hn : n < stages.length
  · rw [List.getElem?_append_left hn]
    exact .keep hevent hopens hacts
  · by_cases hlast : n = stages.length
    · subst hlast
      rw [List.getElem?_eq_none (Nat.le_refl _), List.getElem?_concat_length]
      exact hnew
    · have hbeyond : (stages ++ [stage]).length ≤ n := by
        rw [List.length_append, List.length_singleton]
        omega
      rw [List.getElem?_eq_none (by omega), List.getElem?_eq_none hbeyond]
      exact .keep hevent hopens hacts

/-- Every step of a connection does to an attempt one of the things of the list. -/
theorem change_of_move (hmove : Move s e acts t) (n : Nat) :
    Change s.context s.cancelled n e acts s.channels[n]? t.channels[n]? := by
  cases hmove with
  | elapse _ | endOpens | globalRequest _ | endGlobals | provision _ _ | provisioned _ =>
      exact .keep rfl rfl rfl
  | cancel => exact change_cancel rfl rfl rfl
  | arrive kind payload _ => exact change_push .arrive rfl rfl rfl
  | refuse kind payload _ => exact change_push .refuse rfl rfl rfl
  | leave hleaves =>
      cases hleaves with
      | early _ _ | done _ _ => exact change_leave rfl rfl rfl
      | giveUpPod _ _ => exact change_leave rfl rfl rfl
      | noPod _ =>
          refine change_leave rfl rfl ?_
          split <;> rfl
  | join _ _ => exact change_cancel rfl rfl rfl
  | close _ _ _ =>
      refine .keep rfl rfl ?_
      simp only [crashReport]
      split <;> rfl
  | takeOpen _ _ hqueued =>
      exact change_setStage hqueued .takeOpen fun _ => .keep rfl rfl rfl
  | attempt hstage hstep => exact change_setStage hstage (.own hstep) fun hne => hstep.keep hne _
  | @keepalive e k own _ _ =>
      have hacts : actsOn n ((if givesUpProbe s.keepalive e then [.giveUpProbe] else []) ++
          own.map (probing k.settings.request)) = [] := by
        rw [← actsOn_numbered, numbered_append, numbered_probing]
        split <;> rfl
      have hevent : (Event.keepalive e).on? n = none := rfl
      have hopens : (Event.keepalive e).opens n = false := rfl
      by_cases hexhausts : exhausts own = true
      · rw [if_pos hexhausts]
        exact change_cancel (s := { s with keepalive := k }) hevent hopens hacts
      · rw [if_neg hexhausts]
        exact .keep hevent hopens hacts
  | @discard e d own _ _ =>
      exact .keep rfl rfl (by rw [← actsOn_numbered, numbered_discards, actsOn_nil])
  | @closed outcome report _ hreport =>
      refine .keep rfl rfl ?_
      rw [hreport]
      cases outcome <;> rfl

end State

/-! ## A connection seen from one attempt -/

/-- Whether an event of a channel can come before the channel is open. -/
def isEarly : Channel.Event → Bool
  | .arrive _ | .hangUp => true
  | _ => false

/-- Whether an event of a channel comes from the connection and not from its own attempt. -/
def isCancel : Channel.Event → Bool
  | .cancel => true
  | _ => false

/-- What is known of an attempt after a sequence of steps. While it waits for its answer nothing is
seen of it. If it has been accepted, it is in a state of its channel that a run of the channel
leads to, and what is seen of it is what is seen of that run. -/
inductive Traced (ctx : Context) (n : Nat) (log : Log) : Option Stage → Prop
  | absent (hacts : actsOn n (seen log) = []) (hevents : eventsOn n log = [])
      (hopens : opens n log = 0) : Traced ctx n log none
  | waiting {stage : Stage} {a : Attempt} (hattempt : stage.attempt? = some a)
      (hinbox : a.requests.dropped = false) (hacts : actsOn n (seen log) = [])
      (hevents : ∀ e ∈ eventsOn n log, isEarly e) (hopens : opens n log = 0) :
      Traced ctx n log (some stage)
  | ended (hacts : ∀ a ∈ actsOn n (seen log), ∃ i, a = .forgo i)
      (hevents : ∀ e ∈ eventsOn n log, isEarly e) (hopens : opens n log = 0) :
      Traced ctx n log (some .ended)
  | crashed (hcapacity : Terminal.SizeQueue.maxCapacity < ctx.config.queueCapacity.toNat)
      (hacts : ∀ a ∈ actsOn n (seen log), ∃ i, a = .forgo i)
      (hevents : ∀ e ∈ eventsOn n log, isEarly e) (hopens : opens n log = 1) :
      Traced ctx n log (some .crashed)
  | serving {h : Channel.Handler} {forwardOpen : Option ForwardOpen} {requests : List ChannelRequest}
      {ended : Bool} {own : Channel.Log} {before : List Channel.Event}
      (hcapacity : ¬ Terminal.SizeQueue.maxCapacity < ctx.config.queueCapacity.toNat)
      (hrun : Run (Channel.Handler.step ctx)
        (Channel.Handler.opened ctx (tableFor forwardOpen) forwardOpen false requests ended) own h)
      (hacts : actsOn n (seen log) = seen own)
      (hbefore : ∀ e ∈ before, isEarly e)
      (hevents : eventsOn n log = before ++ (own.map (·.event)).filter (!isCancel ·))
      (hopens : opens n log = 1) : Traced ctx n log (some (.serving h))

theorem Stage.attempt_setAttempt {stage : Stage} {a : Attempt} (b : Attempt)
    (hattempt : stage.attempt? = some a) : (stage.setAttempt b).attempt? = some b := by
  cases stage <;> first | rfl | cases hattempt

section

variable {ctx : Context} {cancelled : Bool} {n : Nat} {log : Log} {τ : Transition State Event Act}

theorem actsOn_snoc (n : Nat) (log : Log) (τ : Transition State Event Act) :
    actsOn n (seen (log ++ [τ])) = actsOn n (seen log) ++ actsOn n τ.acts := by
  simp

theorem forgoFrom_forgo {m : Nat} {requests : List ChannelRequest} :
    ∀ a ∈ Channel.Handler.forgoFrom m requests, ∃ i, a = .forgo i := by
  induction requests generalizing m with
  | nil => simp [Channel.Handler.forgoFrom]
  | cons r rest ih =>
      simp only [Channel.Handler.forgoFrom]
      split
      · intro a ha
        rcases List.mem_cons.1 ha with rfl | ha
        · exact ⟨m, rfl⟩
        · exact ih a ha
      · exact ih

theorem arriveEarly_eq_some {a b : Attempt} {e : Channel.Event}
    (hearly : State.arriveEarly a e = some b) :
    isEarly e = true ∧ b.requests.dropped = a.requests.dropped := by
  cases e with
  | arrive r =>
      obtain rfl := Option.some.inj hearly
      refine ⟨rfl, ?_⟩
      simp only [Inbox.send]
      split <;> rfl
  | hangUp =>
      obtain rfl := Option.some.inj hearly
      exact ⟨rfl, rfl⟩
  | _ => cases hearly

theorem Traced.keep {stage : Option Stage} (htraced : Traced ctx n log stage)
    (hevent : τ.event.on? n = none) (hopens : τ.event.opens n = false)
    (hacts : actsOn n τ.acts = []) : Traced ctx n (log ++ [τ]) stage := by
  have hseen : actsOn n (seen (log ++ [τ])) = actsOn n (seen log) := by
    rw [actsOn_snoc, hacts, List.append_nil]
  have hown : eventsOn n (log ++ [τ]) = eventsOn n log := by
    rw [eventsOn_snoc, hevent, Option.toList_none, List.append_nil]
  have hcount : opens n (log ++ [τ]) = opens n log := by
    rw [opens_snoc, hopens, Bool.toNat_false, Nat.add_zero]
  cases htraced with
  | absent h₁ h₂ h₃ => exact .absent (hseen ▸ h₁) (hown ▸ h₂) (hcount ▸ h₃)
  | waiting hattempt hinbox h₁ h₂ h₃ =>
      exact .waiting hattempt hinbox (hseen ▸ h₁) (hown ▸ h₂) (hcount ▸ h₃)
  | ended h₁ h₂ h₃ => exact .ended (hseen ▸ h₁) (hown ▸ h₂) (hcount ▸ h₃)
  | crashed hcapacity h₁ h₂ h₃ => exact .crashed hcapacity (hseen ▸ h₁) (hown ▸ h₂) (hcount ▸ h₃)
  | serving hcapacity hrun h₁ hbefore h₂ h₃ =>
      exact .serving hcapacity hrun (hseen ▸ h₁) hbefore (hown ▸ h₂) (hcount ▸ h₃)

/-- An attempt that waits goes on waiting, with what has arrived for it. -/
theorem Traced.wait {stage after : Stage} {a b : Attempt} (htraced : Traced ctx n log (some stage))
    (hattempt : stage.attempt? = some a) (hafter : after.attempt? = some b)
    (hinbox : b.requests.dropped = a.requests.dropped)
    (hevent : ∀ e, τ.event.on? n = some e → isEarly e = true) (hopens : τ.event.opens n = false)
    (hacts : actsOn n τ.acts = []) : Traced ctx n (log ++ [τ]) (some after) := by
  cases htraced with
  | waiting hsame hempty hseen hevents hcount =>
      obtain rfl := Option.some.inj (hattempt.symm.trans hsame)
      refine .waiting hafter (hinbox.trans hempty) (by rw [actsOn_snoc, hseen, hacts]; rfl) ?_
        (by rw [opens_snoc, hcount, hopens]; rfl)
      intro e he
      rw [eventsOn_snoc, List.mem_append, Option.mem_toList] at he
      exact he.elim (hevents e) (hevent e)
  | _ => cases hattempt

/-- The task of an attempt ends, and destroys the requests that have arrived. -/
theorem Traced.destroy {stage : Stage} {a : Attempt} (htraced : Traced ctx n log (some stage))
    (hattempt : stage.attempt? = some a) (hevent : τ.event.on? n = none)
    (hacts : actsOn n τ.acts = Channel.Handler.forgoFrom 0 a.requests.queued) :
    (∀ a ∈ actsOn n (seen (log ++ [τ])), ∃ i, a = .forgo i) ∧
      (∀ e ∈ eventsOn n (log ++ [τ]), isEarly e) ∧
      opens n (log ++ [τ]) = (τ.event.opens n).toNat := by
  cases htraced with
  | waiting _ _ hseen hevents hcount =>
      refine ⟨?_, ?_, by rw [opens_snoc, hcount, Nat.zero_add]⟩
      · rw [actsOn_snoc, hseen, hacts, List.nil_append]
        exact forgoFrom_forgo
      · rw [eventsOn_snoc, hevent, Option.toList_none, List.append_nil]
        exact hevents
  | _ => cases hattempt

theorem Traced.finish {stage : Stage} {a : Attempt} (htraced : Traced ctx n log (some stage))
    (hattempt : stage.attempt? = some a) (hevent : τ.event.on? n = none)
    (hopens : τ.event.opens n = false)
    (hacts : actsOn n τ.acts = Channel.Handler.forgoFrom 0 a.requests.queued) :
    Traced ctx n (log ++ [τ]) (some .ended) := by
  obtain ⟨hseen, hevents, hcount⟩ := htraced.destroy hattempt hevent hacts
  rw [hopens] at hcount
  exact .ended hseen hevents hcount

theorem Traced.crash {stage : Stage} {a : Attempt} (htraced : Traced ctx n log (some stage))
    (hcapacity : Terminal.SizeQueue.maxCapacity < ctx.config.queueCapacity.toNat)
    (hattempt : stage.attempt? = some a) (hevent : τ.event.on? n = none)
    (hopens : τ.event.opens n = true)
    (hacts : actsOn n τ.acts = Channel.Handler.forgoFrom 0 a.requests.queued) :
    Traced ctx n (log ++ [τ]) (some .crashed) := by
  obtain ⟨hseen, hevents, hcount⟩ := htraced.destroy hattempt hevent hacts
  rw [hopens] at hcount
  exact .crashed hcapacity hseen hevents hcount

theorem Traced.serve {h t : Channel.Handler} {e : Channel.Event} {acts : List Channel.Act}
    (htraced : Traced ctx n log (some (.serving h))) (hstep : h.step ctx e = some (t, acts))
    (hevent : (τ.event.on? n).toList = [e].filter (!isCancel ·)) (hopens : τ.event.opens n = false)
    (hacts : actsOn n τ.acts = acts) : Traced ctx n (log ++ [τ]) (some (.serving t)) := by
  cases htraced with
  | waiting hattempt _ _ _ _ => cases hattempt
  | serving hcapacity hrun hseen hbefore hevents hcount =>
      refine .serving hcapacity (hrun.snoc hstep) ?_ hbefore ?_
        (by rw [opens_snoc, hcount, hopens]; rfl)
      · rw [actsOn_snoc, hseen, hacts]
        simp
      · rw [eventsOn_snoc, hevents, hevent, List.map_append, List.filter_append, List.append_assoc]
        rfl

/-- A channel begins with the requests that have arrived for its attempt. -/
theorem opened_of_requests {a : Attempt} (forwardOpen : Option ForwardOpen)
    (hinbox : a.requests.dropped = false) :
    { Channel.Handler.accepted ctx (tableFor forwardOpen) forwardOpen false with
      inbox := a.requests } = Channel.Handler.opened ctx (tableFor forwardOpen) forwardOpen false
        a.requests.queued a.requests.ended := by
  rw [Channel.Handler.opened, ← hinbox]

theorem Traced.own {stage after : Stage} (htraced : Traced ctx n log (some stage))
    (hstep : stage.Step ctx cancelled n τ.event τ.acts after) :
    Traced ctx n (log ++ [τ]) (some after) := by
  obtain ⟨source, event, acts, target⟩ := τ
  cases hstep with
  | accept _ _ | reject _ _ => exact htraced.wait rfl rfl rfl (by simp [Event.on?]) rfl rfl
  | abandon _ | withdrawAccept _ | withdrawReject _ | acceptFails _ | rejected _ | rejectFails _ =>
      exact htraced.finish rfl rfl rfl (by simp [actsOn_forgone, Act.on?, failed])
  | crash _ hcapacity =>
      exact htraced.crash hcapacity rfl rfl (by simp [Event.opens])
        ((actsOn_forgone n n _).trans (if_pos rfl))
  | @serve a forwardOpen _ hcapacity =>
      cases htraced with
      | waiting hattempt hinbox hseen hevents hcount =>
          obtain rfl := Option.some.inj hattempt
          rw [opened_of_requests forwardOpen hinbox]
          refine .serving hcapacity .nil (by rw [actsOn_snoc, hseen]; rfl) hevents ?_
            (by rw [opens_snoc, hcount]; simp [Event.opens])
          rw [eventsOn_snoc]
          rfl
  | @early _ a b e hattempt hearly =>
      obtain ⟨hevent, hinbox⟩ := arriveEarly_eq_some hearly
      exact htraced.wait hattempt (Stage.attempt_setAttempt b hattempt) hinbox
        (by simp [Event.on?, hevent]) rfl rfl
  | @work h t e own hown hstep =>
      refine htraced.serve hstep ?_ rfl (by rw [actsOn_map, if_pos rfl])
      cases e <;> simp_all [Event.on?, isCancel]

theorem Traced.step {before after : Option Stage} (htraced : Traced ctx n log before)
    (hchange : Change ctx cancelled n τ.event τ.acts before after) :
    Traced ctx n (log ++ [τ]) after := by
  obtain ⟨source, event, acts, target⟩ := τ
  cases hchange with
  | keep hevent hopens hacts => exact htraced.keep hevent hopens hacts
  | arrive =>
      cases htraced with
      | absent hseen hevents hcount =>
          refine .waiting rfl rfl (by rw [actsOn_snoc, hseen]; rfl) ?_
            (by rw [opens_snoc, hcount]; rfl)
          rw [eventsOn_snoc, hevents]
          simp [Event.on?]
  | refuse =>
      cases htraced with
      | absent hseen hevents hcount =>
          refine .ended ?_ ?_ (by rw [opens_snoc, hcount]; rfl)
          · rw [actsOn_snoc, hseen]
            simp [Act.on?]
          · rw [eventsOn_snoc, hevents]
            simp [Event.on?]
  | takeOpen => exact htraced.wait rfl rfl rfl (by simp [Event.on?]) rfl rfl
  | drop hevent hopens hacts => exact htraced.finish rfl hevent hopens hacts
  | own hstep => exact htraced.own hstep
  | @cancel _ _ h hevent hopens hacts =>
      have hstep : h.step ctx .cancel = some (h.mapScratch Channel.Scratch.close, []) := rfl
      refine htraced.serve hstep ?_ hopens hacts
      rw [hevent]
      rfl

end

theorem State.Move.context {s t : State} {e : Event} {acts : List Act} (hmove : s.Move e acts t) :
    t.context = s.context := by
  cases hmove with
  | keepalive _ _ => split <;> rfl
  | _ => rfl

/-- After every run of a connection, each attempt that has become a channel is in a state that a
run of the channel leads to, and nothing of a channel is seen of the others. -/
theorem traced_of_run {ctx : Context} {cancelled : Bool} {log : Log} {s : State}
    (hrun : Run State.step (State.fresh ctx cancelled) log s) (n : Nat) :
    s.context = ctx ∧ Traced ctx n log s.channels[n]? := by
  induction hrun with
  | nil => exact ⟨rfl, .absent rfl rfl rfl⟩
  | snoc _ hstep ih =>
      obtain ⟨rfl, htraced⟩ := ih
      have hmove := State.move_of_step hstep
      exact ⟨hmove.context, htraced.step (State.change_of_move hmove n)⟩

theorem tableFor_orderly (forwardOpen : Option ForwardOpen) : (tableFor forwardOpen).Orderly := by
  cases forwardOpen with
  | none => exact Channel.Session.table_orderly
  | some opened => exact Channel.Forward.table_orderly

theorem Traced.sound {ctx : Context} {n : Nat} {log : Log} {h : Channel.Handler}
    (htraced : Traced ctx n log (some (.serving h))) : h.Sound := by
  cases htraced with
  | waiting hattempt _ _ _ _ => cases hattempt
  | serving _ hrun _ _ _ _ =>
      exact hrun.invariant (Channel.Handler.sound_opened (tableFor_orderly _) _ _ _ _)
        Channel.Handler.Sound.step

theorem channels_sound {ctx : Context} {cancelled : Bool} {log : Log} {s : State}
    (hrun : Run State.step (State.fresh ctx cancelled) log s) (n : Nat) (h : Channel.Handler)
    (hstage : s.channels[n]? = some (.serving h)) : h.Sound := by
  have htraced := (traced_of_run hrun n).2
  rw [hstage] at htraced
  exact htraced.sound

end SessionGateway.Connection
