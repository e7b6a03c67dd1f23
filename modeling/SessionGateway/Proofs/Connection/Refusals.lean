import SessionGateway.Simulation.Basic
import SessionGateway.Proofs.Connection.Outlook

/-!
# Requests on a connection

The gateway offers no requests on a connection. Each one that is received is refused in its turn,
and only a connection whose token is cancelled destroys requests that are still queued. What is done
with the requests depends on the token and on nothing else of the connection, and nothing else of the
connection depends on it: a run in which everything about the requests is left out is a run of the
connection that never had to do with any.
-/

namespace SessionGateway

open Simulation (Mailbox)

def GlobalRequest.slot (r : GlobalRequest) : ReplySlot :=
  .ofWanted r.wantReply

namespace Discard

def Act.number : Act → Nat
  | .refuse n | .forgo n => n

/-- The numbers of the requests that want an answer, where the first request has number `n`. -/
def wantedFrom (n : Nat) (requests : List GlobalRequest) : List Nat :=
  ((requests.zipIdx n).filter (·.1.wantReply)).map (·.2)

section

variable (n : Nat) (r : GlobalRequest) (requests more : List GlobalRequest)

@[simp] theorem wantedFrom_nil : wantedFrom n [] = [] := rfl

theorem wantedFrom_cons :
    wantedFrom n (r :: requests) =
      (if r.wantReply then [n] else []) ++ wantedFrom (n + 1) requests := by
  cases h : r.wantReply <;> simp [wantedFrom, List.zipIdx_cons, h]

theorem wantedFrom_append :
    wantedFrom n (requests ++ more) =
      wantedFrom n requests ++ wantedFrom (n + requests.length) more := by
  simp [wantedFrom, List.zipIdx_append]

theorem nodup_wantedFrom : (wantedFrom n requests).Nodup := by
  have hsub : (wantedFrom n requests).Sublist ((requests.zipIdx n).map (·.2)) :=
    List.filter_sublist.map _
  rw [List.zipIdx_map_snd] at hsub
  exact hsub.nodup List.nodup_range'

theorem forgoFrom_eq_map : State.forgoFrom n requests = (wantedFrom n requests).map .forgo := by
  induction requests generalizing n with
  | nil => rfl
  | cons r rest ih =>
      rw [State.forgoFrom, wantedFrom_cons, ih]
      cases r.wantReply <;> rfl

end

end Discard

/-! ## What the peer gets -/

section

variable (f : ReplySlot → ReplySlot) (first : List ReplySlot) (slot : ReplySlot)
  (rest : List (Option ReplySlot))

theorem modifySlot_append :
    Mailbox.modifySlot f first.length (first.map some ++ some slot :: rest) =
      first.map some ++ some (f slot) :: rest := by
  induction first with
  | nil => rfl
  | cons _ _ ih => simpa [Mailbox.modifySlot] using ih

/-- The peer finds the next request refused. -/
theorem slots_of_refuse (r : GlobalRequest) :
    ((if r.wantReply then [Discard.Act.refuse first.length] else []).foldl Mailbox.observe
        ⟨first.map some ++ some r.slot :: rest⟩).slots =
      first.map some ++ some (r.slot.reply false) :: rest := by
  cases h : r.wantReply with
  | false => simp [GlobalRequest.slot, h, ReplySlot.ofWanted, ReplySlot.reply]
  | true => simpa [Mailbox.observe, Mailbox.answer] using modifySlot_append _ first r.slot rest

/-- The peer finds the requests that are still queued destroyed. -/
theorem slots_of_forgo (requests : List GlobalRequest) :
    ((Discard.State.forgoFrom first.length requests).foldl Mailbox.observe
        ⟨first.map some ++ (requests.map GlobalRequest.slot).map some ++ rest⟩).slots =
      first.map some ++ (requests.map fun r => r.slot.destroy).map some ++ rest := by
  induction requests generalizing first with
  | nil => simp [Discard.State.forgoFrom]
  | cons r later ih =>
      have hlater := ih (first ++ [r.slot.destroy])
      rw [List.length_append, List.length_singleton] at hlater
      rw [Discard.State.forgoFrom]
      cases h : r.wantReply with
      | false =>
          have hslot : r.slot.destroy = r.slot := by
            simp [GlobalRequest.slot, h, ReplySlot.ofWanted, ReplySlot.destroy]
          rw [hslot] at hlater
          simpa [hslot] using hlater
      | true =>
          have hfirst := modifySlot_append ReplySlot.destroy first r.slot
            ((later.map GlobalRequest.slot).map some ++ rest)
          rw [if_pos rfl, List.foldl_cons, Mailbox.observe, Mailbox.forgo]
          simp only [List.map_cons, List.append_assoc, List.cons_append] at hfirst hlater ⊢
          rw [hfirst]
          simpa using hlater

end

namespace Connection

open Discard (wantedFrom)

def Event.isGlobal : Event → Bool
  | .globalRequest _ | .endGlobals | .discard _ => true
  | _ => false

def Event.endsGlobals : Event → Bool
  | .endGlobals => true
  | _ => false

def Event.request? : Event → Option GlobalRequest
  | .globalRequest r => some r
  | _ => none

def Act.discard? : Act → Option Discard.Act
  | .discard a => some a
  | _ => none

def discards (acts : List Act) : List Discard.Act :=
  acts.filterMap Act.discard?

def apart (acts : List Act) : List Act :=
  acts.filter (·.discard?.isNone)

/-- The events that are not about requests on the connection. -/
def elsewhere (events : List Event) : List Event :=
  events.filter (!·.isGlobal)

/-- The requests on the connection that are sent before the peer sends no further one. -/
def offered : List Event → List GlobalRequest
  | [] => []
  | .endGlobals :: _ => []
  | e :: rest => e.request?.toList ++ offered rest

def requested (events : List Event) : List GlobalRequest :=
  events.filterMap Event.request?

def deliver (m : Mailbox) (τ : Transition State Event Act) : Mailbox :=
  (discards τ.acts).foldl Mailbox.observe
    (match τ.event with
      | .globalRequest r => m.send τ.source.discard.inbox.accepts r.wantReply
      | _ => m)

def mailbox (log : Log) : Mailbox :=
  log.foldl deliver .empty

section

variable (acts rest : List Act) (pre post : List Event) (e : Event) (log : Log)
  (τ : Transition State Event Act)

@[simp] theorem discards_nil : discards [] = [] := rfl

@[simp] theorem discards_append : discards (acts ++ rest) = discards acts ++ discards rest :=
  List.filterMap_append

@[simp] theorem discards_map_discard (own : List Discard.Act) :
    discards (own.map .discard) = own := by
  rw [discards, List.filterMap_map]
  exact List.filterMap_some

theorem requested_snoc :
    requested (pre ++ [e]) = requested pre ++ e.request?.toList := by
  cases h : e.request? <;> simp [requested, h]

theorem offered_append :
    offered (pre ++ post) =
      offered pre ++ if pre.any Event.endsGlobals then [] else offered post := by
  induction pre with
  | nil => simp [offered]
  | cons e later ih =>
      cases e with
      | endGlobals => simp [offered, Event.endsGlobals]
      | _ => simp [offered, ih, Event.endsGlobals]

theorem offered_snoc :
    offered (pre ++ [e]) =
      offered pre ++ if pre.any Event.endsGlobals then [] else e.request?.toList := by
  rw [offered_append]
  cases e <;> simp [offered, Event.request?]

theorem mailbox_snoc : mailbox (log ++ [τ]) = deliver (mailbox log) τ := by
  simp [mailbox]

end

/-! ## Every request in its turn -/

/-- What a step of the connection does with the requests on it. -/
inductive State.Discarding (s : State) : Event → List Discard.Act → Discard.State → Prop
  | arrive (r : GlobalRequest) : Discarding s (.globalRequest r) [] (s.discard.arrive r)
  | finish : Discarding s .endGlobals [] s.discard.finish
  | take {r : GlobalRequest} {later : List GlobalRequest} (hrunning : s.discard.stopped = false)
      (hqueued : s.discard.inbox.queued = r :: later) :
      Discarding s (.discard .take) (if r.wantReply then [.refuse s.discard.taken] else [])
        ⟨{ s.discard.inbox with queued := later }, s.discard.taken + 1, false⟩
  | stop (hrunning : s.discard.stopped = false)
      (hend : s.cancelled = true ∨ s.discard.inbox.exhausted = true) :
      Discarding s (.discard .stop)
        (Discard.State.forgoFrom s.discard.taken s.discard.inbox.queued)
        ⟨s.discard.inbox.drop, s.discard.taken, true⟩
  | keep {e : Event} (hother : e.isGlobal = false) : Discarding s e [] s.discard

/-- What has become of the requests on a connection that were sent. The oldest have been refused;
after them come those that were destroyed when the refusal stopped, those that are queued, and those
that could not be sent any more. -/
structure Ledger (refused destroyed late : List GlobalRequest) (log : Log) (cancelled : Bool)
    (d : Discard.State) : Prop where
  sent : requested (log.map (·.event)) = refused ++ destroyed ++ d.inbox.queued ++ late
  offered : cancelled = false → offered (log.map (·.event)) = refused ++ d.inbox.queued
  acts : discards (seen log) = (wantedFrom 0 refused).map .refuse ++
    (wantedFrom refused.length destroyed).map .forgo
  slots : (mailbox log).slots =
    (refused.map (·.slot.reply false) ++ destroyed.map (·.slot.destroy) ++
      d.inbox.queued.map (·.slot)).map some ++ late.map fun _ => none
  taken : d.taken = refused.length
  ended : d.inbox.ended = (log.map (·.event)).any Event.endsGlobals
  dropped : d.inbox.dropped = d.stopped
  running : d.stopped = false → destroyed = []
  stopped : d.stopped = true → d.inbox.queued = [] ∧ (cancelled = true ∨ d.inbox.ended = true)
  spared : cancelled = false → destroyed = []
  late : late = [] ∨ d.inbox.accepts = false

namespace State

variable {s t : State} {e : Event} {acts : List Act}

theorem discards_of_attempt {n : Nat} {stage after : Stage}
    (hstep : stage.Step s.context s.cancelled n e acts after) :
    e.isGlobal = false ∧ ∀ a ∈ acts, a.discard? = none := by
  refine ⟨by cases hstep <;> rfl, fun a ha => ?_⟩
  rcases hstep.own_or_warn a ha with hnumber | ⟨text, rfl⟩
  · cases a <;> first | rfl | cases hnumber
  · rfl

theorem discards_of_leave (s : State) : ∀ a ∈ s.leave.2, a.discard? = none := by
  intro a ha
  rcases mem_dropQueued ha with ⟨m, rfl⟩ | ⟨m, i, rfl⟩ <;> rfl

/-- A step that is not about requests on the connection does nothing with them. -/
theorem discard_of_move (hmove : s.Move e acts t) (hother : e.isGlobal = false) :
    t.discard = s.discard ∧ ∀ a ∈ acts, a.discard? = none := by
  cases hmove with
  | elapse _ | cancel | arrive _ _ _ | endOpens | provisioned _ | join _ _ | takeOpen _ _ _ =>
      exact ⟨rfl, by simp⟩
  | refuse _ _ _ | provision _ _ => exact ⟨rfl, by simp [Act.discard?]⟩
  | globalRequest _ | endGlobals | discard _ _ => cases hother
  | leave hleaves =>
      refine ⟨rfl, fun a ha => ?_⟩
      rcases List.mem_append.1 ha with hreport | hdropped
      · cases hleaves with
        | noPod _ =>
            split at hreport
            · cases hreport
            · obtain rfl := List.mem_singleton.1 hreport
              rfl
        | giveUpPod _ _ =>
            obtain rfl := List.mem_singleton.1 hreport
            rfl
        | _ => cases hreport
      · exact discards_of_leave s a hdropped
  | close _ _ _ =>
      refine ⟨rfl, ?_⟩
      simp only [crashReport]
      split <;> simp [Act.discard?]
  | attempt _ hstep => exact ⟨rfl, (discards_of_attempt hstep).2⟩
  | @keepalive own k owns _ _ =>
      refine ⟨by split <;> rfl, fun a ha => ?_⟩
      rcases List.mem_append.1 ha with hgive | hown
      · split at hgive
        · obtain rfl := List.mem_singleton.1 hgive
          rfl
        · cases hgive
      · obtain ⟨act, _, rfl⟩ := List.mem_map.1 hown
        cases act <;> rfl
  | @closed outcome _ _ hreport =>
      refine ⟨rfl, ?_⟩
      rw [hreport]
      cases outcome <;> simp [Act.discard?]

theorem discarding_of_move (hmove : s.Move e acts t) :
    s.Discarding e (discards acts) t.discard := by
  cases hother : e.isGlobal with
  | false =>
      obtain ⟨hkept, hquiet⟩ := discard_of_move hmove hother
      have hnone : discards acts = [] := List.filterMap_eq_nil_iff.2 hquiet
      rw [hkept, hnone]
      exact .keep hother
  | true =>
      cases hmove with
      | globalRequest r => exact .arrive r
      | endGlobals => exact .finish
      | @discard own d acts _ hstep =>
          rw [discards_map_discard]
          cases own with
          | take =>
              simp only [Discard.State.step, Inbox.take?] at hstep
              cases hstopped : s.discard.stopped with
              | true => simp [hstopped] at hstep
              | false =>
                  cases hqueued : s.discard.inbox.queued with
                  | nil => simp [hqueued] at hstep
                  | cons r later =>
                      simp only [hstopped, hqueued, Bool.false_eq_true, if_false, Option.map_some,
                        Option.some.injEq, Prod.mk.injEq] at hstep
                      obtain ⟨rfl, rfl⟩ := hstep
                      exact .take hstopped hqueued
          | stop =>
              simp only [Discard.State.step] at hstep
              split at hstep
              · cases hstep
              · rename_i hrunning
                split at hstep
                · rename_i hend
                  obtain ⟨rfl, rfl⟩ := Prod.mk.inj (Option.some.inj hstep)
                  exact .stop (by simpa using hrunning) hend
                · cases hstep
      | leave hleaves => cases hleaves <;> cases hother
      | attempt _ hstep =>
          rw [(discards_of_attempt hstep).1] at hother
          cases hother
      | _ => cases hother

end State

section

variable {refused destroyed late : List GlobalRequest} {log : Log} {cancelled cancelled' : Bool}
  {d : Discard.State}

theorem ledger_fresh (cancelled : Bool) : Ledger [] [] [] [] cancelled Discard.fresh where
  sent := rfl
  offered _ := rfl
  acts := rfl
  slots := rfl
  taken := rfl
  ended := rfl
  dropped := rfl
  running _ := rfl
  stopped h := by cases h
  spared _ := rfl
  late := .inl rfl

namespace Ledger

variable {s t : State} {e : Event} {acts : List Act}

/-- A request that is received is queued behind the others. -/
theorem send (h : Ledger refused destroyed late log s.cancelled s.discard) (r : GlobalRequest)
    (haccepts : s.discard.inbox.accepts = true) (hacts : discards acts = []) :
    Ledger refused destroyed late (log ++ [⟨s, .globalRequest r, acts, t⟩]) s.cancelled
      (s.discard.arrive r) := by
  obtain ⟨hended, hdropped⟩ :
      s.discard.inbox.ended = false ∧ s.discard.inbox.dropped = false := by
    simpa [Inbox.accepts] using haccepts
  have hrunning : s.discard.stopped = false := h.dropped ▸ hdropped
  obtain rfl : late = [] := h.late.resolve_right (by simp [haccepts])
  obtain rfl := h.running hrunning
  have harrive : s.discard.arrive r =
      { s.discard with inbox :=
        { s.discard.inbox with queued := s.discard.inbox.queued ++ [r] } } := by
    simp [Discard.State.arrive, Inbox.send, haccepts]
  rw [harrive]
  constructor
  · simp [requested_snoc, h.sent, Event.request?]
  · intro hlive
    rw [List.map_append, List.map_singleton, offered_snoc, h.offered hlive, ← h.ended, hended]
    simp [Event.request?]
  · simpa [hacts] using h.acts
  · simp [mailbox_snoc, deliver, hacts, Mailbox.send, haccepts, h.slots, GlobalRequest.slot]
  · exact h.taken
  · simpa [Event.endsGlobals] using h.ended
  · exact h.dropped
  · exact fun _ => rfl
  · exact fun hstopped => absurd hstopped (by simp [hrunning])
  · exact fun _ => rfl
  · exact .inl rfl

/-- A request that is not received cannot be sent. -/
theorem lose (h : Ledger refused destroyed late log s.cancelled s.discard) (r : GlobalRequest)
    (hrefuses : s.discard.inbox.accepts = false) (hacts : discards acts = []) :
    Ledger refused destroyed (late ++ [r]) (log ++ [⟨s, .globalRequest r, acts, t⟩]) s.cancelled
      (s.discard.arrive r) := by
  have harrive : s.discard.arrive r = s.discard := by
    simp [Discard.State.arrive, Inbox.send, hrefuses]
  rw [harrive]
  constructor
  · simp [requested_snoc, h.sent, Event.request?]
  · intro hlive
    have hended : s.discard.inbox.ended = true := by
      cases hstopped : s.discard.stopped with
      | true => simpa [hlive] using (h.stopped hstopped).2
      | false => simpa [Inbox.accepts, h.dropped, hstopped] using hrefuses
    rw [List.map_append, List.map_singleton, offered_snoc, h.offered hlive, ← h.ended, hended]
    simp
  · simpa [hacts] using h.acts
  · simp [mailbox_snoc, deliver, hacts, Mailbox.send, hrefuses, h.slots]
  · exact h.taken
  · simpa [Event.endsGlobals] using h.ended
  · exact h.dropped
  · exact h.running
  · exact h.stopped
  · exact h.spared
  · exact .inr hrefuses

theorem finish (h : Ledger refused destroyed late log s.cancelled s.discard)
    (hacts : discards acts = []) :
    Ledger refused destroyed late (log ++ [⟨s, .endGlobals, acts, t⟩]) s.cancelled
      { s.discard with inbox := { s.discard.inbox with ended := true } } := by
  constructor
  · simpa [requested_snoc, Event.request?] using h.sent
  · intro hlive
    simpa [offered_snoc, Event.request?] using h.offered hlive
  · simpa [hacts] using h.acts
  · simpa [mailbox_snoc, deliver, hacts] using h.slots
  · exact h.taken
  · simp [Event.endsGlobals]
  · exact h.dropped
  · exact h.running
  · exact fun hstopped => ⟨(h.stopped hstopped).1, .inr rfl⟩
  · exact h.spared
  · exact .inr rfl

/-- The request that is taken is refused. -/
theorem take {r : GlobalRequest} {later : List GlobalRequest}
    (h : Ledger refused destroyed late log s.cancelled s.discard)
    (hrunning : s.discard.stopped = false) (hqueued : s.discard.inbox.queued = r :: later)
    (hacts : discards acts = if r.wantReply then [.refuse s.discard.taken] else []) :
    Ledger (refused ++ [r]) destroyed late (log ++ [⟨s, .discard .take, acts, t⟩]) s.cancelled
      ⟨{ s.discard.inbox with queued := later }, s.discard.taken + 1, false⟩ := by
  obtain rfl := h.running hrunning
  constructor
  · simp [requested_snoc, h.sent, hqueued, Event.request?]
  · intro hlive
    simp [offered_snoc, h.offered hlive, hqueued, Event.request?]
  · have hwanted := Discard.wantedFrom_append 0 refused [r]
    rw [Nat.zero_add, Discard.wantedFrom_cons, Discard.wantedFrom_nil, List.append_nil] at hwanted
    simp only [seen_append, seen_cons, seen_nil, List.append_nil, discards_append, h.acts, hacts,
      hwanted, h.taken, Discard.wantedFrom_nil, List.map_nil, List.map_append]
    cases r.wantReply <;> rfl
  · have hslots := h.slots
    have hrefuse := slots_of_refuse (refused.map (·.slot.reply false))
      ((later.map (·.slot)).map some ++ late.map fun _ => none) r
    simp only [hqueued, List.map_nil, List.append_nil, List.map_append, List.map_cons,
      List.append_assoc, List.cons_append] at hslots
    rw [List.length_map, ← h.taken, ← hacts] at hrefuse
    rw [mailbox_snoc, deliver, (show mailbox log = ⟨_⟩ from congrArg Mailbox.mk hslots), hrefuse]
    simp
  · simp [h.taken]
  · simpa [Event.endsGlobals] using h.ended
  · exact h.dropped.trans hrunning
  · exact fun _ => rfl
  · exact fun hstopped => by cases hstopped
  · exact fun _ => rfl
  · exact h.late

/-- When the refusal stops, it destroys the requests that are still queued. -/
theorem stop (h : Ledger refused destroyed late log s.cancelled s.discard)
    (hrunning : s.discard.stopped = false)
    (hend : s.cancelled = true ∨ s.discard.inbox.exhausted = true)
    (hacts : discards acts =
      Discard.State.forgoFrom s.discard.taken s.discard.inbox.queued) :
    Ledger refused s.discard.inbox.queued late (log ++ [⟨s, .discard .stop, acts, t⟩]) s.cancelled
      ⟨s.discard.inbox.drop, s.discard.taken, true⟩ := by
  obtain rfl := h.running hrunning
  have hexhausted : s.cancelled = false →
      s.discard.inbox.queued = [] ∧ s.discard.inbox.ended = true := by
    intro hlive
    simpa [hlive, Inbox.exhausted] using hend
  constructor
  · simp [requested_snoc, h.sent, Event.request?, Inbox.drop]
  · intro hlive
    simp [offered_snoc, h.offered hlive, hexhausted hlive, Event.request?, Inbox.drop]
  · simp only [seen_append, seen_cons, seen_nil, List.append_nil, discards_append, h.acts, hacts,
      Discard.wantedFrom_nil, List.map_nil, h.taken, Discard.forgoFrom_eq_map]
  · have hslots := h.slots
    have hforgo := slots_of_forgo (refused.map (·.slot.reply false)) (late.map fun _ => none)
      s.discard.inbox.queued
    simp only [List.map_nil, List.append_nil, List.map_append] at hslots
    rw [List.length_map, ← h.taken, ← hacts] at hforgo
    rw [mailbox_snoc, deliver, (show mailbox log = ⟨_⟩ from congrArg Mailbox.mk hslots), hforgo]
    simp [Inbox.drop]
  · exact h.taken
  · simpa [Event.endsGlobals, Inbox.drop] using h.ended
  · rfl
  · exact fun hstopped => by cases hstopped
  · refine fun _ => ⟨rfl, ?_⟩
    cases hcancel : s.cancelled with
    | true => exact .inl rfl
    | false => exact .inr (hexhausted hcancel).2
  · exact fun hlive => (hexhausted hlive).1
  · exact .inr (by simp [Inbox.accepts, Inbox.drop])

theorem keep (h : Ledger refused destroyed late log s.cancelled s.discard)
    (hother : e.isGlobal = false) (hacts : discards acts = []) :
    Ledger refused destroyed late (log ++ [⟨s, e, acts, t⟩]) s.cancelled s.discard := by
  have hevent : e.request? = none ∧ e.endsGlobals = false := by
    cases e <;> first | exact ⟨rfl, rfl⟩ | cases hother
  constructor
  · simpa [requested_snoc, hevent] using h.sent
  · intro hlive
    simpa [offered_snoc, hevent] using h.offered hlive
  · simpa [hacts] using h.acts
  · have hsame : deliver (mailbox log) ⟨s, e, acts, t⟩ = mailbox log := by
      simp only [deliver, hacts]
      cases e <;> first | rfl | cases hother
    rw [mailbox_snoc, hsame]
    exact h.slots
  · exact h.taken
  · simpa [hevent] using h.ended
  · exact h.dropped
  · exact h.running
  · exact h.stopped
  · exact h.spared
  · exact h.late

/-- A token that is cancelled stays so. -/
theorem of_cancelled (h : Ledger refused destroyed late log cancelled d)
    (hcancelled : cancelled' = false → cancelled = false) :
    Ledger refused destroyed late log cancelled' d :=
  { h with
    offered := fun hlive => h.offered (hcancelled hlive)
    stopped := fun hstopped => by
      refine (h.stopped hstopped).imp_right fun hend => ?_
      cases cancelled' with
      | true => exact .inl rfl
      | false => exact hend.imp_left fun hcancel => by simp [hcancel] at hcancelled
    spared := fun hlive => h.spared (hcancelled hlive) }

end Ledger

/-- Every step of a connection goes on with the ledger. -/
theorem ledger_of_move {s t : State} {e : Event} {acts : List Act} (hmove : s.Move e acts t)
    (h : Ledger refused destroyed late log s.cancelled s.discard) :
    ∃ refused destroyed late,
      Ledger refused destroyed late (log ++ [⟨s, e, acts, t⟩]) t.cancelled t.discard := by
  have hcancelled : t.cancelled = false → s.cancelled = false := by
    intro hlive
    cases hcancel : s.cancelled with
    | false => rfl
    | true => rw [State.cancelled_move hmove hcancel] at hlive; cases hlive
  have hstep := State.discarding_of_move hmove
  generalize hacts : discards acts = own at hstep
  generalize t.discard = after at hstep
  suffices hledger : ∃ refused destroyed late,
      Ledger refused destroyed late (log ++ [⟨s, e, acts, t⟩]) s.cancelled after by
    obtain ⟨refused, destroyed, late, hafter⟩ := hledger
    exact ⟨refused, destroyed, late, hafter.of_cancelled hcancelled⟩
  cases hstep with
  | arrive r =>
      cases haccepts : s.discard.inbox.accepts with
      | true => exact ⟨_, _, _, h.send r haccepts hacts⟩
      | false => exact ⟨_, _, _, h.lose r haccepts hacts⟩
  | finish => exact ⟨_, _, _, h.finish hacts⟩
  | take hrunning hqueued => exact ⟨_, _, _, h.take hrunning hqueued hacts⟩
  | stop hrunning hend => exact ⟨_, _, _, h.stop hrunning hend hacts⟩
  | keep hother => exact ⟨_, _, _, h.keep hother hacts⟩

theorem ledger_of_run {ctx : Context} {s : State}
    (hrun : Run State.step (State.fresh ctx cancelled) log s) :
    ∃ refused destroyed late, Ledger refused destroyed late log s.cancelled s.discard := by
  induction hrun with
  | nil => exact ⟨[], [], [], ledger_fresh cancelled⟩
  | snoc _ hstep ih =>
      obtain ⟨refused, destroyed, late, hledger⟩ := ih
      exact ledger_of_move (State.move_of_step hstep) hledger

end

/-! ## Everything else -/

namespace State

/-- The connection as if it never had to do with a request on it. -/
def unrequested (s : State) : State :=
  { s with discard := ⟨.fresh, 0, true⟩ }

variable {s t : State} {e : Event} {acts : List Act}

theorem unrequested_leaves {report : List Act} (hleaves : s.Leaves e report) :
    s.unrequested.Leaves e report := by
  cases hleaves with
  | early hphase hcancel => exact .early hphase hcancel
  | giveUpPod hphase hcancel => exact .giveUpPod hphase hcancel
  | noPod hphase => exact .noPod hphase
  | done hphase hend => exact .done hphase hend

theorem unrequested_move (hmove : s.Move e acts t) (hother : e.isGlobal = false) :
    s.unrequested.Move e acts t.unrequested := by
  cases hmove with
  | elapse ms => exact .elapse ms
  | cancel => exact .cancel
  | arrive kind payload hreceives => exact .arrive kind payload hreceives
  | refuse kind payload hrefuses => exact .refuse kind payload hrefuses
  | endOpens => exact .endOpens
  | globalRequest _ | endGlobals | discard _ _ => cases hother
  | provision hphase hlive => exact .provision hphase hlive
  | provisioned hphase => exact .provisioned hphase
  | leave hleaves => exact .leave (unrequested_leaves hleaves)
  | join hphase hfinished => exact .join hphase hfinished
  | close hphase hkeepalive _ => exact .close hphase hkeepalive rfl
  | takeOpen hphase hfirst hqueued => exact .takeOpen hphase hfirst hqueued
  | attempt hstage hstep => exact .attempt (s := s.unrequested) hstage hstep
  | @keepalive _ k own hphase hstep =>
      have hmove := Move.keepalive (s := s.unrequested) hphase hstep
      have hkept : unrequested (if exhausts own then State.cancel { s with keepalive := k }
          else { s with keepalive := k }) =
          if exhausts own then State.cancel { s.unrequested with keepalive := k }
            else { s.unrequested with keepalive := k } := by
        split <;> rfl
      rw [hkept]
      exact hmove
  | closed hphase hreport => exact .closed hphase hreport

theorem unrequested_of_global (hmove : s.Move e acts t) (hglobal : e.isGlobal = true) :
    t.unrequested = s.unrequested ∧ apart acts = [] := by
  cases hmove with
  | globalRequest _ | endGlobals => exact ⟨rfl, rfl⟩
  | discard _ _ => exact ⟨rfl, by simp [apart, Act.discard?]⟩
  | leave hleaves => cases hleaves <;> cases hglobal
  | attempt _ hstep =>
      rw [(discards_of_attempt hstep).1] at hglobal
      cases hglobal
  | _ => cases hglobal

end State

section

variable {ctx : Context} {cancelled : Bool} {log : Log} {s : State}

theorem events_elsewhere (log : Log) :
    (log.filterMap (Transition.project State.unrequested (fun _ => Option.guard (!·.isGlobal))
      (Option.guard (·.discard?.isNone)))).map (·.event) = elsewhere (log.map (·.event)) := by
  induction log with
  | nil => rfl
  | cons τ rest ih =>
      cases hglobal : τ.event.isGlobal <;>
        simpa [Transition.project, Option.guard, elsewhere, hglobal] using ih

/-- With everything about requests on it left out, a run of a connection is a run of the connection
that never had to do with any. -/
theorem unrequested_run (hrun : Run State.step (State.fresh ctx cancelled) log s) :
    ∃ rest, Run State.step (State.fresh ctx cancelled).unrequested rest s.unrequested ∧
      rest.map (·.event) = elsewhere (log.map (·.event)) ∧ seen rest = apart (seen log) := by
  have hview : ∀ acts : List Act, acts.filterMap (Option.guard (·.discard?.isNone)) = apart acts :=
    fun acts => congrFun List.filterMap_eq_filter acts
  have htake : ∀ τ ∈ log, ∀ e, Option.guard (!·.isGlobal) τ.event = some e →
      State.step τ.source.unrequested e = some (τ.target.unrequested,
        τ.acts.filterMap (Option.guard (·.discard?.isNone))) := by
    intro τ hτ e hown
    have hmove := State.move_of_step (hrun.step_of_mem hτ)
    obtain ⟨rfl, hother⟩ := Option.guard_eq_some_iff.1 hown
    have hother : τ.event.isGlobal = false := by simpa using hother
    have hacts : apart τ.acts = τ.acts := by
      rw [apart, List.filter_eq_self]
      intro a ha
      simp [(State.discard_of_move hmove hother).2 a ha]
    rw [hview, hacts]
    exact State.step_of_move (State.unrequested_move hmove hother)
  have hskip : ∀ τ ∈ log, Option.guard (!·.isGlobal) τ.event = none →
      τ.target.unrequested = τ.source.unrequested ∧
        τ.acts.filterMap (Option.guard (·.discard?.isNone)) = [] := by
    intro τ hτ hown
    have hmove := State.move_of_step (hrun.step_of_mem hτ)
    have hglobal : τ.event.isGlobal = true := by simpa [Option.guard] using hown
    rw [hview]
    exact State.unrequested_of_global hmove hglobal
  obtain ⟨hrest, hseen⟩ := hrun.project State.unrequested (fun _ => Option.guard (!·.isGlobal))
    (Option.guard (·.discard?.isNone)) htake hskip
  exact ⟨_, hrest, events_elsewhere log, hseen.trans (hview _)⟩

/-- A settled connection whose token is not cancelled has asked for the pod, and has no request
queued. -/
theorem queued_of_settled (hrun : Run State.step (State.fresh ctx cancelled) log s)
    (hsettled : s.Settled) (hlive : s.cancelled = false) : s.discard.inbox.queued = [] := by
  have hphase : s.phase ≠ .ready := by
    intro hphase
    have hadvance : s.advance? = none := hsettled .advance rfl
    simp [State.advance?, hphase, hlive] at hadvance
  obtain ⟨refused, destroyed, late, hledger⟩ := ledger_of_run hrun
  cases hstopped : s.discard.stopped with
  | true => exact (hledger.stopped hstopped).1
  | false =>
      have htake : s.discard? .take = none := hsettled (.discard .take) rfl
      cases hqueued : s.discard.inbox.queued with
      | nil => rfl
      | cons r later =>
          simp [State.discard?, hphase, Discard.State.step, hstopped, Inbox.take?, hqueued] at htake

/-- What can have become of a request on the connection once nobody deals with it any more: it was
refused, it was destroyed while it was queued, or it could not be sent. -/
inductive Concluded (r : GlobalRequest) : Option ReplySlot → Prop
  | refused : Concluded r (some (r.slot.reply false))
  | destroyed : Concluded r (some r.slot.destroy)
  | lost : Concluded r none

theorem Concluded.not_waiting {r : GlobalRequest} {slot : Option ReplySlot}
    (h : Concluded r slot) : slot ≠ some .waiting ∧ slot ≠ some (.answered true) := by
  cases h with
  | lost => simp
  | refused | destroyed =>
      cases hwanted : r.wantReply <;>
        simp [GlobalRequest.slot, ReplySlot.ofWanted, ReplySlot.reply, ReplySlot.destroy, hwanted]

theorem Ledger.concluded_or_queued {refused destroyed late : List GlobalRequest}
    {d : Discard.State} {slot : Option ReplySlot}
    (h : Ledger refused destroyed late log cancelled d) (hslot : slot ∈ (mailbox log).slots) :
    (∃ r, Concluded r slot) ∨ ∃ r ∈ d.inbox.queued, slot = some r.slot := by
  rw [h.slots] at hslot
  simp only [List.map_append, List.mem_append, List.mem_map] at hslot
  rcases hslot with ((⟨_, ⟨r, _, rfl⟩, rfl⟩ | ⟨_, ⟨r, _, rfl⟩, rfl⟩) | ⟨_, ⟨r, hr, rfl⟩, rfl⟩) |
    ⟨r, _, rfl⟩
  · exact .inl ⟨r, .refused⟩
  · exact .inl ⟨r, .destroyed⟩
  · exact .inr ⟨r, hr, rfl⟩
  · exact .inl ⟨r, .lost⟩

theorem Ledger.concluded {refused destroyed late : List GlobalRequest} {d : Discard.State}
    (h : Ledger refused destroyed late log cancelled d) (hqueued : d.inbox.queued = []) :
    List.Forall₂ Concluded (requested (log.map (·.event))) (mailbox log).slots := by
  have hall : ∀ (requests : List GlobalRequest) (f : GlobalRequest → Option ReplySlot),
      (∀ r, Concluded r (f r)) → List.Forall₂ Concluded requests (requests.map f) := by
    intro requests f hf
    rw [List.forall₂_map_right_iff]
    exact List.forall₂_same.2 fun r _ => hf r
  rw [h.sent, h.slots, hqueued]
  simp only [List.map_nil, List.append_nil, List.map_append, List.map_map]
  exact List.rel_append (List.rel_append (hall _ _ fun _ => .refused) (hall _ _ fun _ => .destroyed))
    (hall _ _ fun _ => .lost)

structure RefusesGlobals (ctx : Context) (cancelled : Bool) (log : Log) (s : State) : Prop where
  never : some (.answered true) ∉ (mailbox log).slots
  /-- Of the requests that were sent, the oldest have been refused and the next ones destroyed, in
  their order and each once; then come those that are queued, and those that could not be sent. Only
  a connection whose token is cancelled destroys requests. -/
  inOrder : ∃ refused destroyed late,
    requested (log.map (·.event)) = refused ++ destroyed ++ s.discard.inbox.queued ++ late ∧
    discards (seen log) = (wantedFrom 0 refused).map .refuse ++
      (wantedFrom refused.length destroyed).map .forgo ∧
    (s.cancelled = false → destroyed = [])
  once : ((discards (seen log)).map Discard.Act.number).Nodup
  /-- In a settled connection whose token is not cancelled every request so far has been refused, and
  the peer has got the answer if it wants one. -/
  settled : s.Settled → s.cancelled = false →
    discards (seen log) = (wantedFrom 0 (offered (log.map (·.event)))).map .refuse ∧
    ∀ (n : Nat) (r : GlobalRequest), (offered (log.map (·.event)))[n]? = some r →
      (mailbox log).slots[n]? = some (some (r.slot.reply false))
  /-- A queued request can be refused at once, no matter what the rest of the connection does. -/
  ready : s.phase ≠ .ready → s.cancelled = false → s.discard.inbox.queued ≠ [] →
    (s.step (.discard .take)).isSome
  /-- Neither the requests nor their end nor what is done with them makes a difference to anything
  else of the connection. -/
  independent : ∃ rest,
    Run State.step (State.fresh ctx cancelled).unrequested rest s.unrequested ∧
    rest.map (·.event) = elsewhere (log.map (·.event)) ∧ seen rest = apart (seen log)
  /-- Once the connection has returned, no request waits for its answer. -/
  returned : s.phase = .returned →
    List.Forall₂ Concluded (requested (log.map (·.event))) (mailbox log).slots ∧
    some .waiting ∉ (mailbox log).slots

/-- A connection refuses every request on it that it receives, in the order of their arrival and each
once, as long as its token is not cancelled. Requests that are still queued then are destroyed, none
is ever granted, and none waits for its answer when the connection has returned. Nothing else of the
connection has to do with them. -/
theorem global_requests_refused (hrun : Run State.step (State.fresh ctx cancelled) log s) :
    RefusesGlobals ctx cancelled log s := by
  obtain ⟨refused, destroyed, late, hledger⟩ := ledger_of_run hrun
  have hnumbers : (discards (seen log)).map Discard.Act.number =
      wantedFrom 0 (refused ++ destroyed) := by
    rw [hledger.acts, Discard.wantedFrom_append, List.map_append, List.map_map, List.map_map,
      Nat.zero_add]
    simp [Function.comp_def, Discard.Act.number]
  constructor
  case never =>
    intro hgranted
    rcases hledger.concluded_or_queued hgranted with ⟨r, hconcluded⟩ | ⟨r, _, hslot⟩
    · exact hconcluded.not_waiting.2 rfl
    · cases hwanted : r.wantReply <;>
        simp [GlobalRequest.slot, ReplySlot.ofWanted, hwanted] at hslot
  case inOrder => exact ⟨refused, destroyed, late, hledger.sent, hledger.acts, hledger.spared⟩
  case once =>
    rw [hnumbers]
    exact Discard.nodup_wantedFrom 0 _
  case settled =>
    intro hsettled hlive
    have hqueued := queued_of_settled hrun hsettled hlive
    have hoffered := hledger.offered hlive
    rw [hqueued, List.append_nil] at hoffered
    rw [hoffered]
    refine ⟨by simp [hledger.acts, hledger.spared hlive], fun n r hr => ?_⟩
    rw [hledger.slots, List.append_assoc, List.map_append, List.append_assoc,
      List.getElem?_append_left (by simpa using (List.getElem?_eq_some_iff.1 hr).1)]
    simp [hr]
  case ready =>
    intro hphase hlive hqueued
    have hrunning : s.discard.stopped = false := by
      rw [Bool.eq_false_iff]
      exact fun hstopped => hqueued (hledger.stopped hstopped).1
    obtain ⟨r, later, hfirst⟩ := List.exists_cons_of_ne_nil hqueued
    simp [State.step, State.discard?, hphase, Discard.State.step, hrunning, Inbox.take?, hfirst]
  case independent => exact unrequested_run hrun
  case returned =>
    intro hphase
    have hstopped := (sound_of_run hrun).discard (by rw [hphase]; rfl)
    have hqueued := (hledger.stopped hstopped).1
    refine ⟨hledger.concluded hqueued, fun hwaiting => ?_⟩
    rcases hledger.concluded_or_queued hwaiting with ⟨r, hconcluded⟩ | ⟨r, hr, _⟩
    · exact hconcluded.not_waiting.1 rfl
    · rw [hqueued] at hr
      cases hr

/-- Requests are refused while the pod is awaited, one whose answer nobody wants among them; the one
that is queued when the token is cancelled is destroyed. -/
theorem global_requests_refused_early :
    (∃ log s, Run State.step (State.fresh ⟨⟨"team", "ada"⟩, .standard⟩ false) log s ∧
      s.phase = .provisioning ∧ discards (seen log) = [.refuse 0, .refuse 2]) ∧
    ∃ log s, Run State.step (State.fresh ⟨⟨"team", "ada"⟩, .standard⟩ false) log s ∧
      s.phase = .returned ∧ discards (seen log) = [.refuse 0, .forgo 2] ∧
      some .waiting ∉ (mailbox log).slots := by
  constructor
  · have hcheck : ∃ log s, Run State.step (State.fresh ⟨⟨"team", "ada"⟩, .standard⟩ false) log s ∧
        s.phase = .provisioning ∧ s.Settled ∧ s.cancelled = false ∧
        wantedFrom 0 (offered (log.map (·.event))) = [0, 2] :=
      exists_run_of_replay
        [.globalRequest ⟨"tcpip-forward", [], true⟩, .advance, .keepalive (.start ""),
          .globalRequest ⟨"no-more-sessions@openssh.com", [], false⟩, .discard .take,
          .globalRequest ⟨"tcpip-forward", [], true⟩, .discard .take, .discard .take]
        (by decide +kernel)
    obtain ⟨log, s, hrun, hphase, hsettled, hlive, hwanted⟩ := hcheck
    refine ⟨log, s, hrun, hphase, ?_⟩
    rw [((global_requests_refused hrun).settled hsettled hlive).1, hwanted]
    rfl
  · have hcheck : ∃ log s, Run State.step (State.fresh ⟨⟨"team", "ada"⟩, .standard⟩ false) log s ∧
        s.phase = .returned ∧ discards (seen log) = [.refuse 0, .forgo 2] :=
      exists_run_of_replay
        [.advance, .keepalive (.start ""), .globalRequest ⟨"tcpip-forward", [], true⟩, .discard .take,
          .globalRequest ⟨"no-more-sessions@openssh.com", [], false⟩,
          .globalRequest ⟨"tcpip-forward", [], true⟩, .cancel, .discard .stop, .advance, .advance,
          .keepalive .stop, .advance, .connectionClosed (.ok ())]
        (by decide +kernel)
    obtain ⟨log, s, hrun, hphase, hacts⟩ := hcheck
    exact ⟨log, s, hrun, hphase, hacts, ((global_requests_refused hrun).returned hphase).2⟩

end

end Connection

end SessionGateway
