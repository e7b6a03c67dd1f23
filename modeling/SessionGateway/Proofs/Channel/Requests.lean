import SessionGateway.Proofs.Channel.Cleanup

/-!
# The requests of a channel

The requests of a channel are numbered in the order in which they arrive. In the loop they are
taken in this order, and each is answered in the step that takes it. When the channel leaves its
loop, the requests that are still in the queue are destroyed. So every request that wants an answer
is either answered once or destroyed once, and nothing is left open when the stream is closed.
-/

namespace SessionGateway.Channel

def Act.answer? : Act → Option (Nat × Bool)
  | .answer n ok => some (n, ok)
  | _ => none

def Act.forgone? : Act → Option Nat
  | .forgo n => some n
  | _ => none

def answers (acts : List Act) : List (Nat × Bool) :=
  acts.filterMap Act.answer?

def forgone (acts : List Act) : List Nat :=
  acts.filterMap Act.forgone?

/-- The numbers of the requests that want an answer, if the first of the list has number `n`. -/
def wantedFrom (n : Nat) : List ChannelRequest → List Nat
  | [] => []
  | r :: rest => if r.wantReply then n :: wantedFrom (n + 1) rest else wantedFrom (n + 1) rest

@[simp] theorem answers_nil : answers [] = [] := rfl
@[simp] theorem forgone_nil : forgone [] = [] := rfl

@[simp] theorem answers_append (acts rest : List Act) :
    answers (acts ++ rest) = answers acts ++ answers rest := by
  simp [answers]

@[simp] theorem forgone_append (acts rest : List Act) :
    forgone (acts ++ rest) = forgone acts ++ forgone rest := by
  simp [forgone]

@[simp] theorem answers_cons (a : Act) (rest : List Act) :
    answers (a :: rest) = a.answer?.toList ++ answers rest := by
  cases h : a.answer? <;> simp [answers, h]

@[simp] theorem forgone_cons (a : Act) (rest : List Act) :
    forgone (a :: rest) = a.forgone?.toList ++ forgone rest := by
  cases h : a.forgone? <;> simp [forgone, h]

theorem wantedFrom_append (n : Nat) (first second : List ChannelRequest) :
    wantedFrom n (first ++ second) =
      wantedFrom n first ++ wantedFrom (n + first.length) second := by
  induction first generalizing n with
  | nil => rfl
  | cons r rest ih =>
      have hshift : n + 1 + rest.length = n + (rest.length + 1) := by omega
      simp only [List.cons_append, wantedFrom, List.length_cons, ih, hshift]
      split <;> rfl

/-- The numbers are those of the requests that want an answer, and each occurs once. -/
theorem count_wantedFrom (n i : Nat) (requests : List ChannelRequest) :
    (wantedFrom n requests).count i =
      if n ≤ i ∧ (requests[i - n]?).any (·.wantReply) then 1 else 0 := by
  induction requests generalizing n with
  | nil => simp [wantedFrom]
  | cons r rest ih =>
      by_cases hfirst : i = n
      · subst hfirst
        have hlater : (wantedFrom (i + 1) rest).count i = 0 := by
          rw [ih, if_neg fun h => Nat.not_succ_le_self i h.1]
        simp only [wantedFrom, Nat.sub_self, List.getElem?_cons_zero, Option.any_some]
        split <;> simp_all
      · have hne : ¬ n = i := fun h => hfirst h.symm
        have hcount : (wantedFrom n (r :: rest)).count i = (wantedFrom (n + 1) rest).count i := by
          simp only [wantedFrom]
          split
          · rw [List.count_cons_of_ne (by simpa using hne)]
          · rfl
        rw [hcount, ih]
        -- Number `i` stands at place `i - n` of the list and one place earlier in its rest.
        by_cases hle : n + 1 ≤ i
        · obtain ⟨k, rfl⟩ : ∃ k, i = n + 1 + k := ⟨i - (n + 1), by omega⟩
          have hindex : n + 1 + k - n = k + 1 := by omega
          have hrest : n + 1 + k - (n + 1) = k := by omega
          have hn : n ≤ n + 1 + k := by omega
          rw [hindex, hrest, List.getElem?_cons_succ]
          simp [hn]
        · have hlow : ¬ n ≤ i := by omega
          simp [hle, hlow]

namespace Handler

def takes? (h : Handler) : Event → Option ChannelRequest
  | .advance =>
    if h.phase = .serving ∧ h.scratch.closed = false then h.inbox.queued.head? else none
  | _ => none

def receives? (h : Handler) : Event → Option ChannelRequest
  | .arrive r => if h.inbox.accepts then some r else none
  | _ => none

end Handler

abbrev Log := List (Transition Handler Event Act)

def processed (log : Log) : List ChannelRequest :=
  log.filterMap fun τ => τ.source.takes? τ.event

def arrived (log : Log) : List ChannelRequest :=
  log.filterMap fun τ => τ.source.receives? τ.event

section

variable (log rest : Log) (τ : Transition Handler Event Act)

@[simp] theorem processed_nil : processed [] = [] := rfl
@[simp] theorem arrived_nil : arrived [] = [] := rfl

@[simp] theorem processed_append : processed (log ++ rest) = processed log ++ processed rest := by
  simp [processed]

@[simp] theorem arrived_append : arrived (log ++ rest) = arrived log ++ arrived rest := by
  simp [arrived]

@[simp] theorem processed_cons :
    processed (τ :: rest) = (τ.source.takes? τ.event).toList ++ processed rest := by
  cases h : τ.source.takes? τ.event <;> simp [processed, h]

@[simp] theorem arrived_cons :
    arrived (τ :: rest) = (τ.source.receives? τ.event).toList ++ arrived rest := by
  cases h : τ.source.receives? τ.event <;> simp [arrived, h]

end

/-- Every request that the table handles is answered in the same step, with `value`, and none is
destroyed. -/
structure Table.Answering (table : Table)
    (value : Context → Scratch → ChannelRequest → Bool) : Prop where
  answers : ∀ ctx n raw (s : Scratch), answers (table.dispatch ctx n raw s).2 =
    if raw.wantReply then [(n, value ctx s raw)] else []
  forgone : ∀ ctx n raw (s : Scratch), forgone (table.dispatch ctx n raw s).2 = []

theorem Table.runStartup_silent {ctx : Context} {callbacks : List (Labelled StartupCallback)}
    {s : Scratch} :
    answers (runStartup ctx callbacks s).2 = [] ∧ forgone (runStartup ctx callbacks s).2 = [] := by
  induction callbacks generalizing s with
  | nil => exact ⟨rfl, rfl⟩
  | cons callback rest ih =>
      simp only [runStartup]
      split
      · simpa [Act.answer?, Act.forgone?] using ih
      · exact ⟨rfl, rfl⟩

namespace Handler

variable {ctx : Context} {h t : Handler} {e : Event} {acts : List Act}

theorem forgoFrom_settles (n : Nat) (requests : List ChannelRequest) :
    answers (forgoFrom n requests) = [] ∧ forgone (forgoFrom n requests) = wantedFrom n requests := by
  induction requests generalizing n with
  | nil => exact ⟨rfl, rfl⟩
  | cons r rest ih =>
      simp only [forgoFrom, wantedFrom]
      split
      · simpa [Act.answer?, Act.forgone?] using ih (n + 1)
      · exact ih (n + 1)

theorem warnings_silent (outcome : Except Cause Unit) :
    (answers (execWarning outcome) = [] ∧ forgone (execWarning outcome) = []) ∧
      answers (forwardWarning outcome) = [] ∧ forgone (forwardWarning outcome) = [] := by
  cases outcome <;> exact ⟨⟨rfl, rfl⟩, rfl, rfl⟩

/-- What a step does to the requests of a channel if it neither takes one nor leaves the loop. -/
structure Idles (h : Handler) (e : Event) (acts : List Act) (t : Handler) : Prop where
  takes : h.takes? e = none
  answers : answers acts = []
  forgone : forgone acts = []
  table : t.table = h.table
  taken : t.taken = h.taken
  left : t.phase.left = h.phase.left
  queued : t.inbox.queued = h.inbox.queued ++ (h.receives? e).toList

/-- A step takes the first request of the queue, or leaves the loop, or leaves the requests that
have arrived alone. -/
inductive Turn (ctx : Context) (h : Handler) : Event → List Act → Handler → Prop
  | take {raw : ChannelRequest} {rest : List ChannelRequest} (hphase : h.phase = .serving)
      (hopen : h.scratch.closed = false) (hqueue : h.inbox.queued = raw :: rest) :
      Turn ctx h .advance (h.table.dispatch ctx h.taken raw h.scratch).2
        { h with
          scratch := (h.table.dispatch ctx h.taken raw h.scratch).1
          inbox := { h.inbox with queued := rest }
          taken := h.taken + 1 }
  | leave (hphase : h.phase = .serving)
      (hend : h.scratch.closed = true ∨ h.inbox.exhausted = true) :
      Turn ctx h .advance (forgoFrom h.taken h.inbox.queued) h.leave.1
  | idle {e : Event} {acts : List Act} {t : Handler} (hidle : Idles h e acts t) : Turn ctx h e acts t

theorem turn_of_move (hmove : Move ctx h e acts t) : Turn ctx h e acts t := by
  cases hmove with
  | take hphase hopen hqueue => exact .take hphase hopen hqueue
  | leave hphase hend => exact .leave hphase hend
  | arrive r =>
      refine .idle ⟨rfl, rfl, rfl, rfl, rfl, rfl, ?_⟩
      cases haccepts : h.inbox.accepts <;> simp [Inbox.send, receives?, haccepts]
  | start hphase =>
      have hsilent : answers (Table.runStartup ctx h.table.startup h.scratch).2 = [] ∧
          forgone (Table.runStartup ctx h.table.startup h.scratch).2 = [] :=
        Table.runStartup_silent
      exact .idle ⟨by simp [takes?, hphase], hsilent.1, hsilent.2, rfl, rfl,
        by simp [hphase, Phase.left], by simp [receives?]⟩
  | close hphase _ =>
      exact .idle ⟨by simp [takes?, hphase], rfl, rfl, rfl, rfl, by simp [hphase, Phase.left],
        by simp [receives?]⟩
  | @call i job act _ hact =>
      have hsilent : act.answer? = none ∧ act.forgone? = none := by
        cases job <;> simp only [Job.callAct?, Option.some.injEq, reduceCtorEq] at hact <;>
          subst hact <;> exact ⟨rfl, rfl⟩
      exact .idle ⟨rfl, by simp [hsilent.1], by simp [hsilent.2], rfl, rfl, rfl,
        by simp [receives?]⟩
  | @execEnds i request interactive outcome _ _ =>
      have hsilent := (warnings_silent outcome).1
      refine .idle ⟨rfl, ?_, ?_, by simp, by simp, by simp, by simp [receives?]⟩
      · split
        · rfl
        · exact hsilent.1
      · split
        · rfl
        · exact hsilent.2
  | @write i request interactive outcome _ _ _ =>
      have hsilent := (warnings_silent outcome).1
      exact .idle ⟨rfl, by simp [hsilent.1, Act.answer?], by simp [hsilent.2, Act.forgone?], rfl, rfl,
        rfl, by simp [receives?]⟩
  | @forwardEnds i request outcome _ =>
      have hsilent := (warnings_silent outcome).2
      refine .idle ⟨rfl, ?_, ?_, by simp, by simp, by simp, by simp [receives?]⟩
      · split
        · rfl
        · exact hsilent.1
      · split
        · rfl
        · exact hsilent.2
  | streamClosed hphase =>
      exact .idle ⟨rfl, rfl, rfl, rfl, rfl, by simp [hphase, Phase.left], by simp [receives?]⟩
  | hangUp | cancel | brief _ | join _ _ | written _ =>
      exact .idle ⟨rfl, rfl, rfl, by simp, by simp, by simp, by simp [receives?, Inbox.finish]⟩
  | pollSize _ | awaitSize _ | abandonSize _ | serveSize _ =>
      exact .idle ⟨rfl, rfl, rfl, rfl, rfl, rfl, by simp [receives?]⟩

theorem turn_of_step (hstep : h.step ctx e = some (t, acts)) : Turn ctx h e acts t :=
  turn_of_move (move_of_step hstep)

theorem takes_of_end (hend : h.scratch.closed = true ∨ h.inbox.exhausted = true) (e : Event) :
    h.takes? e = none := by
  rcases hend with hclosed | hexhausted
  · cases e <;> simp [takes?, hclosed]
  · have hempty : h.inbox.queued = [] := by
      simp only [Inbox.exhausted, Bool.and_eq_true, List.isEmpty_iff] at hexhausted
      exact hexhausted.1
    cases e <;> simp [takes?, hempty]

theorem Sound.receives_of_left (hsound : h.Sound) (hleft : h.phase.left = true) (e : Event) :
    h.receives? e = none := by
  have hdropped := (hsound.inbox_of_left hleft).1
  cases e <;> simp [receives?, Inbox.accepts, hdropped]

end Handler

/-- What has become of the requests of a channel after a sequence of steps, where `early` are those
that had arrived before the channel was accepted. -/
structure Served (table : Table) (early : List ChannelRequest) (log : Log) (h : Handler) :
    Prop where
  sound : h.Sound
  table : h.table = table
  taken : h.taken = (processed log).length
  answered : (answers (seen log)).map Prod.fst = wantedFrom 0 (processed log)
  waiting : h.phase.left = false →
    early ++ arrived log = processed log ++ h.inbox.queued ∧ forgone (seen log) = []
  dropped : h.phase.left = true → ∃ rest, early ++ arrived log = processed log ++ rest ∧
    forgone (seen log) = wantedFrom (processed log).length rest

section

variable {ctx : Context} {table : Table} {value : Context → Scratch → ChannelRequest → Bool}
  {forwardOpen : Option ForwardOpen} {cancelled ended : Bool} {early : List ChannelRequest}
  {log : Log} {h t : Handler} {e : Event} {acts : List Act}

theorem Served.opened (horderly : table.Orderly) :
    Served table early [] (Handler.opened ctx table forwardOpen cancelled early ended) where
  sound := Handler.sound_opened horderly forwardOpen cancelled early ended
  table := rfl
  taken := rfl
  answered := rfl
  waiting _ := ⟨by simp [Handler.opened], rfl⟩
  dropped hleft := by simp [Handler.opened, Handler.accepted, Phase.left] at hleft

theorem Served.idle (hserved : Served table early log h) (hsound : t.Sound)
    (hidle : h.Idles e acts t) : Served table early (log ++ [⟨h, e, acts, t⟩]) t where
  sound := hsound
  table := hidle.table.trans hserved.table
  taken := by simpa [hidle.takes, hidle.taken] using hserved.taken
  answered := by simpa [hidle.takes, hidle.answers] using hserved.answered
  waiting hleft := by
    rw [hidle.left] at hleft
    obtain ⟨hall, hnone⟩ := hserved.waiting hleft
    refine ⟨?_, by simp [hidle.forgone, hnone]⟩
    simp [hidle.takes, hidle.queued, ← List.append_assoc, hall]
  dropped hleft := by
    rw [hidle.left] at hleft
    obtain ⟨rest, hall, hrest⟩ := hserved.dropped hleft
    have hnone := hserved.sound.receives_of_left hleft e
    exact ⟨rest, by simpa [hidle.takes, hnone] using hall,
      by simpa [hidle.takes, hidle.forgone] using hrest⟩

/-- A step answers the request that it takes, if the request wants an answer, and no other. -/
theorem Served.answers_step (hserved : Served table early log h)
    (hanswering : table.Answering value) (hturn : h.Turn ctx e acts t) :
    answers acts = match h.takes? e with
      | some r => if r.wantReply then [((processed log).length, value ctx h.scratch r)] else []
      | none => [] := by
  cases hturn with
  | @take raw rest hphase hopen hqueue =>
      have htakes : h.takes? .advance = some raw := by simp [Handler.takes?, hphase, hopen, hqueue]
      rw [htakes, hserved.table, ← hserved.taken]
      exact hanswering.answers ctx h.taken raw h.scratch
  | leave _ hend =>
      rw [Handler.takes_of_end hend]
      exact (Handler.forgoFrom_settles h.taken h.inbox.queued).1
  | idle hidle =>
      rw [hidle.takes]
      exact hidle.answers

theorem Served.take (hserved : Served table early log h) (hsound : t.Sound)
    {raw : ChannelRequest} {rest : List ChannelRequest}
    (htakes : h.takes? .advance = some raw) (hqueue : h.inbox.queued = raw :: rest)
    (hstay : h.phase.left = false) (hserving : t.phase = h.phase) (htable : t.table = h.table)
    (htaken : t.taken = h.taken + 1) (hrest : t.inbox.queued = rest)
    (hanswers : (answers acts).map Prod.fst = wantedFrom (processed log).length [raw])
    (hforgone : forgone acts = []) :
    Served table early (log ++ [⟨h, .advance, acts, t⟩]) t := by
  obtain ⟨hall, hnone⟩ := hserved.waiting hstay
  refine ⟨hsound, htable.trans hserved.table, ?_, ?_, fun _ => ⟨?_, ?_⟩, fun hleft => ?_⟩
  · simp [htakes, htaken, hserved.taken]
  · simp [htakes, hserved.answered, hanswers, wantedFrom_append]
  · simp [htakes, hall, hqueue, hrest, Handler.receives?]
  · simp [hnone, hforgone]
  · rw [hserving, hstay] at hleft
    cases hleft

theorem Served.leave (hserved : Served table early log h) (hsound : h.leave.1.Sound)
    (hphase : h.phase = .serving)
    (hend : h.scratch.closed = true ∨ h.inbox.exhausted = true) :
    Served table early
      (log ++ [⟨h, .advance, Handler.forgoFrom h.taken h.inbox.queued, h.leave.1⟩]) h.leave.1 := by
  have htakes := Handler.takes_of_end hend .advance
  have hsettles := Handler.forgoFrom_settles h.taken h.inbox.queued
  have hstay : h.phase.left = false := by rw [hphase]; rfl
  obtain ⟨hall, hnone⟩ := hserved.waiting hstay
  refine ⟨hsound, hserved.table, ?_, ?_, fun hleft => ?_, fun _ => ⟨h.inbox.queued, ?_, ?_⟩⟩
  · simpa [htakes, Handler.leave] using hserved.taken
  · simpa [htakes, hsettles.1] using hserved.answered
  · simp [Handler.leave, Phase.left] at hleft
  · simpa [htakes, Handler.receives?] using hall
  · simpa [htakes, hnone, hserved.taken] using hsettles.2

theorem Served.step (hserved : Served table early log h) (hanswering : table.Answering value)
    (hstep : h.step ctx e = some (t, acts)) : Served table early (log ++ [⟨h, e, acts, t⟩]) t := by
  have hsound := hserved.sound.step hstep
  have hturn := Handler.turn_of_step hstep
  have hanswers := hserved.answers_step hanswering hturn
  cases hturn with
  | @take raw rest hphase hopen hqueue =>
      have htakes : h.takes? .advance = some raw := by simp [Handler.takes?, hphase, hopen, hqueue]
      have hforgone := hanswering.forgone ctx h.taken raw h.scratch
      rw [htakes] at hanswers
      rw [← hserved.table] at hforgone
      refine hserved.take hsound htakes hqueue (by rw [hphase]; rfl) rfl rfl rfl rfl ?_ hforgone
      rw [hanswers]
      simp only [wantedFrom]
      split <;> rfl
  | leave hphase hend => exact hserved.leave hsound hphase hend
  | idle hidle => exact hserved.idle hsound hidle

theorem served_of_run (horderly : table.Orderly) (hanswering : table.Answering value)
    (hrun : Run (Handler.step ctx) (Handler.opened ctx table forwardOpen cancelled early ended)
      log h) : Served table early log h := by
  induction hrun with
  | nil => exact .opened horderly
  | snoc _ hstep ih => exact ih.step hanswering hstep

end

end SessionGateway.Channel
