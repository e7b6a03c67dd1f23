import SessionGateway.Proofs.Task.Tokens

/-!
# What every run of task groups obeys

Along any run of task groups, whatever is started, ended, cancelled or waited for and in whatever
order, a token is cancelled exactly if it or one above it was cancelled; the number of running tasks
of a group is what was started in it less what has ended; and a call that waits for a group returns
only after a moment, since the call, at which the group had no running task.
-/

namespace SessionGateway.Task

namespace Callers

abbrev Log := List (Transition Callers Event Act)

/-- Everything that can happen to groups and to the calls that wait for them. -/
inductive Move (s : Callers) : Event → Callers → Prop
  | forest {e : Forest.Event} {f : Forest} (hmove : Forest.Move s.forest e f) :
      Move s (.forest e) { s with forest := f }
  | return {call : Nat} (hreleased : s.forest.isReleased call = true) (hnew : call ∉ s.returned) :
      Move s (.return call) { s with returned := s.returned ++ [call] }

def Event.cancels? (s : Callers) : Event → Option Nat
  | .forest e => e.cancels? s.forest
  | .return _ => none

def Event.ends (s : Callers) (group : Nat) : Event → Bool
  | .forest e => e.ends s.forest group
  | .return _ => false

def Hit (log : Log) (token : Nat) : Prop :=
  ∃ τ ∈ log, τ.event.cancels? τ.source = some token

def Begins (σ : Transition Callers Event Act) (call group : Nat) : Prop :=
  (σ.event = .forest (.wait group) ∨ σ.event = .forest (.shutdown group)) ∧
    σ.source.forest.waits.length = call

/-- A call that began to wait for a group with a step has been let go: at some moment since then no
task of the group ran, so that those that were there when the call began have ended. -/
structure LetGo (σ : Transition Callers Event Act) (late : Log) (s : Callers) (group : Nat) :
    Prop where
  idle : ∃ τ ∈ σ :: late, τ.target.forest.running group = 0
  ended : ∀ n entry, n < σ.source.forest.tasks.length → s.forest.tasks[n]? = some entry →
    entry.group = group → entry.running = false

/-- No call that has been let go is still to return. -/
def Settled (s : Callers) : Prop :=
  ∀ call, s.step (.return call) = none

section

variable {s t : Callers} {token top parent group call : Nat} {w : Wait} {e : Event}
  {acts : List Act} {log late : Log} {σ τ : Transition Callers Event Act}

theorem move_of_step (hstep : s.step e = some (t, acts)) : Move s e t := by
  cases e with
  | forest e =>
      obtain ⟨f, hnext, ⟨⟩⟩ := Option.map_eq_some_iff.1 hstep
      exact .forest (Forest.move_of_next hnext)
  | «return» call =>
      obtain ⟨hcan, ⟨⟩⟩ := Option.ite_none_right_eq_some.1 hstep
      obtain ⟨hreleased, hnew⟩ := Bool.and_eq_true_iff.1 hcan
      exact .return hreleased (by simpa using hnew)

/-! ## Which tokens are cancelled -/

theorem Move.turns (hmove : Move s e t) : Forest.Turns s.forest t.forest (e.cancels? s) := by
  cases hmove with
  | forest hmove => exact hmove.turns
  | «return» _ _ => exact .kept rfl

theorem Move.sound (hmove : Move s e t) (hsound : s.forest.Sound) : t.forest.Sound := by
  cases hmove with
  | forest hmove => exact hmove.sound hsound
  | «return» _ _ => exact hsound

theorem sound_of_run (hrun : Run step .empty log s) : s.forest.Sound :=
  hrun.invariant (P := fun s => s.forest.Sound) Forest.sound_empty
    fun hsound hstep => (move_of_step hstep).sound hsound

theorem hit_snoc {τ : Transition Callers Event Act} :
    Hit (log ++ [τ]) top ↔ Hit log top ∨ τ.event.cancels? τ.source = some top := by
  simp [Hit, or_and_right, exists_or]

theorem lt_of_hit (hrun : Run step .empty log s) (hhit : Hit log top) :
    top < s.forest.tokens.length := by
  induction hrun with
  | nil =>
      obtain ⟨τ, hmem, _⟩ := hhit
      exact absurd hmem List.not_mem_nil
  | snoc hrun hstep ih =>
      have hmove := move_of_step hstep
      refine Nat.lt_of_lt_of_le ?_ hmove.turns.length_le
      rcases hit_snoc.1 hhit with hearlier | hlast
      · exact ih hearlier
      · cases hmove with
        | forest hmove => exact hmove.lt_of_cancels (sound_of_run hrun) hlast
        | «return» _ _ => cases hlast

/-- A token is cancelled iff it was cancelled itself or one above it was, at whatever time. -/
theorem isCancelled_iff (hrun : Run step .empty log s) (htoken : token < s.forest.tokens.length) :
    s.forest.isCancelled token = true ↔ ∃ top, s.forest.Below top token ∧ Hit log top := by
  induction hrun generalizing token with
  | nil => exact absurd htoken (Nat.not_lt_zero _)
  | @snoc log s t e acts hrun hstep ih =>
      have hturns := (move_of_step hstep).turns
      rcases Nat.lt_or_ge token s.forest.tokens.length with hold | hnew
      · simp only [hturns.isCancelled_iff (sound_of_run hrun) hold, ih hold, hit_snoc,
          hturns.below_iff (sound_of_run hrun) hold, and_or_left, exists_or]
        exact or_congr_right (exists_congr fun _ => and_comm)
      · -- Nothing can have cancelled the new token itself, so all depends on its parent.
        obtain ⟨hnone, hparents, hcancelled⟩ := hturns.of_new hnew htoken
        have hlog : ∀ top, Hit (log ++ [⟨s, e, acts, t⟩]) top ↔ Hit log top := by
          simp [hit_snoc, hnone]
        rw [hcancelled]
        constructor
        · rintro ⟨parent, hparent, hbefore⟩
          have hlt := hparents parent hparent
          obtain ⟨top, hbelow, hhit⟩ := (ih hlt).1 hbefore
          exact ⟨top, .child hparent ((hturns.below_iff (sound_of_run hrun) hlt).2 hbelow),
            (hlog top).2 hhit⟩
        · rintro ⟨top, hbelow, hhit⟩
          obtain rfl | ⟨parent, hparent, hbelow⟩ := Forest.below_iff.1 hbelow
          · exact absurd (lt_of_hit hrun ((hlog _).1 hhit)) (Nat.not_lt_of_le hnew)
          · have hlt := hparents parent hparent
            exact ⟨parent, hparent, (ih hlt).2 ⟨top,
              (hturns.below_iff (sound_of_run hrun) hlt).1 hbelow, (hlog top).1 hhit⟩⟩

theorem isCancelled_stays (hrun : Run step s log t) (hsound : s.forest.Sound)
    (hcancelled : s.forest.isCancelled token = true) : t.forest.isCancelled token = true := by
  have hkept : t.forest.Sound ∧ t.forest.isCancelled token = true :=
    hrun.invariant (P := fun s => s.forest.Sound ∧ s.forest.isCancelled token = true)
      ⟨hsound, hcancelled⟩ fun ⟨hsound, hbefore⟩ hstep =>
        have hmove := move_of_step hstep
        ⟨hmove.sound hsound, (hmove.turns.isCancelled_iff hsound (Forest.lt_of_isCancelled hbefore)).2
          (.inl hbefore)⟩
  exact hkept.2

/-! ## How many tasks run -/

theorem Move.running_balance (hmove : Move s e t) (group : Nat) :
    t.forest.running group + (e.ends s group).toNat =
      s.forest.running group + (decide (e = .forest (.spawn group))).toNat := by
  cases hmove with
  | forest hmove =>
      rw [Event.ends, hmove.running_balance group]
      simp
  | «return» _ _ => rfl

theorem running_of_run (hrun : Run step .empty log s) (group : Nat) :
    s.forest.running group + log.countP (fun τ => τ.event.ends τ.source group) =
      log.countP fun τ => τ.event = .forest (.spawn group) := by
  induction hrun with
  | nil => rfl
  | @snoc log s t e acts _ hstep ih =>
      have hlast := (move_of_step hstep).running_balance group
      have hone (b : Bool) : (if b = true then 1 else 0) = b.toNat := by cases b <;> rfl
      rw [List.countP_append, List.countP_append, ← ih, List.countP_singleton,
        List.countP_singleton, hone, hone]
      show _ + (_ + (e.ends s group).toNat) = _ + _ + (decide (e = .forest (.spawn group))).toNat
      omega

/-! ## When a call returns -/

theorem prompt_of_run (hrun : Run step .empty log s) : s.forest.Prompt :=
  hrun.invariant (P := fun s => s.forest.Prompt) Forest.prompt_empty fun hprompt hstep => by
    cases move_of_step hstep with
    | forest hmove => exact hmove.prompt hprompt
    | «return» _ _ => exact hprompt

/-- A task that was there before is in its group still, and if it runs it has run before. -/
theorem Move.ran (hmove : Move s e t) {n : Nat} {entry : Entry} (hn : n < s.forest.tasks.length)
    (hentry : t.forest.tasks[n]? = some entry) :
    ∃ before, s.forest.tasks[n]? = some before ∧ before.group = entry.group ∧
      (entry.running = true → before.running = true) := by
  have hbefore := List.getElem?_eq_getElem hn
  cases hmove with
  | forest hmove =>
      obtain ⟨later, hlater, hgroup, hran⟩ := hmove.keeps hbefore
      obtain rfl : later = entry := Option.some.inj (hlater.symm.trans hentry)
      exact ⟨_, hbefore, hgroup.symm, hran⟩
  | «return» _ _ => exact ⟨entry, hentry, rfl, id⟩

theorem Move.tasks_le (hmove : Move s e t) : s.forest.tasks.length ≤ t.forest.tasks.length := by
  cases hmove with
  | forest hmove => exact hmove.tasks_le
  | «return» _ _ => exact Nat.le_refl _

theorem tasks_le_of_run (hrun : Run step s log t) :
    s.forest.tasks.length ≤ t.forest.tasks.length :=
  hrun.invariant (P := fun t => s.forest.tasks.length ≤ t.forest.tasks.length) (Nat.le_refl _)
    fun hle hstep => Nat.le_trans hle (move_of_step hstep).tasks_le

theorem LetGo.of_idle (hidle : t.forest.running group = 0) (hτ : τ ∈ σ :: late)
    (htarget : τ.target = t) : LetGo σ late t group where
  idle := ⟨τ, hτ, htarget ▸ hidle⟩
  ended _ entry _ hentry hgroup :=
    Forest.running_eq_zero_iff.1 hidle entry (List.mem_of_getElem? hentry) hgroup

theorem LetGo.step (h : LetGo σ late s group) (hmove : Move s e t)
    (hlength : σ.source.forest.tasks.length ≤ s.forest.tasks.length) :
    LetGo σ (late ++ [⟨s, e, acts, t⟩]) t group where
  idle := by
    obtain ⟨τ, hτ, hidle⟩ := h.idle
    exact ⟨τ, List.mem_append_left [_] hτ, hidle⟩
  ended n entry hn hentry hgroup := by
    obtain ⟨before, hbefore, hsame, hran⟩ := hmove.ran (Nat.lt_of_lt_of_le hn hlength) hentry
    have hended := h.ended n before hn hbefore (hsame.trans hgroup)
    exact Bool.eq_false_iff.2 fun hrunning => by simp [hran hrunning] at hended

/-- What has ended stays so. -/
theorem LetGo.run (h : LetGo σ late s group) (hrun : Run Callers.step s log t)
    (hlength : σ.source.forest.tasks.length ≤ s.forest.tasks.length) :
    LetGo σ (late ++ log) t group := by
  induction hrun with
  | nil => rwa [List.append_nil]
  | snoc hrun hstep ih =>
      rw [← List.append_assoc]
      exact ih.step (move_of_step hstep) (Nat.le_trans hlength (tasks_le_of_run hrun))

/-- A call that is let go by a step is so because no task of its group runs then. -/
theorem Move.idle (hmove : Move s e t) (hwait : t.forest.waits[call]? = some w)
    (hreleased : w.released = true) (hbefore : s.forest.isReleased call = false) :
    t.forest.running w.group = 0 := by
  cases hmove with
  | forest hmove => exact hmove.idle hwait hreleased hbefore
  | «return» _ _ => simp [Forest.isReleased, show s.forest.waits[call]? = some w from hwait,
      hreleased] at hbefore

theorem Move.waits (hmove : Move s e t) (acts : List Act)
    (hwait : t.forest.waits[call]? = some w) :
    (∃ before, s.forest.waits[call]? = some before ∧ before.group = w.group) ∨
      Begins ⟨s, e, acts, t⟩ call w.group := by
  cases hmove with
  | @forest e f hmove =>
      refine (hmove.waits hwait).imp_right ?_
      rintro ⟨rfl, hawaits⟩
      refine ⟨?_, rfl⟩
      cases e with
      | wait g => exact .inl (Option.some.inj hawaits ▸ rfl)
      | shutdown g => exact .inr (Option.some.inj hawaits ▸ rfl)
      | _ => cases hawaits
  | «return» _ _ => exact .inl ⟨w, hwait, rfl⟩

theorem Move.awaits (hmove : Move s e t) (hawaits : s.forest.Awaits call group) :
    t.forest.Awaits call group := by
  cases hmove with
  | forest hmove => exact hmove.awaits hawaits
  | «return» _ _ => exact hawaits

theorem awaits_of_begins (hbegins : Begins σ call group)
    (hfirst : step σ.source σ.event = some (σ.target, σ.acts)) (hrun : Run step σ.target log s) :
    s.forest.Awaits call group := by
  have hbegun : σ.target.forest.Awaits call group := by
    obtain ⟨source, event, acts, target⟩ := σ
    have hmove : Move source event target := move_of_step hfirst
    rcases hbegins with ⟨rfl | rfl, rfl⟩ <;> cases hmove with
    | forest hmove =>
        cases hmove
        exact ⟨_, List.getElem?_concat_length, rfl⟩
  exact hrun.invariant (P := fun s => s.forest.Awaits call group) hbegun
    fun hawaits hstep => (move_of_step hstep).awaits hawaits

/-- A call that has been let go was so since it began. -/
theorem letGo_of_run (hbegins : Begins σ call group)
    (hfirst : step σ.source σ.event = some (σ.target, σ.acts)) (hrun : Run step σ.target late s)
    (hreleased : s.forest.isReleased call = true) : LetGo σ late s group := by
  induction hrun with
  | nil =>
      obtain ⟨w, hwait, rfl⟩ := awaits_of_begins hbegins hfirst .nil
      have hnone : σ.source.forest.isReleased call = false := by
        rw [← hbegins.2, Forest.isReleased, List.getElem?_eq_none (Nat.le_refl _)]
        rfl
      have hidle := (move_of_step hfirst).idle hwait
        (by simpa [Forest.isReleased, hwait] using hreleased) hnone
      exact .of_idle hidle (List.mem_singleton_self _) rfl
  | @snoc late s t e acts hrun hstep ih =>
      have hmove := move_of_step hstep
      -- The call has been let go before this step, or with it.
      cases hbefore : s.forest.isReleased call with
      | true =>
          exact (ih hbefore).step hmove (tasks_le_of_run ((Run.single hfirst).trans hrun))
      | false =>
          obtain ⟨w, hwait, rfl⟩ := awaits_of_begins hbegins hfirst (hrun.snoc hstep)
          have hidle := hmove.idle hwait (by simpa [Forest.isReleased, hwait] using hreleased) hbefore
          exact .of_idle hidle (List.mem_append_right (σ :: late) (List.mem_singleton_self _)) rfl

theorem begins_of_run (hrun : Run step .empty log s) (hwait : s.forest.waits[call]? = some w) :
    ∃ early σ late, log = early ++ σ :: late ∧ Begins σ call w.group := by
  induction hrun generalizing w with
  | nil => simp [empty, Forest.empty] at hwait
  | @snoc log s t e acts _ hstep ih =>
      rcases (move_of_step hstep).waits acts hwait with ⟨before, hbefore, hgroup⟩ | hbegins
      · obtain ⟨early, σ, late, rfl, hbegan⟩ := ih hbefore
        exact ⟨early, σ, late ++ [⟨s, e, acts, t⟩], by simp, hgroup ▸ hbegan⟩
      · exact ⟨log, ⟨s, e, acts, t⟩, [], rfl, hbegins⟩

theorem settled_iff :
    s.Settled ↔ ∀ call < s.forest.waits.length, s.canReturn call = false := by
  have hstep (call : Nat) : s.step (.return call) = none ↔ s.canReturn call = false := by
    simp [step]
  refine ⟨fun hsettled call _ => (hstep call).1 (hsettled call), fun hnone call => (hstep call).2 ?_⟩
  rcases Nat.lt_or_ge call s.forest.waits.length with hlt | hge
  · exact hnone call hlt
  · simp [canReturn, Forest.isReleased, List.getElem?_eq_none hge]

instance : DecidablePred Settled :=
  fun _ => decidable_of_iff _ settled_iff.symm

theorem mem_returned_of_settled (hrun : Run step .empty log s) (hsettled : s.Settled)
    (hawaits : s.forest.Awaits call group) (hidle : s.forest.running group = 0) :
    call ∈ s.returned := by
  obtain ⟨w, hwait, rfl⟩ := hawaits
  have hreleased := prompt_of_run hrun w (List.mem_of_getElem? hwait) hidle
  have hcannot := settled_iff.1 hsettled call (List.getElem?_eq_some_iff.1 hwait).1
  simpa [canReturn, Forest.isReleased, hwait, hreleased] using hcannot

end

/-- What a run of task groups obeys. -/
structure Law (log : Log) (s : Callers) : Prop where
  /-- The token of a group is cancelled iff it was cancelled itself or one above it was, alone or
  with the group that has it. -/
  cancelled : ∀ group, s.forest.hasGroup group = true →
    (s.forest.isCancelled (s.forest.tokenOf group) = true ↔
      ∃ top, s.forest.Below top (s.forest.tokenOf group) ∧ Hit log top)
  stays : ∀ τ ∈ log, ∀ token, τ.source.forest.isCancelled token = true →
    s.forest.isCancelled token = true
  /-- A step cancels the tokens below the one that it is about, and no other. -/
  reaches : ∀ τ ∈ log, ∀ token < τ.source.forest.tokens.length,
    (τ.target.forest.isCancelled token = true ↔ τ.source.forest.isCancelled token = true ∨
      ∃ top, τ.event.cancels? τ.source = some top ∧ τ.source.forest.Below top token)
  /-- Parents and siblings of a token that is cancelled stay as they are. -/
  spares : ∀ τ ∈ log, ∀ top, τ.event.cancels? τ.source = some top →
    ∀ other < τ.source.forest.tokens.length,
      τ.source.forest.parentOf top = some other ∨
        other ≠ top ∧ τ.source.forest.parentOf other = τ.source.forest.parentOf top →
      τ.target.forest.isCancelled other = τ.source.forest.isCancelled other
  /-- What is running and what has ended is what was started. -/
  counts : ∀ group, s.forest.running group + log.countP (fun τ => τ.event.ends τ.source group) =
    log.countP fun τ => τ.event = .forest (.spawn group)
  waits : ∀ τ ∈ log, ∀ group, τ.event = .forest (.wait group) →
    τ.target.forest.tokens = τ.source.forest.tokens
  /-- A call that returns has begun with a step before, and was let go since. -/
  returns : ∀ pre ρ post call, log = pre ++ ρ :: post → ρ.event = .return call →
    ∃ group early σ late, pre = early ++ σ :: late ∧ Begins σ call group ∧
      LetGo σ late ρ.source group
  settled : s.Settled → ∀ group call, s.forest.Awaits call group → s.forest.running group = 0 →
    call ∈ s.returned

/-- Whatever is started, ended, cancelled and waited for, in whatever order: cancellation goes down
from token to token and nowhere else, the tasks of a group are counted from their start to their end,
and who waits for a group returns only after it was seen without a running task. -/
theorem task_groups_law {log : Log} {s : Callers} (hrun : Run step .empty log s) : Law log s := by
  -- The part of the run in front of a step, the step itself, and the part behind it.
  have hat {τ} (hmem : τ ∈ log) : ∃ pre post, Run step .empty pre τ.source ∧
      Move τ.source τ.event τ.target ∧ Run step τ.source (τ :: post) s := by
    obtain ⟨pre, post, rfl⟩ := List.append_of_mem hmem
    obtain ⟨hpre, hstep, hpost⟩ := hrun.at_step
    exact ⟨pre, post, hpre, move_of_step hstep, (Run.single hstep).trans hpost⟩
  have hreaches : ∀ τ ∈ log, ∀ token < τ.source.forest.tokens.length,
      (τ.target.forest.isCancelled token = true ↔ τ.source.forest.isCancelled token = true ∨
        ∃ top, τ.event.cancels? τ.source = some top ∧ τ.source.forest.Below top token) := by
    intro τ hmem token htoken
    obtain ⟨_, _, hpre, hmove, _⟩ := hat hmem
    exact hmove.turns.isCancelled_iff (sound_of_run hpre) htoken
  constructor
  case cancelled =>
    intro group hgroup
    exact isCancelled_iff hrun ((sound_of_run hrun).tokenOf_lt hgroup)
  case stays =>
    intro τ hmem token hcancelled
    obtain ⟨_, _, hpre, _, hpost⟩ := hat hmem
    exact isCancelled_stays hpost (sound_of_run hpre) hcancelled
  case reaches => exact hreaches
  case spares =>
    intro τ hmem top hcancels other hother hbeside
    obtain ⟨_, _, hpre, _, _⟩ := hat hmem
    have hsound := sound_of_run hpre
    have hapart : ¬τ.source.forest.Below top other := by
      rcases hbeside with hparent | ⟨hne, hsame⟩
      · exact hsound.not_below_parent hparent
      · exact hsound.not_below_sibling hne hsame
    rw [Bool.eq_iff_iff, hreaches τ hmem other hother, hcancels]
    simp [hapart]
  case counts => exact running_of_run hrun
  case waits =>
    rintro ⟨source, event, acts, target⟩ hmem group rfl
    obtain ⟨_, _, _, htaken, _⟩ := hat hmem
    have hmove : Move source (.forest (.wait group)) target := htaken
    cases hmove with
    | forest hmove =>
        cases hmove with
        | wait _ => rfl
  case returns =>
    rintro pre ⟨source, event, acts, target⟩ post call rfl rfl
    obtain ⟨hpre, hstep, _⟩ := hrun.at_step
    have hmove : Move source (.return call) target := move_of_step hstep
    cases hmove with
    | «return» hreleased _ =>
        obtain ⟨w, hwait, _⟩ := (Option.any_eq_true _ _).1 hreleased
        obtain ⟨early, σ, late, rfl, hbegins⟩ := begins_of_run hpre hwait
        obtain ⟨_, hfirst, hlate⟩ := hpre.at_step
        exact ⟨w.group, early, σ, late, rfl, hbegins, letGo_of_run hbegins hfirst hlate hreleased⟩
  case settled => exact fun hsettled group call => mem_returned_of_settled hrun hsettled

/-- A group with a child and a sibling is shut down while a task of it runs, and waited for. The task
ends, another one is started, and only then the two calls return. -/
theorem task_groups_law_late :
    ∃ log s, Run step .empty log s ∧ s.forest.tokens.map (·.cancelled) = [false, true, true, false] ∧
      s.forest.groups = [1, 2, 3] ∧ s.forest.running 0 = 1 ∧ s.returned = [1, 0] ∧ s.Settled ∧
      Law log s := by
  obtain ⟨log, s, hrun, htokens, hgroups, hrunning, hreturned, hsettled⟩ :
      ∃ log s, Run step .empty log s ∧
        s.forest.tokens.map (·.cancelled) = [false, true, true, false] ∧
        s.forest.groups = [1, 2, 3] ∧ s.forest.running 0 = 1 ∧ s.returned = [1, 0] ∧ s.Settled :=
    exists_run_of_replay [.forest (.token none), .forest (.group (some 0)),
      .forest (.group (some 1)), .forest (.group (some 0)), .forest (.spawn 0),
      .forest (.shutdown 0), .forest (.wait 0), .forest (.finish 0), .forest (.spawn 0),
      .return 1, .return 0] (by decide +kernel)
  exact ⟨log, s, hrun, htokens, hgroups, hrunning, hreturned, hsettled, task_groups_law hrun⟩

end Callers

end SessionGateway.Task
