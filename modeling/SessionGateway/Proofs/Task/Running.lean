import SessionGateway.Task.Machine
import SessionGateway.Proofs.Run

/-!
# The running tasks of a group

A task is running from the event that starts it to the one that ends it, whatever is cancelled or
waited for in between. So the number of running tasks of a group moves with these two events alone,
and a call that waits for the group is let go in a state in which the number is zero.
-/

namespace SessionGateway.Task.Forest

inductive Move (f : Forest) : Event → Forest → Prop
  | token {parent : Option Nat} (hparent : parent.all f.hasToken = true) :
      Move f (.token parent) (f.addToken parent)
  | group {parent : Option Nat} (hparent : parent.all f.hasToken = true) :
      Move f (.group parent) (f.addGroup parent)
  | spawn {group : Nat} (hgroup : f.hasGroup group = true) : Move f (.spawn group) (f.spawn group)
  | finish {task : Nat} {entry : Entry} (hentry : f.tasks[task]? = some entry)
      (hrunning : entry.running = true) : Move f (.finish task) (f.finish task)
  | cancelToken {token : Nat} (htoken : f.hasToken token = true) :
      Move f (.cancelToken token) (f.cancelToken token)
  | cancel {group : Nat} (hgroup : f.hasGroup group = true) : Move f (.cancel group) (f.cancel group)
  | wait {group : Nat} (hgroup : f.hasGroup group = true) : Move f (.wait group) (f.wait group)
  | shutdown {group : Nat} (hgroup : f.hasGroup group = true) :
      Move f (.shutdown group) (f.shutdown group)

def Event.ends (f : Forest) (group : Nat) : Event → Bool
  | .finish task => f.tasks[task]?.any (·.group = group)
  | _ => false

def Event.awaits? : Event → Option Nat
  | .wait g | .shutdown g => some g
  | .token _ | .group _ | .spawn _ | .finish _ | .cancelToken _ | .cancel _ => none

/-- Every call that waits for a group without running tasks has been let go. -/
def Prompt (f : Forest) : Prop :=
  ∀ w ∈ f.waits, f.running w.group = 0 → w.released = true

/-- A call waits for a group, or has done so. -/
def Awaits (f : Forest) (call group : Nat) : Prop :=
  ∃ w, f.waits[call]? = some w ∧ w.group = group

section

variable {f t : Forest} {group task call n : Nat} {entry : Entry} {w : Wait} {e : Event}

theorem move_of_next (hnext : f.next? e = some t) : Move f e t := by
  cases e with
  | token parent =>
      obtain ⟨hparent, ⟨⟩⟩ := Option.ite_none_right_eq_some.1 hnext
      exact .token hparent
  | group parent =>
      obtain ⟨hparent, ⟨⟩⟩ := Option.ite_none_right_eq_some.1 hnext
      exact .group hparent
  | spawn group =>
      obtain ⟨hgroup, ⟨⟩⟩ := Option.ite_none_right_eq_some.1 hnext
      exact .spawn hgroup
  | finish task =>
      obtain ⟨htask, ⟨⟩⟩ := Option.ite_none_right_eq_some.1 hnext
      obtain ⟨entry, hentry, hrunning⟩ := (Option.any_eq_true _ _).1 htask
      exact .finish hentry hrunning
  | cancelToken token =>
      obtain ⟨htoken, ⟨⟩⟩ := Option.ite_none_right_eq_some.1 hnext
      exact .cancelToken htoken
  | cancel group =>
      obtain ⟨hgroup, ⟨⟩⟩ := Option.ite_none_right_eq_some.1 hnext
      exact .cancel hgroup
  | wait group =>
      obtain ⟨hgroup, ⟨⟩⟩ := Option.ite_none_right_eq_some.1 hnext
      exact .wait hgroup
  | shutdown group =>
      obtain ⟨hgroup, ⟨⟩⟩ := Option.ite_none_right_eq_some.1 hnext
      exact .shutdown hgroup

/-! ## What each event does to the tasks -/

theorem running_eq_zero_iff :
    f.running group = 0 ↔ ∀ entry ∈ f.tasks, entry.group = group → entry.running = false := by
  simp [running, List.countP_eq_zero]

@[simp] theorem tasks_release : (f.release group).tasks = f.tasks := by
  unfold release
  split <;> rfl

theorem running_release {other : Nat} : (f.release other).running group = f.running group := by
  rw [running, tasks_release, running]

theorem finish_eq (hentry : f.tasks[task]? = some entry) :
    f.finish task =
      { f with tasks := f.tasks.set task { entry with running := false } }.release entry.group := by
  rw [finish, hentry]

theorem tasks_finish (hentry : f.tasks[task]? = some entry) :
    (f.finish task).tasks = f.tasks.set task { entry with running := false } := by
  simp [finish, hentry]

/-- A task more is running, whether or not its group is cancelled or waited for. -/
theorem running_spawn : (f.spawn group).running group = f.running group + 1 := by
  simp [running, spawn]

/-- A task that ends is one less of its group, and the other groups keep theirs. -/
theorem running_finish (group : Nat) (hentry : f.tasks[task]? = some entry)
    (hrunning : entry.running = true) : f.running group =
      (f.finish task).running group + (decide (entry.group = group)).toNat := by
  obtain ⟨hlt, rfl⟩ := List.getElem?_eq_some_iff.1 hentry
  have hcount : (f.finish task).running group = (f.running group -
      if f.tasks[task].group = group ∧ f.tasks[task].running then 1 else 0) := by
    rw [running, tasks_finish hentry, List.countP_set hlt]
    simp [running]
  by_cases hgroup : f.tasks[task].group = group
  · have hpos : 0 < f.running group :=
      List.countP_pos_iff.2 ⟨_, List.getElem_mem hlt, by simp [hgroup, hrunning]⟩
    rw [hcount, if_pos ⟨hgroup, hrunning⟩, decide_eq_true hgroup, Bool.toNat_true]
    omega
  · rw [hcount, if_neg fun h => hgroup h.1, decide_eq_false hgroup]
    rfl

/-- What runs after an event and what ends with it is what ran before and what starts with it. -/
theorem Move.running_balance (hmove : Move f e t) (group : Nat) :
    t.running group + (e.ends f group).toNat =
      f.running group + (decide (e = .spawn group)).toNat := by
  cases hmove with
  | @spawn other _ =>
      by_cases hother : other = group
      · subst hother
        simp [running_spawn, Event.ends]
      · simp [running, Forest.spawn, Event.ends, hother]
  | finish hentry hrunning =>
      rw [running_finish group hentry hrunning]
      simp [Event.ends, hentry]
  | _ => rfl

theorem Move.tasks_le (hmove : Move f e t) : f.tasks.length ≤ t.tasks.length := by
  cases hmove with
  | spawn _ => simp [Forest.spawn]
  | finish hentry _ => simp [tasks_finish hentry]
  | _ => exact Nat.le_refl _

/-- A task stays in its group, and if it runs later it has run all the time. -/
theorem Move.keeps (hmove : Move f e t) (hentry : f.tasks[n]? = some entry) :
    ∃ later, t.tasks[n]? = some later ∧ later.group = entry.group ∧
      (later.running = true → entry.running = true) := by
  cases hmove with
  | spawn _ =>
      have hlt := (List.getElem?_eq_some_iff.1 hentry).1
      exact ⟨entry, by rw [Forest.spawn, List.getElem?_append_left hlt, hentry], rfl, id⟩
  | @finish task other hother _ =>
      rw [tasks_finish hother]
      by_cases htask : task = n
      · subst htask
        obtain rfl : other = entry := Option.some.inj (hother.symm.trans hentry)
        have hlt := (List.getElem?_eq_some_iff.1 hentry).1
        exact ⟨_, List.getElem?_set_self hlt, rfl, by simp⟩
      · exact ⟨entry, by rw [List.getElem?_set_ne htask, hentry], rfl, id⟩
  | _ => exact ⟨entry, hentry, rfl, id⟩

/-! ## What each event does to the calls that wait -/

/-- The calls that wait for the group are let go if it has no running task, and nothing else becomes
of any call. -/
theorem getElem?_release : (f.release group).waits[call]? = f.waits[call]?.map fun w =>
    { w with released := w.released || decide (w.group = group ∧ f.running group = 0) } := by
  unfold release
  by_cases hidle : f.running group = 0
  · rw [if_pos hidle, List.getElem?_map]
    congr 1
    funext w
    by_cases hgroup : w.group = group <;> simp [hgroup, hidle]
  · simp [hidle]

theorem waits_release (hwait : (f.release group).waits[call]? = some w) :
    f.waits[call]? = some w ∨ w.group = group ∧ f.running group = 0 := by
  rw [getElem?_release] at hwait
  obtain ⟨before, hbefore, rfl⟩ := Option.map_eq_some_iff.1 hwait
  by_cases hidle : before.group = group ∧ f.running group = 0
  · exact .inr hidle
  · exact .inl (by simp [hbefore, hidle])

theorem waits_wait (hwait : (f.wait group).waits[call]? = some w) :
    f.waits[call]? = some w ∨ call = f.waits.length ∧ w = ⟨group, f.running group = 0⟩ := by
  rw [wait, List.getElem?_append] at hwait
  split at hwait
  · exact .inl hwait
  · rename_i hge
    rw [List.getElem?_singleton] at hwait
    obtain ⟨hlast, ⟨⟩⟩ := Option.ite_none_right_eq_some.1 hwait
    exact .inr ⟨by omega, rfl⟩

/-- A call goes on waiting for its group, or begins to. -/
theorem Move.waits (hmove : Move f e t) (hwait : t.waits[call]? = some w) :
    (∃ before, f.waits[call]? = some before ∧ before.group = w.group) ∨
      call = f.waits.length ∧ e.awaits? = some w.group := by
  cases hmove with
  | finish hentry _ =>
      rw [finish_eq hentry, getElem?_release] at hwait
      obtain ⟨before, hbefore, rfl⟩ := Option.map_eq_some_iff.1 hwait
      exact .inl ⟨before, hbefore, rfl⟩
  | wait _ | shutdown _ =>
      rcases waits_wait hwait with hold | ⟨hlast, rfl⟩
      · exact .inl ⟨w, hold, rfl⟩
      · exact .inr ⟨hlast, rfl⟩
  | _ => exact .inl ⟨w, hwait, rfl⟩

theorem Move.awaits (hmove : Move f e t) (hawaits : f.Awaits call group) : t.Awaits call group := by
  obtain ⟨w, hwait, rfl⟩ := hawaits
  have hlt := (List.getElem?_eq_some_iff.1 hwait).1
  cases hmove with
  | finish hentry _ =>
      rw [finish_eq hentry]
      exact ⟨_, getElem?_release.trans (congrArg (Option.map _) hwait), rfl⟩
  | wait _ | shutdown _ => exact ⟨w, (List.getElem?_append_left hlt).trans hwait, rfl⟩
  | _ => exact ⟨w, hwait, rfl⟩

theorem prompt_empty : empty.Prompt := fun _ hmem => absurd hmem List.not_mem_nil

theorem Move.prompt (hmove : Move f e t) (hprompt : f.Prompt) : t.Prompt := by
  intro w hmem hidle
  cases hmove with
  | @spawn group _ =>
      have hbefore : f.running w.group ≤ (f.spawn group).running w.group := by
        simp [running, Forest.spawn]
      exact hprompt w hmem (Nat.eq_zero_of_le_zero (hidle ▸ hbefore))
  | @finish task entry hentry hrunning =>
      have hcount := running_finish w.group hentry hrunning
      rw [hidle, Nat.zero_add] at hcount
      obtain ⟨call, hwait⟩ := List.mem_iff_getElem?.1 hmem
      rw [finish_eq hentry, getElem?_release] at hwait
      obtain ⟨before, hbefore, rfl⟩ := Option.map_eq_some_iff.1 hwait
      by_cases hgroup : before.group = entry.group
      · -- The group of the task that ends: nothing of it runs any more, so the call is let go.
        rw [finish_eq hentry, running_release] at hidle
        exact Bool.or_eq_true_iff.2 (.inr (decide_eq_true ⟨hgroup, hgroup ▸ hidle⟩))
      · rw [decide_eq_false (Ne.symm hgroup)] at hcount
        simp [hprompt before (List.mem_of_getElem? hbefore) hcount]
  | wait _ | shutdown _ =>
      rcases List.mem_append.1 (show w ∈ f.waits ++ [_] from hmem) with hold | hnew
      · exact hprompt w hold hidle
      · obtain rfl := List.mem_singleton.1 hnew
        exact decide_eq_true hidle
  | _ => exact hprompt w hmem hidle

/-- A call that is let go is so in a state in which its group has no running task. -/
theorem Move.idle (hmove : Move f e t) (hwait : t.waits[call]? = some w) (hreleased : w.released = true)
    (hbefore : f.isReleased call = false) : t.running w.group = 0 := by
  have hother : f.waits[call]? ≠ some w := by
    intro h
    simp [isReleased, h, hreleased] at hbefore
  cases hmove with
  | @finish task entry hentry _ =>
      rw [finish_eq hentry] at hwait ⊢
      obtain ⟨hgroup, hidle⟩ := (waits_release hwait).resolve_left hother
      rw [hgroup, running_release]
      exact hidle
  | wait _ | shutdown _ =>
      obtain ⟨_, rfl⟩ := (waits_wait hwait).resolve_left hother
      exact of_decide_eq_true hreleased
  | _ => exact absurd hwait hother

end

end SessionGateway.Task.Forest
