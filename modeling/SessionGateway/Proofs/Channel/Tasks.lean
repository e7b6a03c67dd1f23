import SessionGateway.Channel.Session
import SessionGateway.Proofs.Channel.Steps

/-!
# The tasks of a channel

Callbacks of an orderly table start tasks and cancel tokens, and leave the tasks that are there
alone. They ask nothing of the cluster or of the byte stream themselves; only the tasks do. The
tables of sessions and of forwards are orderly.
-/

namespace SessionGateway.Channel

/-- Whether an act asks something of the cluster or of the byte stream. -/
def Act.isCall : Act → Bool
  | .exec _ _ | .forward _ _ | .write _ _ | .closeStream => true
  | _ => false

/-- Whether an act only tells what has become of a request or of a callback. -/
def Act.isReport : Act → Bool
  | .started _ _ _ | .invoked _ _ _ _ | .answer _ _ | .forgo _ | .warn _ => true
  | _ => false

theorem Act.isCall_of_isReport {a : Act} (h : a.isReport = true) : a.isCall = false := by
  cases a <;> simp_all [isReport, isCall]

/-! ## Tables that only start tasks -/

/-- The second state comes from the first by starting tasks and cancelling tokens. -/
structure Scratch.Grows (s t : Scratch) : Prop where
  works : ∃ jobs : List Job, t.works = s.works ++ jobs.map fun job => ⟨job, .ready⟩
  closed : s.closed = true → t.closed = true
  stopped : s.stopped = true → t.stopped = true
  stopped_of_closed : (s.closed = true → s.stopped = true) → t.closed = true → t.stopped = true

namespace Scratch.Grows

variable {s t u : Scratch}

theorem of_same (hworks : t.works = s.works) (hclosed : t.closed = s.closed)
    (hstopped : t.stopped = s.stopped) : s.Grows t where
  works := ⟨[], by simp [hworks]⟩
  closed := by simp [hclosed]
  stopped := by simp [hstopped]
  stopped_of_closed := by simp [hclosed, hstopped]

theorem refl (s : Scratch) : s.Grows s :=
  of_same rfl rfl rfl

theorem trans (hst : s.Grows t) (htu : t.Grows u) : s.Grows u where
  works := by
    obtain ⟨first, hfirst⟩ := hst.works
    obtain ⟨second, hsecond⟩ := htu.works
    exact ⟨first ++ second, by simp [hsecond, hfirst]⟩
  closed h := htu.closed (hst.closed h)
  stopped h := htu.stopped (hst.stopped h)
  stopped_of_closed h := htu.stopped_of_closed (hst.stopped_of_closed h)

theorem close (s : Scratch) : s.Grows s.close where
  works := ⟨[], by simp [Scratch.close]⟩
  closed _ := rfl
  stopped _ := rfl
  stopped_of_closed _ _ := rfl

theorem spawn (s : Scratch) (job : Job) : s.Grows (s.spawn job) where
  works := ⟨[job], rfl⟩
  closed h := h
  stopped h := h
  stopped_of_closed h := h

end Scratch.Grows

/-- A table whose callbacks only start tasks and cancel tokens. -/
structure Table.Orderly (t : Table) : Prop where
  startup : ∀ callback ∈ t.startup, ∀ ctx (s : Scratch), s.Grows (callback.run ctx s).1
  handlers : ∀ kind, ∀ callback ∈ t.handlers kind, ∀ ctx p (s : Scratch),
    s.Grows (callback.run ctx p s).2.1

/-- A table whose callbacks take no cancellation of the channel's token back. -/
structure Table.Lasting (t : Table) : Prop where
  startup : ∀ callback ∈ t.startup, ∀ ctx (s : Scratch), s.closed = true →
    (callback.run ctx s).1.closed = true
  handlers : ∀ kind, ∀ callback ∈ t.handlers kind, ∀ ctx p (s : Scratch), s.closed = true →
    (callback.run ctx p s).2.1.closed = true

/-- A table whose callbacks take no cancellation back and leave a request what it is: they can only
answer it. -/
structure Table.Lawful (t : Table) : Prop extends t.Lasting where
  same : ∀ kind, ∀ callback ∈ t.handlers kind, ∀ ctx p (s : Scratch),
    (callback.run ctx p s).1.name = p.name ∧ (callback.run ctx p s).1.request = p.request

namespace Table

variable {ctx : Context} {s : Scratch}

theorem Orderly.lasting {t : Table} (h : t.Orderly) : t.Lasting where
  startup callback hmem ctx s := (h.startup callback hmem ctx s).closed
  handlers kind callback hmem ctx p s := (h.handlers kind callback hmem ctx p s).closed

theorem runStartup_closed {callbacks : List (Labelled StartupCallback)}
    (h : ∀ callback ∈ callbacks, ∀ ctx (s : Scratch), s.closed = true →
      (callback.run ctx s).1.closed = true) (hclosed : s.closed = true) :
    (runStartup ctx callbacks s).1.closed = true := by
  induction callbacks generalizing s with
  | nil => exact hclosed
  | cons callback rest ih =>
      have hfirst := h callback (by simp) ctx s hclosed
      simp only [runStartup]
      split
      · rename_i t hrun
        rw [hrun] at hfirst
        exact ih (fun c hc => h c (by simp [hc])) hfirst
      · rfl

theorem runCallbacks_closed {n : Nat} {p : Pending} {callbacks : List (Labelled RequestCallback)}
    (h : ∀ callback ∈ callbacks, ∀ ctx p (s : Scratch), s.closed = true →
      (callback.run ctx p s).2.1.closed = true) (hclosed : s.closed = true) :
    (runCallbacks ctx n callbacks p s).2.1.closed = true := by
  induction callbacks generalizing p s with
  | nil => exact hclosed
  | cons callback rest ih =>
      exact ih (fun c hc => h c (by simp [hc])) (h callback (by simp) ctx p s hclosed)

theorem runStartup_grows {callbacks : List (Labelled StartupCallback)}
    (h : ∀ callback ∈ callbacks, ∀ ctx (s : Scratch), s.Grows (callback.run ctx s).1) :
    s.Grows (runStartup ctx callbacks s).1 := by
  induction callbacks generalizing s with
  | nil => exact .refl s
  | cons callback rest ih =>
      have hfirst := h callback (by simp) ctx s
      simp only [runStartup]
      split
      · rename_i t hrun
        rw [hrun] at hfirst
        exact hfirst.trans (ih fun c hc => h c (by simp [hc]))
      · rename_i t e hrun
        rw [hrun] at hfirst
        exact hfirst.trans (.close t)

theorem runCallbacks_grows {n : Nat} {p : Pending} {callbacks : List (Labelled RequestCallback)}
    (h : ∀ callback ∈ callbacks, ∀ ctx p (s : Scratch), s.Grows (callback.run ctx p s).2.1) :
    s.Grows (runCallbacks ctx n callbacks p s).2.1 := by
  induction callbacks generalizing p s with
  | nil => exact .refl s
  | cons callback rest ih =>
      have hrest : ∀ c ∈ rest, ∀ ctx p (s : Scratch), s.Grows (c.run ctx p s).2.1 :=
        fun c hc => h c (by simp [hc])
      exact (h callback (by simp) ctx p s).trans (ih hrest)

theorem Orderly.dispatch_grows {t : Table} (h : t.Orderly) (n : Nat) (raw : ChannelRequest) :
    s.Grows (t.dispatch ctx n raw s).1 := by
  simp only [dispatch]
  split
  · exact .refl s
  · exact runCallbacks_grows (h.handlers _)

theorem runStartup_isReport {callbacks : List (Labelled StartupCallback)} :
    ∀ a ∈ (runStartup ctx callbacks s).2, a.isReport = true := by
  induction callbacks generalizing s with
  | nil => simp [runStartup]
  | cons callback rest ih =>
      simp only [runStartup]
      split
      · simpa [Act.isReport] using ih
      · simp [Act.isReport]

theorem answered_isReport {n : Nat} {before after : ReplySlot} :
    ∀ a ∈ answered n before after, a.isReport = true := by
  unfold answered
  split <;> simp [Act.isReport]

theorem runCallbacks_isReport {n : Nat} {p : Pending}
    {callbacks : List (Labelled RequestCallback)} :
    ∀ a ∈ (runCallbacks ctx n callbacks p s).2.2, a.isReport = true := by
  induction callbacks generalizing p s with
  | nil => simp [runCallbacks]
  | cons callback rest ih =>
      intro a ha
      simp only [runCallbacks, List.mem_cons, List.mem_append, List.mem_map] at ha
      rcases ha with ((rfl | ha) | ⟨e, _, rfl⟩) | ha
      · rfl
      · exact answered_isReport a ha
      · rfl
      · exact ih a ha

theorem dispatch_isReport {t : Table} {n : Nat} {raw : ChannelRequest} :
    ∀ a ∈ (t.dispatch ctx n raw s).2, a.isReport = true := by
  intro a ha
  simp only [dispatch] at ha
  split at ha
  · split at ha <;> simp at ha
    · rcases ha with rfl | rfl <;> rfl
    · subst ha; rfl
  · rw [List.mem_append] at ha
    rcases ha with ha | ha
    · exact runCallbacks_isReport a ha
    · simp only [destroyed] at ha
      split at ha <;> simp at ha
      subst ha; rfl

theorem runStartup_isCall {callbacks : List (Labelled StartupCallback)} :
    ∀ a ∈ (runStartup ctx callbacks s).2, a.isCall = false :=
  fun a ha => Act.isCall_of_isReport (runStartup_isReport a ha)

/-- Handling a request asks nothing of the cluster or of the byte stream; only tasks do. -/
theorem dispatch_isCall {t : Table} {n : Nat} {raw : ChannelRequest} :
    ∀ a ∈ (t.dispatch ctx n raw s).2, a.isCall = false :=
  fun a ha => Act.isCall_of_isReport (dispatch_isReport a ha)

end Table

theorem Handler.forgoFrom_isReport {n : Nat} {requests : List ChannelRequest} :
    ∀ a ∈ Handler.forgoFrom n requests, a.isReport = true := by
  induction requests generalizing n with
  | nil => simp [forgoFrom]
  | cons r rest ih =>
      simp only [forgoFrom]
      split
      · simpa [Act.isReport] using ih
      · exact ih

theorem Handler.forgoFrom_isCall {n : Nat} {requests : List ChannelRequest} :
    ∀ a ∈ Handler.forgoFrom n requests, a.isCall = false :=
  fun a ha => Act.isCall_of_isReport (forgoFrom_isReport a ha)

theorem Handler.warnings_isReport (outcome : Except Cause Unit) :
    (∀ a ∈ Handler.execWarning outcome, a.isReport = true) ∧
      ∀ a ∈ Handler.forwardWarning outcome, a.isReport = true := by
  cases outcome <;> simp [Handler.execWarning, Handler.forwardWarning, Act.isReport]

/-! ## The tables of sessions and forwards -/

namespace Session

def handlerFor : RequestKind → Labelled RequestCallback
  | .shell => ⟨some "shell", onShell⟩
  | .pty => ⟨some "terminal", onPty⟩
  | .windowChange => ⟨some "resize", onWindowChange⟩
  | .subsystem => ⟨some "subsystem", onSubsystem⟩
  | .other => ⟨none, refuse⟩

theorem handlers_table (kind : RequestKind) :
    table.handlers kind = [handlerFor kind, ⟨some "record", observe⟩] := by
  cases kind <;> rfl

variable (ctx : Context) (p : Pending) (s : Scratch)

theorem start_grows (command : List String) (tty interactive : Bool) :
    s.Grows (start ctx s command tty interactive) := by
  have hmark : s.Grows { s with commandStarted := true } := .of_same rfl rfl rfl
  exact hmark.trans (.spawn _ _)

theorem onPty_grows : s.Grows (onPty ctx p s).2.1 := by
  unfold onPty
  split
  · simp only
    split <;> exact .of_same rfl rfl rfl
  · exact .refl s

theorem onWindowChange_grows : s.Grows (onWindowChange ctx p s).2.1 := by
  unfold onWindowChange
  split
  · split
    · exact .refl s
    · split <;> exact .of_same rfl rfl rfl
  · exact .refl s

theorem onShell_grows : s.Grows (onShell ctx p s).2.1 := by
  unfold onShell
  split
  · exact .refl s
  · exact start_grows ctx s _ _ _

theorem onSubsystem_grows : s.Grows (onSubsystem ctx p s).2.1 := by
  unfold onSubsystem
  split
  · split
    · exact .refl s
    · split
      · exact .refl s
      · exact start_grows ctx s _ _ _
  · exact .refl s

theorem handlerFor_grows (kind : RequestKind) :
    s.Grows ((handlerFor kind).run ctx p s).2.1 := by
  cases kind with
  | shell => exact onShell_grows ctx p s
  | pty => exact onPty_grows ctx p s
  | windowChange => exact onWindowChange_grows ctx p s
  | subsystem => exact onSubsystem_grows ctx p s
  | other => exact .refl s

theorem table_orderly : table.Orderly where
  startup := by simp [table, Table.empty, Table.on, Table.observing]
  handlers kind callback hmem ctx p s := by
    simp only [handlers_table, List.mem_cons, List.not_mem_nil, or_false] at hmem
    rcases hmem with rfl | rfl
    · exact handlerFor_grows ctx p s kind
    · exact .refl s

theorem handlerFor_same (kind : RequestKind) :
    ((handlerFor kind).run ctx p s).1.name = p.name ∧
      ((handlerFor kind).run ctx p s).1.request = p.request := by
  cases kind with
  | shell =>
      simp only [handlerFor, onShell]
      split <;> exact ⟨rfl, rfl⟩
  | pty =>
      simp only [handlerFor, onPty]
      split
      · split <;> exact ⟨rfl, rfl⟩
      · exact ⟨rfl, rfl⟩
  | windowChange =>
      simp only [handlerFor, onWindowChange]
      repeat' split
      all_goals exact ⟨rfl, rfl⟩
  | subsystem =>
      simp only [handlerFor, onSubsystem]
      repeat' split
      all_goals exact ⟨rfl, rfl⟩
  | other => exact ⟨rfl, rfl⟩

theorem table_lawful : table.Lawful where
  toLasting := table_orderly.lasting
  same kind callback hmem ctx p s := by
    simp only [handlers_table, List.mem_cons, List.not_mem_nil, or_false] at hmem
    rcases hmem with rfl | rfl
    · exact handlerFor_same ctx p s kind
    · exact ⟨rfl, rfl⟩

end Session

namespace Forward

theorem handlers_table (kind : RequestKind) :
    table.handlers kind = [⟨none, refuse⟩, ⟨some "record", observe⟩] := by
  cases kind <;> rfl

theorem table_orderly : table.Orderly where
  startup callback hmem ctx s := by
    obtain rfl : callback = ⟨some "forward", onStart⟩ := List.mem_singleton.1 hmem
    simp only [onStart]
    split
    · exact .spawn s _
    · exact .close s
  handlers kind callback hmem ctx p s := by
    simp only [handlers_table, List.mem_cons, List.not_mem_nil, or_false] at hmem
    rcases hmem with rfl | rfl <;> exact .refl s

theorem table_lawful : table.Lawful where
  toLasting := table_orderly.lasting
  same kind callback hmem ctx p s := by
    simp only [handlers_table, List.mem_cons, List.not_mem_nil, or_false] at hmem
    rcases hmem with rfl | rfl <;> exact ⟨rfl, rfl⟩

end Forward

end SessionGateway.Channel
