import SessionGateway.Proofs.Channel.Tasks
import SessionGateway.Simulation.Script

/-!
# Scripted tables

Whatever a script says, its table is orderly and lawful: scripted callbacks start tasks, answer,
close the channel and fail, and do nothing else.
-/

namespace SessionGateway.Simulation.Script

open Channel

namespace Callback

variable (c : Callback) (ctx : Context) (p : Pending) (s : Scratch)

theorem act_grows : s.Grows (c.act s) := by
  have hidle : s.Grows (if c.spawnsIdle then s.spawn (.idle c.label) else s) := by
    split
    · exact .spawn s _
    · exact .refl s
  have hbrief : ∀ u : Scratch, u.Grows (if c.spawnsBrief then u.spawn (.brief c.label true) else u) := by
    intro u
    split
    · exact .spawn u _
    · exact .refl u
  have hclose : ∀ u : Scratch, u.Grows (if c.closes then u.close else u) := by
    intro u
    split
    · exact .close u
    · exact .refl u
  exact (hidle.trans (hbrief _)).trans (hclose _)

theorem onRequest_same :
    (c.onRequest ctx p s).1.name = p.name ∧ (c.onRequest ctx p s).1.request = p.request := by
  unfold onRequest
  cases c.reply <;> exact ⟨rfl, rfl⟩

end Callback

theorem foldl_onStart (t : Table) (callbacks : List Callback) :
    callbacks.foldl (fun t c => t.onStart c.label c.onStart) t =
      { t with startup := t.startup ++ callbacks.map fun c => ⟨some c.label, c.onStart⟩ } := by
  induction callbacks generalizing t with
  | nil => simp
  | cons c rest ih =>
      rw [List.foldl_cons, ih]
      simp [Table.onStart]

theorem foldl_on (t : Table) (callbacks : List (RequestKind × Callback)) :
    callbacks.foldl (fun t (kind, c) => t.on kind c.label c.onRequest) t =
      { t with callbacks := t.callbacks ++
          callbacks.map fun (kind, c) => (kind, ⟨some c.label, c.onRequest⟩) } := by
  induction callbacks generalizing t with
  | nil => simp
  | cons c rest ih =>
      rw [List.foldl_cons, ih]
      simp [Table.on]

theorem foldl_observing (t : Table) (callbacks : List Callback) :
    callbacks.foldl (fun t c => t.observing c.label c.onRequest) t =
      { t with observers := t.observers ++ callbacks.map fun c => ⟨some c.label, c.onRequest⟩ } := by
  induction callbacks generalizing t with
  | nil => simp
  | cons c rest ih =>
      rw [List.foldl_cons, ih]
      simp [Table.observing]

/-- The table of a script, part by part. -/
theorem table_eq (script : Script) :
    script.table =
      { startup := script.startup.map fun c => ⟨some c.label, c.onStart⟩
        callbacks := script.callbacks.map fun (kind, c) => (kind, ⟨some c.label, c.onRequest⟩)
        fallback := match script.fallback with
          | some c => ⟨some c.label, c.onRequest⟩
          | none => ⟨none, refuse⟩
        observers := script.observers.map fun c => ⟨some c.label, c.onRequest⟩ } := by
  rw [table]
  simp only [foldl_onStart, foldl_on, foldl_observing]
  cases script.fallback <;> simp [Table.empty, Table.otherwise]

/-- What runs for a request is a scripted callback or the refusal. -/
theorem run_of_mem_handlers {script : Script} {kind : RequestKind}
    {callback : Labelled RequestCallback} (h : callback ∈ script.table.handlers kind) :
    callback.run = refuse ∨ ∃ c : Callback, callback.run = c.onRequest := by
  rw [table_eq] at h
  simp only [Table.handlers, List.mem_append] at h
  rcases h with h | h
  · -- The fallback runs if nothing is registered for the kind.
    split at h
    · rw [List.mem_singleton] at h
      subst h
      cases script.fallback with
      | none => exact .inl rfl
      | some c => exact .inr ⟨c, rfl⟩
    · simp only [Table.registered, List.mem_map, List.mem_filter] at h
      obtain ⟨_, ⟨⟨⟨kind, c⟩, _, rfl⟩, _⟩, rfl⟩ := h
      exact .inr ⟨c, rfl⟩
  · obtain ⟨c, _, rfl⟩ := List.mem_map.1 h
    exact .inr ⟨c, rfl⟩

theorem table_orderly (script : Script) : script.table.Orderly where
  startup callback hmem ctx s := by
    rw [table_eq] at hmem
    obtain ⟨c, _, rfl⟩ := List.mem_map.1 hmem
    exact c.act_grows s
  handlers kind callback hmem ctx p s := by
    rcases run_of_mem_handlers hmem with hrun | ⟨c, hrun⟩
    · rw [hrun]
      exact .refl s
    · rw [hrun]
      exact c.act_grows s

theorem table_lawful (script : Script) : script.table.Lawful where
  toLasting := script.table_orderly.lasting
  same kind callback hmem ctx p s := by
    rcases run_of_mem_handlers hmem with hrun | ⟨c, hrun⟩
    · rw [hrun]
      exact ⟨rfl, rfl⟩
    · rw [hrun]
      exact c.onRequest_same ctx p s

end SessionGateway.Simulation.Script
