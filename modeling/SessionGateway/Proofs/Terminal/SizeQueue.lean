import SessionGateway.Terminal.SizeQueue

/-!
# The queue of sizes as a list

What consumers take comes off the front of the pending sizes, and what is filled in goes to their
end while there is room. Consumers that begin to wait or give up change nothing that is pending.
-/

namespace SessionGateway.Terminal

theorem saturate_toNat (count : UInt32) : (saturate count).toNat = min count.toNat 65535 := by
  unfold saturate
  have hsize : UInt16.size = 65536 := rfl
  split
  · rename_i hsmall
    rw [UInt16.toNat_ofNat', Nat.mod_eq_of_lt hsmall]
    omega
  · rename_i hlarge
    have hcut : (65535 : UInt16).toNat = 65535 := rfl
    rw [hcut]
    omega

namespace SizeQueue

/-- The second queue is what is left of the first once something has been taken from it. -/
structure Gives (q : SizeQueue) (size : Option Size) (rest : SizeQueue) : Prop where
  pending : q.pending = size.toList ++ rest.pending
  capacity : rest.capacity = q.capacity
  closed : rest.closed = q.closed
  ended : size = none → q.closed = true ∧ q.pending = []

variable {q rest : SizeQueue} {size : Option Size} {consumer : Nat}

theorem gives_of_take (h : q.take? = some (size, rest)) : q.Gives size rest := by
  unfold take? at h
  split at h
  · rename_i first others hpending
    obtain ⟨rfl, rfl⟩ := Prod.mk.inj (Option.some.inj h)
    exact ⟨hpending, rfl, rfl, by simp⟩
  · rename_i hpending
    split at h
    · rename_i hclosed
      obtain ⟨rfl, rfl⟩ := Prod.mk.inj (Option.some.inj h)
      exact ⟨rfl, rfl, rfl, fun _ => ⟨hclosed, hpending⟩⟩
    · cases h

theorem gives_of_poll (h : q.poll = some (size, rest)) : q.Gives size rest := by
  unfold poll at h
  split at h
  · exact gives_of_take h
  · cases h

theorem gives_of_serve (h : q.serve? = some (consumer, size, rest)) : q.Gives size rest := by
  unfold serve? at h
  split at h
  · cases h
  · obtain ⟨⟨taken, left⟩, htake, heq⟩ := Option.map_eq_some_iff.1 h
    obtain ⟨_, hsame⟩ := Prod.mk.inj heq
    obtain ⟨rfl, rfl⟩ := Prod.mk.inj hsame
    have hgives := gives_of_take htake
    exact ⟨hgives.pending, hgives.capacity, hgives.closed, hgives.ended⟩

/-- A closed queue makes no consumer wait. -/
theorem serve_of_closed {others : List Nat} (hclosed : q.closed = true)
    (hwaiting : q.waiting = consumer :: others) :
    q.serve? =
      some (consumer, q.pending.head?, { q with pending := q.pending.tail, waiting := others }) := by
  obtain ⟨capacity, pending, closed, waiting⟩ := q
  simp only at hclosed hwaiting
  subst hclosed hwaiting
  cases pending <;> rfl

theorem fill_of_room {s : Size} (hopen : q.closed = false) (hroom : q.pending.length < q.capacity) :
    q.fill s = .ok { q with pending := q.pending ++ [s] } := by
  have hnot : ¬ q.capacity ≤ q.pending.length := by omega
  simp [fill, hopen, hnot]

theorem fill_of_full {s : Size} (hopen : q.closed = false) (hfull : q.capacity ≤ q.pending.length) :
    q.fill s = .error .full := by
  simp [fill, hopen, hfull]

end SizeQueue

end SessionGateway.Terminal
