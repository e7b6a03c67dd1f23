/-!
# Inboxes

A stream of items from the peer as the gateway sees it: what has arrived and is not taken yet,
whether the sender is gone, and whether the gateway has stopped receiving.
-/

namespace SessionGateway

/-- The receiving end of a stream of items. -/
structure Inbox (α : Type) where
  /-- What has arrived and is not taken, oldest first. -/
  queued : List α
  /-- The sender is gone: nothing more arrives. -/
  ended : Bool
  /-- The receiver is gone: nothing more is taken. -/
  dropped : Bool
  deriving DecidableEq, Repr

namespace Inbox

variable {α : Type}

def fresh : Inbox α :=
  ⟨[], false, false⟩

def accepts (b : Inbox α) : Bool :=
  !b.ended && !b.dropped

def send (b : Inbox α) (a : α) : Inbox α :=
  if b.accepts then { b with queued := b.queued ++ [a] } else b

def finish (b : Inbox α) : Inbox α :=
  { b with ended := true }

/-- The receiver goes away, and with it what is not taken. -/
def drop (b : Inbox α) : Inbox α :=
  { b with queued := [], dropped := true }

def take? (b : Inbox α) : Option (α × Inbox α) :=
  match b.queued with
  | [] => none
  | a :: rest => some (a, { b with queued := rest })

def exhausted (b : Inbox α) : Bool :=
  b.queued.isEmpty && b.ended

end Inbox

end SessionGateway
