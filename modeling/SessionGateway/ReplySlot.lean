/-!
# Reply slots

The place for the answer to a request. The first answer counts. A request that is destroyed
without one leaves the peer without an answer, and a peer that has stopped waiting gets none.
-/

namespace SessionGateway

/-- The answer to a request, from the peer's side. -/
inductive ReplySlot where
  | unwanted
  | waiting
  | answered (ok : Bool)
  /-- The request was destroyed while the peer waited. -/
  | forgone
  /-- The peer has stopped waiting; `unanswered` tells that no answer has been given since. -/
  | abandoned (unanswered : Bool)
  deriving DecidableEq, Repr

namespace ReplySlot

def ofWanted (wanted : Bool) : ReplySlot :=
  if wanted then .waiting else .unwanted

/-- Whether the gateway owes an answer, so far as it can tell. -/
def wantsReply : ReplySlot → Bool
  | .waiting => true
  | .abandoned unanswered => unanswered
  | _ => false

def reply (slot : ReplySlot) (ok : Bool) : ReplySlot :=
  match slot with
  | .waiting => .answered ok
  | .abandoned true => .abandoned false
  | slot => slot

def stopWaiting : ReplySlot → ReplySlot
  | .waiting => .abandoned true
  | slot => slot

def destroy : ReplySlot → ReplySlot
  | .waiting => .forgone
  | slot => slot

end ReplySlot

end SessionGateway
