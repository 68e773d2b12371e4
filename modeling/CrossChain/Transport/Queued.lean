import CrossChain.Node.Session

/-!
# Queued replies

A network for trials: whatever is asked, the next reply of a queue answers, and all that was opened
and asked is recorded. Some endpoints may be set to refuse.
-/

namespace CrossChain

/-- The replies to come, the endpoints that refuse, and the record so far. -/
structure QueuedNetwork where
  replies : List (Except Error Json)
  refused : List String
  opened : List TransportSpec
  requests : List (Transport × Request)
  serial : Nat

namespace QueuedNetwork

def empty : QueuedNetwork := ⟨[], [], [], [], 0⟩

/-- Forgets the record and takes new replies. -/
def load (n : QueuedNetwork) (replies : List (Except Error Json)) : QueuedNetwork :=
  { n with replies := replies, opened := [], requests := [] }

/-- Opening is recorded even if the endpoint refuses. -/
def dial (spec : TransportSpec) (n : QueuedNetwork) : Except Error Transport × QueuedNetwork :=
  let answer :=
    if n.refused.contains spec.endpoint then .error (.connection "refused")
    else .ok ⟨spec.endpoint, n.serial⟩
  (answer, { n with opened := n.opened ++ [spec], serial := n.serial + 1 })

/-- The next reply, or a failure when the queue is empty. -/
def send (t : Transport) (q : Request) (n : QueuedNetwork) :
    Except Error Json × QueuedNetwork :=
  let n := { n with requests := n.requests ++ [(t, q)] }
  match n.replies with
  | [] => (.error (.network "no reply"), n)
  | reply :: rest => (reply, { n with replies := rest })

def network : Network QueuedNetwork := ⟨dial, send⟩

end QueuedNetwork

end CrossChain
