import ChannelConsole.Network.Message

/-!
# The link to other servers

What a server on the other end answers is not in our hands: a link holds the answers that are still
to come, and keeps a record of the requests that were sent over it.

## Main definitions

* `Network.Answer`: what comes back, an answer with a status and a body or no connection.
* `Network.Link`: the answers to come and the requests sent.
* `Network.Link.send`: a request is sent, which is to keep it on record and to wait for the answer.

## Main statements

* `Network.Link.sent_send`: every request sent is on record.
-/

namespace ChannelConsole.Network

/-- What comes back for a request. -/
inductive Answer where
  | response (r : Response)
  | unreachable (message : Text)

/-- What comes back when nobody is listening. -/
def Answer.refused : Answer := .unreachable "connection refused"

/-- The answers that are still to come, and the requests that were sent, the latest one last. -/
structure Link (ρ : Type) where
  answers : List Answer := []
  sent : List ρ := []

/-- Keep a request on record. -/
def Link.record {ρ : Type} (link : Link ρ) (request : ρ) : Link ρ :=
  { link with sent := link.sent ++ [request] }

/-- Wait for the next answer. When no answer is left, nobody is listening. -/
def Link.receive {ρ : Type} (link : Link ρ) : Link ρ × Answer :=
  match link.answers with
  | [] => (link, .refused)
  | a :: r => ({ link with answers := r }, a)

/-- Send a request and wait for the answer. -/
def Link.send {ρ : Type} (link : Link ρ) (request : ρ) : Link ρ × Answer :=
  (link.record request).receive

/-- Waiting for an answer sends nothing. -/
theorem Link.sent_receive {ρ : Type} (link : Link ρ) : link.receive.1.sent = link.sent := by
  unfold Link.receive
  cases link.answers <;> rfl

/-- Every request sent is on record. -/
theorem Link.sent_send {ρ : Type} (link : Link ρ) (request : ρ) :
    (link.send request).1.sent = link.sent ++ [request] := by
  rw [Link.send, Link.sent_receive, Link.record]

end ChannelConsole.Network
