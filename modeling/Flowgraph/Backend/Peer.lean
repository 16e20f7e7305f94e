import Flowgraph.Backend.Channel
import Flowgraph.Backend.Request

namespace Flowgraph

/-- Something that reached a backend. -/
inductive Received where
  | request (r : Request) (headers : List Header)
  | handshake (o : Channel.Offer)
deriving Repr

/-- A backend by its answers: those it gives first, in order, and the one it gives afterwards. -/
structure Backend where
  replies : List Reply := []
  reply : Reply
  handshakes : List Handshake := []
  handshake : Handshake
  received : List Received := []

namespace Backend

def unreachable : Backend where
  reply := .unanswered ["Connection refused"]
  handshake := .unanswered "Connection refused"

def exchange (b : Backend) (r : Request) (headers : List Header) : Backend × Reply :=
  let reply := b.replies.head?.getD b.reply
  let b := { b with replies := b.replies.drop 1 }
  match reply with
  | .unanswered _ => (b, reply)
  | .answered .. => ({ b with received := b.received ++ [.request r headers] }, reply)

def shakeHands (b : Backend) (o : Channel.Offer) : Backend × Handshake :=
  let h := b.handshakes.head?.getD b.handshake
  let b := { b with handshakes := b.handshakes.drop 1 }
  match h with
  | .unanswered _ => (b, h)
  | _ => ({ b with received := b.received ++ [.handshake o] }, h)

end Backend

end Flowgraph
