import Flowgraph.Workspace.Basic

namespace Flowgraph

open Json

/-- The reply that a backend gives next. -/
def Backend.next (b : Backend) : Reply := b.replies.head?.getD b.reply

theorem Backend.exchange_eq (b : Backend) (r : Request) (headers : List Header) :
    b.exchange r headers = ({ b with
      replies := b.replies.drop 1
      received := b.received ++ match b.next with
        | .answered .. => [.request r headers]
        | .unanswered _ => [] }, b.next) := by
  unfold exchange next
  dsimp only
  split <;> next given => simp only [given, List.append_nil]

theorem Account.receive_snd (a : Account) (r : Reply) : (a.receive r).2 = r.value := by
  unfold receive
  split <;> next value => exact value.symm

/-- A workspace that asks sends the request under the headers of its account. -/
theorem Workspace.ask_eq (w : Workspace) (c : Clock) (r : Request) :
    w.ask c r = ({ w with
      account := ((w.account.headers c.seconds).1.receive w.remote.next).1
      remote := { w.remote with
        replies := w.remote.replies.drop 1
        received := w.remote.received ++ match w.remote.next with
          | .answered .. => [.request r (w.account.headers c.seconds).2]
          | .unanswered _ => [] } }, w.remote.next.value) := by
  simp only [ask, Backend.exchange_eq, Account.receive_snd]

end Flowgraph
