import PullReview.Webhook.Gate
import PullReview.Webhook.Process
/-!
# A service at work

A service takes in requests and processes the payloads that it queued, one at a time and in any order.
-/
namespace PullReview
namespace Webhook

/-- Everything a service has changed, and the payloads that wait. -/
structure Standing where
  bench : Bench
  queue : List Json

inductive Happening where
  | delivery (d : Delivery)
  | processing (position : Nat) (world : World)

namespace Standing

def files (s : Standing) : Files := s.bench.workspace.files

def step (settings : Settings) (secret : String) (s : Standing) : Happening → Standing
  | .delivery d =>
    let yard := ((receive settings.place.root secret d).start ⟨s.files, s.queue⟩).2.state
    { bench := { s.bench with workspace := { s.bench.workspace with files := yard.files } }, queue := yard.queue }
  | .processing position world =>
    match s.queue[position]? with
    | none => s
    | some payload =>
      { bench := ((process settings world payload).start s.bench).2.state, queue := s.queue.eraseIdx position }

def run (settings : Settings) (secret : String) (s : Standing) (happenings : List Happening) : Standing :=
  happenings.foldl (step settings secret) s

end Standing

end Webhook
end PullReview
