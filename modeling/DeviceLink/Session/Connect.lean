import DeviceLink.Session.Message
/-!
# Opening the streams

One stream for every method, in the order of `Method.all`. The first refusal gives up the whole
batch; after a pause all streams are opened anew. The loop is `connect_loop`, and `open_all` what it
does in one attempt; `step` is what happens between two points where either of them waits.
-/
namespace DeviceLink

/-- Where the loop stands; `σ` are the open streams. -/
inductive ConnectLoop (σ : Type)
  /-- `next` is being opened, after the streams of `opened` and before those of `rest`. -/
  | opening (opened : List (Method × σ)) (next : Method) (rest : List Method)
  | pausing
  /-- The batch is complete, or the loop was told to end. -/
  | ended

inductive ConnectInput (σ : Type)
  | answered (outcome : Except TransportError σ)
  /-- The pause is over. -/
  | elapsed
  | cancelled

namespace ConnectLoop

variable {σ : Type}

/-- An attempt begins with the first method and without streams. -/
def attempt : ConnectLoop σ :=
  match Method.all with
  | [] => .ended
  | m :: rest => .opening [] m rest

/-- One step, and the batch when it is complete with it. -/
def step : ConnectLoop σ → ConnectInput σ → ConnectLoop σ × Option (List (Method × σ))
  | .opening opened next [], .answered (.ok s) => (.ended, some (opened ++ [(next, s)]))
  | .opening opened next (m :: rest), .answered (.ok s) =>
    (.opening (opened ++ [(next, s)]) m rest, none)
  | .opening _ _ _, .answered (.error _) => (.pausing, none)
  | .pausing, .elapsed => (attempt, none)
  | _, .cancelled => (.ended, none)
  | loop, _ => (loop, none)

/-- The streams that the loop holds. -/
def held : ConnectLoop σ → List (Method × σ)
  | .opening opened _ _ => opened
  | _ => []

end ConnectLoop
end DeviceLink
