import AttributeGateway.Agent.Exchange

/-!
# Networks whose replies are settled beforehand

A script holds the replies to the requests to come, in order, and takes down the requests that
arrive. Once the replies are used up, requests are answered by a failure of the server. A script
with a problem loses all requests before they arrive.
-/

namespace AttributeGateway

namespace Agent

/-- Replies to come, and the requests that have arrived. -/
structure Script where
  /-- What keeps requests from arriving. -/
  problem : Option String := none
  replies : List Reply := []
  /-- The requests that have arrived, the last one first. -/
  arrived : List Request := []

/-- The next reply of a script. -/
def Script.exchange (request : Request) (s : Script) : Reply × Script :=
  match s.problem with
  | some problem => (.lost problem, s)
  | none =>
    (s.replies.headD (.answered 500 [] ""),
      { s with replies := s.replies.tail, arrived := request :: s.arrived })

instance : Network Script := ⟨Script.exchange⟩

end Agent

end AttributeGateway
