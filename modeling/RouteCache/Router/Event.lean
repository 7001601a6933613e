import RouteCache.Router.Basic

/-!
What is worth a line in a log. An event is not recorded by the operation that it is about:
it is read off the request and the reply. A query to a router has the events of the cache
that a found route was offered to, and one more if that cache did not keep it.
-/

namespace RouteCache

/-- How much an event matters. -/
inductive Level where
  | debug
  | info
deriving DecidableEq

def Level.name : Level → String
  | .debug => "DEBUG"
  | .info => "INFO"

inductive Event where
  /-- A memo was refused by the slot of another query. -/
  | slotTaken (slot : Slot)
  /-- Memos were dropped because their time had passed. -/
  | expired (number : Nat) (now : Tick)
  /-- A cache came to its end. -/
  | closed (hits : UInt64) (percentage : String) (collisions : UInt64)
  /-- A successful search was not kept. -/
  | notKept (outcome : Outcome)
  /-- The periodic loop started. -/
  | loopStarted
  /-- The periodic loop dropped memos at a tick. -/
  | loopExpired (now : Tick) (number : Nat)
deriving DecidableEq

def Outcome.name : Outcome → String
  | .stored => "Inserted"
  | .collided => "CollisionRejected"
  | .duplicate => "DuplicateIgnored"

namespace Event

/-- How much an event matters. -/
def level : Event → Level
  | .slotTaken _ | .expired _ _ | .notKept _ | .loopExpired _ _ => .debug
  | .closed _ _ _ | .loopStarted => .info

def message : Event → String
  | .slotTaken _ => "path cache hash collision, insert rejected"
  | .expired _ _ => "pruned expired paths"
  | .closed _ _ _ => "path cache dropped"
  | .notKept _ => "search result not cached"
  | .loopStarted => "Starting path cache tick loop"
  | .loopExpired _ _ => "Tick prune removed expired paths"

def fields : Event → List (String × String)
  | .slotTaken slot => [("hash", toString slot)]
  | .expired number now => [("removed", toString number), ("current_tick", toString now)]
  | .closed hits percentage collisions =>
    [("hits", toString hits), ("hit_percentage", percentage), ("collisions", toString collisions)]
  | .notKept outcome => [("outcome", outcome.name)]
  | .loopStarted => []
  | .loopExpired now number => [("tick", toString now), ("removed", toString number)]

/-- The event of storing a memo: a refusal because of another query. -/
def ofOutcome (slot : Slot) (outcome : Outcome) : List Event :=
  if outcome.hasCollided then [.slotTaken slot] else []

/-- The event of an expiry: the number dropped, if there was any. -/
def ofExpiry (now : Tick) (number : Nat) : List Event :=
  if number = 0 then [] else [.expired number now]

/-- The event at the end of a cache. -/
def ofClosing {policy : Policy} (cache : Cache policy) : List Event :=
  match cache.tally.percentage with
  | .ok percentage =>
    [.closed cache.tally.hits (Tally.percentText percentage) cache.tally.collisions]
  | .error _ => []

end Event

/-- The events of one use of a cache. -/
def Cache.Request.events (policy : Policy) (request : Request) (reply : Reply) : List Event :=
  match request, reply with
  | .insert memo _, .inserted outcome => Event.ofOutcome (policy.place memo.query) outcome
  | .expire now, .expired number => Event.ofExpiry now number
  | _, _ => []

/-- The events of answering a query. -/
def Router.Answer.events (settings : Settings) (query : Query) (answer : Answer) : List Event :=
  match answer.origin with
  | .cache => []
  | .search none => []
  | .search (some outcome) =>
    Event.ofOutcome (settings.policy.place query) outcome ++
      if outcome = .stored then [] else [.notKept outcome]

end RouteCache
