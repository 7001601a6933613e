import RouteCache.Cache.Deadlines
import RouteCache.Cache.Shelf
import RouteCache.Cache.Tally
import RouteCache.Grid.Slot

/-!
A bounded cache of searches in which every memo lives for a fixed number of ticks.

The cache keeps a shelf of memos, one to a slot, and a line of deadlines, one for
each memo. Room is made before the slot of a new memo is looked at, by dropping the
oldest memo of a full cache. A slot that is taken keeps its memo: the same query is
a duplicate and any other query a collision. Expiry only looks at the front of the
line.

The operations run in a state monad that keeps the state when a fault stops them,
because a cache that is shared goes on being used.
-/

namespace RouteCache

/-- The rules a cache runs by. They never change, so they index its type. -/
structure Policy where
  /-- The slot of each query. -/
  place : Placement
  /-- The greatest number of memos. -/
  capacity : UInt64
  /-- How many ticks a memo lives after the one at which it was stored. -/
  lifetime : Tick
  capacity_pos : 0 < capacity.toNat

/-- A policy with the requested capacity, but at least one. -/
def Policy.bounded (place : Placement) (requested : UInt64) (lifetime : Tick) : Policy :=
  if h : requested = 0 then ⟨place, 1, lifetime, by decide⟩
  else ⟨place, requested, lifetime, Nat.pos_of_ne_zero fun zero => h (UInt64.toNat_inj.1 zero)⟩

theorem Policy.capacity_bounded (place : Placement) (requested : UInt64) (lifetime : Tick) :
    (Policy.bounded place requested lifetime).capacity.toNat = max requested.toNat 1 := by
  unfold bounded
  split
  · rename_i zero
    subst zero
    rfl
  · rename_i positive
    have bound : requested.toNat ≠ 0 := fun zero => positive (UInt64.toNat_inj.1 zero)
    show requested.toNat = max requested.toNat 1
    omega

theorem Policy.place_bounded (place : Placement) (requested : UInt64) (lifetime : Tick) :
    (Policy.bounded place requested lifetime).place = place := by
  unfold bounded
  split <;> rfl

theorem Policy.lifetime_bounded (place : Placement) (requested : UInt64) (lifetime : Tick) :
    (Policy.bounded place requested lifetime).lifetime = lifetime := by
  unfold bounded
  split <;> rfl

/-- The last tick at which a memo stored at `now` is kept. -/
def Policy.lastTick (policy : Policy) (now : Tick) : Tick := cappedAdd now policy.lifetime

structure Cache (policy : Policy) where
  shelf : Shelf := {}
  deadlines : Deadlines := {}
  tally : Tally := {}

/-- What became of a memo that was to be stored. -/
inductive Outcome where
  | stored
  /-- Another query has the slot, and its memo stays. -/
  | collided
  /-- The same query is on the shelf already, and its memo stays. -/
  | duplicate
deriving DecidableEq

/-- Whether a memo was refused because of another query. -/
def Outcome.hasCollided : Outcome → Bool
  | .collided => true
  | .stored | .duplicate => false

abbrev CacheM (policy : Policy) := EStateM Fault (Cache policy)

namespace Cache

variable {policy : Policy}

def empty : Cache policy := {}

def size (cache : Cache policy) : Nat := cache.shelf.size

/-- The counters, with the number of memos as it is now. -/
def report (cache : Cache policy) : Tally := cache.tally.withHeld cache.size

def count (occasion : Occasion) : CacheM policy Unit := fun cache =>
  match cache.tally.count occasion with
  | .ok tally => .ok () { cache with tally }
  | .error fault => .error fault cache

/-- Drops the memo whose deadline is the oldest, and sets the number held. -/
def dropOldest : CacheM policy Unit := fun cache =>
  match cache.deadlines.pop? with
  | none => .error .nothingWaiting cache
  | some (oldest, deadlines) =>
    match cache.shelf.get? oldest.slot with
    | none => .error (.memoMissing oldest.slot) { cache with deadlines }
    | some _ =>
      let shelf := cache.shelf.erase oldest.slot
      .ok () { shelf, deadlines, tally := cache.tally.withHeld shelf.size }

theorem dropOldest_eq_ok {cache : Cache policy} {oldest : Deadline} {others : List Deadline}
    {memo : Memo} (first : cache.deadlines.records = oldest :: others)
    (present : cache.shelf.get? oldest.slot = some memo) :
    dropOldest cache = .ok () {
      shelf := cache.shelf.erase oldest.slot
      deadlines := ⟨others⟩
      tally := cache.tally.withHeld (cache.shelf.erase oldest.slot).size } := by
  simp only [dropOldest, Deadlines.pop?, first, present]

/-- Drops the given number of memos, the oldest first, and counts each. -/
def drop (occasion : Occasion) : Nat → CacheM policy Unit
  | 0 => pure ()
  | number + 1 => do
    dropOldest
    count occasion
    drop occasion number

/-- The number of memos that have to go before one more can wait. -/
def surplus (cache : Cache policy) : Nat :=
  cache.deadlines.size + 1 - policy.capacity.toNat

/-- Drops as many memos as it takes for one more to have room. -/
def makeRoom : CacheM policy Unit := do
  drop .eviction (← get).surplus

theorem makeRoom_eq (cache : Cache policy) :
    makeRoom cache = drop .eviction cache.surplus cache := rfl

/-- Puts a memo into a vacant slot and its deadline at the end of the line. The
memo is on the shelf already when the line refuses the deadline. -/
def store (slot : Slot) (memo : Memo) (now : Tick) : CacheM policy Unit := fun cache =>
  match cache.shelf.insert? slot memo with
  | none => .error (.slotOccupied slot) cache
  | some shelf =>
    match cache.deadlines.push? ⟨slot, policy.lastTick now⟩ with
    | none => .error .outOfOrder { cache with shelf }
    | some deadlines => .ok () { shelf, deadlines, tally := cache.tally.withHeld shelf.size }

/-- Offers a memo to the slot of its query, in a cache that has room. -/
def offer (memo : Memo) (now : Tick) : CacheM policy Outcome := do
  let slot := policy.place memo.query
  match (← get).shelf.get? slot with
  | none =>
    store slot memo now
    return .stored
  | some present =>
    if present.query = memo.query then
      return .duplicate
    else
      count .collision
      return .collided

theorem offer_of_vacant {cache : Cache policy} {memo : Memo} (now : Tick)
    (vacant : cache.shelf.get? (policy.place memo.query) = none) :
    offer memo now cache =
      (store (policy.place memo.query) memo now >>= fun _ => pure .stored) cache := by
  change (match cache.shelf.get? (policy.place memo.query) with
    | none => (store (policy.place memo.query) memo now >>= fun _ => pure .stored :
        CacheM policy Outcome)
    | some _ => _) cache = _
  rw [vacant]

theorem offer_of_occupied {cache : Cache policy} {memo present : Memo} (now : Tick)
    (occupied : cache.shelf.get? (policy.place memo.query) = some present) :
    offer memo now cache =
      if present.query = memo.query then .ok .duplicate cache
      else (count .collision >>= fun _ => pure .collided) cache := by
  change (match cache.shelf.get? (policy.place memo.query) with
    | none => (_ : CacheM policy Outcome)
    | some present =>
      if present.query = memo.query then pure .duplicate
      else count .collision >>= fun _ => pure .collided) cache = _
  rw [occupied]
  dsimp only
  split <;> rfl

/-- Makes room, whatever becomes of the memo then, and offers the memo. -/
def insert (memo : Memo) (now : Tick) : CacheM policy Outcome := do
  makeRoom
  offer memo now

theorem insert_eq (memo : Memo) (now : Tick) (cache : Cache policy) :
    insert memo now cache = (makeRoom >>= fun _ => offer memo now) cache := rfl

/-- The memo that answers a query, without counting. -/
def find? (cache : Cache policy) (query : Query) : Option Memo :=
  (cache.shelf.get? (policy.place query)).filter (·.settles query)

theorem find?_eq_some_iff {cache : Cache policy} {query : Query} {memo : Memo} :
    cache.find? query = some memo ↔
      cache.shelf.get? (policy.place query) = some memo ∧ memo.settles query = true := by
  unfold find?
  exact Option.filter_eq_some_iff

/-- Looks a query up and counts a hit or a miss. -/
def lookup (query : Query) : CacheM policy (Option Memo) := do
  let found := (← get).find? query
  count (if found.isSome then .hit else .miss)
  return found

theorem lookup_eq (query : Query) (cache : Cache policy) :
    lookup query cache =
      (count (if (cache.find? query).isSome then .hit else .miss) >>=
        fun _ => pure (cache.find? query)) cache := rfl

/-- Drops the memos whose last tick is before `now`, and returns their number. -/
def expire (now : Tick) : CacheM policy Nat := do
  let number := (← get).deadlines.overdue now
  drop .expiration number
  return number

theorem expire_eq (now : Tick) (cache : Cache policy) :
    expire now cache =
      (drop .expiration (cache.deadlines.overdue now) >>=
        fun _ => pure (cache.deadlines.overdue now)) cache := rfl

/-!
### Requests

What users ask of a cache, as data, so that whole histories of a cache can be written down
and compared.
-/

/-- One use of a cache. -/
inductive Request where
  | insert (memo : Memo) (now : Tick)
  | lookup (query : Query)
  | expire (now : Tick)
deriving DecidableEq

inductive Reply where
  | inserted (outcome : Outcome)
  | found (memo : Option Memo)
  | expired (number : Nat)
deriving DecidableEq

variable {policy : Policy}

def serve : Request → CacheM policy Reply
  | .insert memo now => return .inserted (← insert memo now)
  | .lookup query => return .found (← lookup query)
  | .expire now => return .expired (← expire now)

/-- Serves requests in order, up to the first that faults. -/
def serveAll : List Request → CacheM policy (List Reply)
  | [] => return []
  | request :: requests => do
    let reply ← serve request
    return reply :: (← serveAll requests)

theorem serveAll_cons (request : Request) (requests : List Request) (cache : Cache policy) :
    serveAll (request :: requests) cache =
      (serve request >>= fun reply =>
        serveAll requests >>= fun replies => pure (reply :: replies)) cache := rfl

end Cache

end RouteCache
