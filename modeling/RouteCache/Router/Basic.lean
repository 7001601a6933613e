import RouteCache.Router.Shards
import RouteCache.Search.Basic
import RouteCache.Settings.Basic

/-!
A router answers queries from the cache of their mover category, and searches when
that cache has no answer. A successful search is offered to the cache. Each category
has a cache of its own, made when the category is first seen.
-/

namespace RouteCache

/-- The caches of all categories and the memory of the search. -/
structure Router (settings : Settings) (σ : Type) where
  shards : Shards settings.policy := []
  memory : σ

abbrev RouterM (settings : Settings) (σ : Type) := EStateM Fault (Router settings σ)

namespace Router

inductive Origin where
  | cache
  /-- A search, and what became of it if it was a success. -/
  | search (kept : Option Outcome)
deriving DecidableEq

structure Answer where
  found : Found
  origin : Origin
deriving DecidableEq

variable {settings : Settings} {σ : Type}

/-- The cache of a category, which is empty before its first use. -/
def shard (router : Router settings σ) (mover : UInt32) : Cache settings.policy :=
  (router.shards.get? mover).getD Cache.empty

/-- Uses the cache of a category. -/
def onShard {α : Type} (mover : UInt32) (use : CacheM settings.policy α) :
    RouterM settings σ α := fun router =>
  match use (router.shard mover) with
  | .ok result cache => .ok result { router with shards := router.shards.put mover cache }
  | .error fault cache => .error fault { router with shards := router.shards.put mover cache }

def consult (search : Search σ) (query : Query) : RouterM settings σ Found := fun router =>
  match search query router.memory with
  | .ok found memory => .ok found { router with memory }
  | .error fault memory => .error fault { router with memory }

def find (search : Search σ) (query : Query) (now : Tick) : RouterM settings σ Answer := do
  match ← onShard query.mover (Cache.lookup query) with
  | some memo => return ⟨memo.found, .cache⟩
  | none =>
    let found ← consult search query
    if found.verdict.isUsable then
      let outcome ← onShard query.mover (Cache.insert ⟨query, found⟩ now)
      return ⟨found, .search (some outcome)⟩
    else
      return ⟨found, .search none⟩

/-- Expires memos in every cache, and returns their number. -/
def expire (now : Tick) : RouterM settings σ Nat := fun router =>
  match router.shards.expire now with
  | .ok number shards => .ok number { router with shards }
  | .error fault shards => .error fault { router with shards }

/-- The counters of a category, if it has been seen. -/
def report? (router : Router settings σ) (mover : UInt32) : Option Tally :=
  (router.shards.get? mover).map Cache.report

/-- The counters of all categories together. -/
def total (router : Router settings σ) : Except Fault Tally := router.shards.total

inductive Request where
  | find (query : Query) (now : Tick)
  | expire (now : Tick)
deriving DecidableEq

inductive Reply where
  | answered (answer : Answer)
  | expired (number : Nat)
deriving DecidableEq

def serve (search : Search σ) : Request → RouterM settings σ Reply
  | .find query now => return .answered (← find search query now)
  | .expire now => return .expired (← expire now)

/-- Serves requests in order, up to the first that faults. -/
def serveAll (search : Search σ) : List Request → RouterM settings σ (List Reply)
  | [] => return []
  | request :: requests => do
    let reply ← serve search request
    return reply :: (← serveAll search requests)

end Router

end RouteCache
