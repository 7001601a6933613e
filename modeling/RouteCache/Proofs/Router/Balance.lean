import Mathlib.Algebra.Order.BigOperators.Group.List
import Mathlib.Algebra.Order.Group.Nat
import Mathlib.Data.List.Dedup
import RouteCache.Proofs.Cache.Accounts
import RouteCache.Proofs.Cache.Total
import RouteCache.Proofs.Router.Keeps
import RouteCache.Proofs.Router.Searches

/-!
The counters of all categories together are a ledger of the run. Every query is a lookup
of one cache, every search is a miss of one cache, and every usable result is offered to
one cache, where it is never a duplicate: a query that is found is not searched. So each
account, added up over all caches, comes to what the requests and the replies say. The
total exists because no account comes to more than the number of queries and expiries.
-/

namespace RouteCache

namespace Router

variable {settings : Settings} {σ : Type} {router after : Router settings σ} {search : Search σ}
  {query : Query} {now : Tick} {answer : Answer} {P : Entry → Prop}

/-- The number of memos that a reply reports as expired. -/
def Reply.expirations : Reply → Nat
  | .answered _ => 0
  | .expired number => number

/-- The balance of an account over all caches. -/
def balance (account : Account) (router : Router settings σ) : Nat :=
  (router.shards.map fun shard => shard.2.balance account).sum

/-- What an account comes to in a run, going by its requests and replies. -/
def turnover (account : Account) (requests : List Request) (replies : List Reply) : Nat :=
  match account with
  | .lookups => (requests.filterMap Request.mover?).length
  | .misses => (searches requests replies).length
  | .offers => (searches requests replies).countP (·.2.found.verdict.isUsable)
  | .expirations => (replies.map Reply.expirations).sum

theorem turnover_cons (account : Account) (request : Request) (requests : List Request)
    (reply : Reply) (replies : List Reply) :
    turnover account (request :: requests) (reply :: replies) =
      turnover account [request] [reply] + turnover account requests replies := by
  have first : searches [request] [reply] = (request.search? reply).toList := by
    rw [searches_cons]
    exact List.append_nil _
  cases account with
  | lookups =>
    simp only [turnover]
    rw [← List.singleton_append, List.filterMap_append, List.length_append]
  | misses => simp only [turnover, first, searches_cons, List.length_append]
  | offers => simp only [turnover, first, searches_cons, List.countP_append]
  | expirations => simp [turnover]

theorem balance_put {account : Account} {mover : UInt32} {cache : Cache settings.policy}
    {number : Nat}
    (step : cache.balance account = (router.shard mover).balance account + number) (memory : σ) :
    (⟨router.shards.put mover cache, memory⟩ : Router settings σ).balance account =
      router.balance account + number := by
  have sum := Shards.sum_put (Cache.balance account) (Cache.balance_empty account) mover cache
    router.shards
  unfold shard at step
  unfold balance
  dsimp only
  omega

theorem Keeps.balance_find (h : router.Keeps P) (found : Finds search query now router answer after)
    (account : Account) :
    after.balance account =
      router.balance account + turnover account [.find query now] [.answered answer] := by
  have here := h.shard query.mover
  cases found with
  | remembered looked =>
    rw [balance_put (here.balance_lookup looked account)]
    cases account <;> rfl
  | unusable looked searched unusable =>
    rw [balance_put (here.balance_lookup looked account)]
    cases account <;> simp [turnover, searches, Request.mover?, Request.search?,
      Reply.expirations, Cache.Reply.posted, unusable]
  | @offered _ _ _ _ outcome looked searched usable inserted =>
    have fresh : outcome ≠ .duplicate := here.not_duplicate looked inserted
    have step := (here.lookup looked).balance_insert inserted account
    rw [here.balance_lookup looked account, Nat.add_assoc] at step
    rw [balance_put step]
    cases outcome with
    | duplicate => exact absurd rfl fresh
    | stored | collided =>
      cases account <;> simp [turnover, searches, Request.mover?, Request.search?,
        Reply.expirations, Cache.Reply.posted, usable]

theorem Keeps.balance_expire (h : router.Keeps P) {number : Nat}
    (expired : router.shards.expire now = .ok number after.shards) (account : Account) :
    after.balance account =
      router.balance account + turnover account [.expire now] [.expired number] := by
  obtain ⟨fine, counted, shards⟩ := Shards.expire_eq_ok_iff.mp expired
  have each : ∀ shard ∈ router.shards, (final (Cache.expire now shard.2)).balance account =
      shard.2.balance account +
        (Cache.Reply.expired (shard.2.deadlines.overdue now)).posted account :=
    fun shard member =>
      (h shard member).balance_expire (Cache.expire_eq_ok (fine shard member)) account
  have sum : after.balance account = (router.shards.map fun shard => shard.2.balance account +
      (Cache.Reply.expired (shard.2.deadlines.overdue now)).posted account).sum := by
    unfold balance
    rw [shards, List.map_map]
    exact congrArg List.sum (List.map_congr_left each)
  rw [sum, List.sum_map_add]
  unfold balance
  congr 1
  cases account <;> simp [turnover, searches, List.filterMap_cons, Request.mover?,
    Request.search?, Reply.expirations, Cache.Reply.posted, counted]

theorem Keeps.balance_serve (h : router.Keeps P) {request : Request} {reply : Reply}
    (served : Router.serve search request router = .ok reply after) (account : Account) :
    after.balance account = router.balance account + turnover account [request] [reply] := by
  cases request with
  | find query now =>
    obtain ⟨answer, rfl, found⟩ := of_serve_find served
    exact h.balance_find found account
  | expire now =>
    obtain ⟨number, rfl, expired, _⟩ := of_serve_expire served
    exact h.balance_expire expired account

/-- The balances of a run, by induction on its requests. That every cache is in order is
carried along, because only then does each use of it keep the accounts. -/
theorem Keeps.balance_serveAll (h : router.Keeps fun _ => True) {requests : List Request}
    {replies : List Reply} (run : Router.serveAll search requests router = .ok replies after)
    (account : Account) :
    after.balance account = router.balance account + turnover account requests replies := by
  induction requests generalizing router replies with
  | nil =>
    cases run
    cases account <;> rfl
  | cons request requests ih =>
    obtain ⟨reply, between, others, served, remaining, rfl⟩ := of_serveAll_cons run
    have kept : between.Keeps fun _ => True :=
      h.serve served (fun _ _ _ => trivial) (fun _ _ _ _ _ _ => trivial)
    rw [ih kept remaining, h.balance_serve served account,
      turnover_cons account request requests, Nat.add_assoc]

/-! ### The total -/

theorem balance_eq (router : Router settings σ) (account : Account) :
    router.balance account =
      account.balance
        (fun occasion => (router.shards.map fun shard =>
          (shard.2.report.number occasion).toNat).sum)
        (router.shards.map fun shard => shard.2.report.held.toNat).sum := by
  cases account <;> simp only [balance, Cache.balance, Account.balance, List.sum_map_add]

/-- There is a total, and its accounts are those of all caches, as long as the lookups and
the offers are fewer than a word can count. Every counter has a part in one of the two. -/
theorem exists_total {router : Router settings σ} (lookups : router.balance .lookups < UInt64.size)
    (offers : router.balance .offers < UInt64.size) :
    ∃ tally, router.total = .ok tally ∧
      (∀ account, account.balance (fun occasion => (tally.number occasion).toNat)
        tally.held.toNat = router.balance account) ∧
      tally.held.toNat = (router.shards.map fun shard => shard.2.report.held.toNat).sum := by
  simp only [balance_eq, Account.balance] at lookups offers
  obtain ⟨tally, total⟩ : ∃ tally, router.total = .ok tally := by
    apply Tally.exists_total_iff.mpr
    simp only [List.map_map, Function.comp_def]
    refine ⟨?_, by omega⟩
    intro occasion
    cases occasion <;> omega
  obtain ⟨fields, held⟩ := Tally.total_eq_ok_iff.mp total
  simp only [List.map_map, Function.comp_def] at fields held
  refine ⟨tally, total, ?_, held⟩
  intro account
  rw [balance_eq, held, funext fields]

theorem length_searches_le (requests : List Request) (replies : List Reply) :
    (searches requests replies).length ≤ requests.length := by
  unfold searches
  apply Nat.le_trans (List.length_filterMap_le _ _)
  rw [List.length_zip]
  exact Nat.min_le_left _ _

theorem Keeps.sum_held_le (h : router.Keeps P) :
    (router.shards.map fun shard => shard.2.report.held.toNat).sum ≤
      settings.policy.capacity.toNat * router.shards.length := by
  have each : ∀ held ∈ router.shards.map fun shard => shard.2.report.held.toNat,
      held ≤ settings.policy.capacity.toNat := by
    intro held member
    obtain ⟨shard, there, rfl⟩ := List.mem_map.mp member
    exact (h shard there).held_le
  have bound := List.sum_le_card_nsmul _ _ each
  rwa [List.length_map, Nat.nsmul_eq_mul, Nat.mul_comm] at bound

/-- A new router comes to have as many caches as categories were asked for. -/
theorem length_shards {memory : σ} {requests : List Request} {replies : List Reply}
    (run : serveAll search requests ({ memory } : Router settings σ) = .ok replies after) :
    after.shards.length = (requests.filterMap Request.mover?).dedup.length := by
  have fresh : ({ memory } : Router settings σ).shards.Distinct := List.nodup_nil
  have distinct : (after.shards.map (·.1)).Nodup := distinct_of_serveAll fresh run
  have same : (after.shards.map (·.1)).Perm (requests.filterMap Request.mover?).dedup := by
    apply (List.perm_ext_iff_of_nodup distinct (List.nodup_dedup _)).mpr
    intro mover
    rw [List.mem_dedup, mem_movers_of_serveAll run]
    simp
  rw [← same.length_eq, List.length_map]

/-- After a run of a new router with fewer requests than a word can count there is a total, and
its accounts are those of the run. -/
theorem exists_total_of_serveAll {memory : σ} {requests : List Request} {replies : List Reply}
    (short : requests.length < UInt64.size)
    (run : serveAll search requests ({ memory } : Router settings σ) = .ok replies after) :
    ∃ tally, after.total = .ok tally ∧
      (∀ account, account.balance (fun occasion => (tally.number occasion).toNat)
        tally.held.toNat = turnover account requests replies) ∧
      tally.held.toNat = (after.shards.map fun shard => shard.2.report.held.toNat).sum := by
  have balance (account : Account) : after.balance account = turnover account requests replies :=
    ((keeps_new _ memory).balance_serveAll run account).trans (Nat.zero_add _)
  have queries := List.length_filterMap_le Request.mover? requests
  have usable : turnover .offers requests replies ≤ (searches requests replies).length :=
    List.countP_le_length
  have made := length_searches_le requests replies
  obtain ⟨tally, total, accounts, held⟩ := exists_total
    (show after.balance .lookups < UInt64.size by
      rw [balance]
      exact Nat.lt_of_le_of_lt queries short)
    (show after.balance .offers < UInt64.size by
      rw [balance]
      exact Nat.lt_of_le_of_lt (Nat.le_trans usable made) short)
  exact ⟨tally, total, fun account => (accounts account).trans (balance account), held⟩

/-- What becomes of a search. A usable result is stored or refused for another query, and
one that is not usable changes no memo and no deadline of any category. -/
theorem Keeps.of_search (h : router.Keeps P) (found : Finds search query now router answer after)
    {kept : Option Outcome} (searched : answer.origin = .search kept) :
    (answer.found.verdict.isUsable = true → kept = some .stored ∨ kept = some .collided) ∧
      (answer.found.verdict.isUsable = false → kept = none ∧ ∀ mover,
        (after.shard mover).shelf = (router.shard mover).shelf ∧
          (after.shard mover).deadlines = (router.shard mover).deadlines) := by
  cases found with
  | remembered looked => cases searched
  | unusable looked _ unusable =>
    cases searched
    refine ⟨fun usable => absurd usable (by simp [unusable]), fun _ => ⟨rfl, ?_⟩⟩
    intro mover
    by_cases here : mover = query.mover
    · have alike := Cache.lookup_alike looked
      rw [here, shard_put]
      exact ⟨alike.shelf, alike.deadlines⟩
    · rw [shard_congr (Shards.get?_put_other _ router.shards here)]
      exact ⟨rfl, rfl⟩
  | @offered _ _ _ _ outcome looked _ usable inserted =>
    cases searched
    refine ⟨fun _ => ?_, fun unusable => absurd usable (by simp [unusable])⟩
    cases outcome with
    | stored => exact .inl rfl
    | collided => exact .inr rfl
    | duplicate => exact absurd rfl ((h.shard query.mover).not_duplicate looked inserted)

/-- A new router, with any settings and any search, after any run without a fault. Hits and
misses together are the queries; misses are the searches; the searches that brought
something usable are those refused, held, evicted and expired; expirations are what the
expiries report; and no more memos are held than the caches of all categories asked for have
room for. Whatever is asked next, a result that is searched and usable is stored or refused
for another query, and one that is not usable changes no memo and no deadline. -/
theorem serveAll_balanced (settings : Settings) (search : Search σ) (memory : σ)
    (requests : List Request) (short : requests.length < UInt64.size) (replies : List Reply)
    (after : Router settings (List Memo × σ))
    (run : serveAll search.recorded requests
      ({ memory := ([], memory) } : Router settings (List Memo × σ)) = .ok replies after) :
    (∃ tally, after.total = .ok tally ∧
      tally.hits.toNat + tally.misses.toNat = (requests.filterMap Request.mover?).length ∧
      tally.misses.toNat = after.memory.1.length ∧
      after.memory.1.countP (·.found.verdict.isUsable) =
        tally.collisions.toNat + tally.held.toNat + tally.evictions.toNat +
          tally.expirations.toNat ∧
      tally.expirations.toNat = (replies.map Reply.expirations).sum ∧
      tally.held.toNat ≤
        max settings.capacity.toNat 1 * (requests.filterMap Request.mover?).dedup.length) ∧
    ∀ query now answer later, find search.recorded query now after = .ok answer later →
      ∀ kept, answer.origin = .search kept →
        (answer.found.verdict.isUsable = true → kept = some .stored ∨ kept = some .collided) ∧
          (answer.found.verdict.isUsable = false → kept = none ∧ ∀ mover,
            (later.shard mover).shelf = (after.shard mover).shelf ∧
              (later.shard mover).deadlines = (after.shard mover).deadlines) := by
  have start : ({ memory := ([], memory) } : Router settings (List Memo × σ)).Keeps
      fun _ => True := keeps_new _ _
  have kept : after.Keeps fun _ => True :=
    Keeps.serveAll (P := fun _ _ => True) [] start run (by simp) (by simp)
  have record : after.memory.1 = (searches requests replies).map (·.2) := by
    rw [record_of_serveAll run, List.nil_append]
  obtain ⟨tally, total, accounts, held⟩ := exists_total_of_serveAll short run
  refine ⟨⟨tally, total, accounts .lookups, ?_, ?_, accounts .expirations, ?_⟩,
    fun query now answer later found outcome searched =>
      kept.of_search (find_eq_ok_iff.mp found) searched⟩
  · rw [record, List.length_map]
    exact accounts .misses
  · rw [record, List.countP_map]
    exact (accounts .offers).symm
  · rw [held, ← length_shards run, ← Policy.capacity_bounded settings.grid.slot]
    exact kept.sum_held_le

/-- A cache for one memo, with a search that fails the second time it is asked. -/
theorem serveAll_balanced_one_memo :
    let settings : Settings := { capacity := 1, lifetime := 10 }
    let search := Search.scripted [.reached, .unreachable, .approached]
    let start : Router settings (List Memo × Nat) := { memory := ([], 0) }
    let requests : List Request := [.find (eastward 5) 0, .find (eastward 6) 1,
      .find (eastward 6) 2, .find (eastward 6) 2, .expire 20]
    requests.length < UInt64.size ∧
      ∃ replies after tally, serveAll search.recorded requests start = .ok replies after ∧
        after.total = .ok tally ∧ tally.hits.toNat + tally.misses.toNat = 4 ∧
        tally.misses.toNat = 3 ∧
        2 = tally.collisions.toNat + tally.held.toNat + tally.evictions.toNat +
          tally.expirations.toNat ∧
        tally.expirations.toNat = 1 ∧ tally.held.toNat ≤ 1 := by
  intro settings search start requests
  have closed : ends (fun replies after =>
      decide (after.memory.1.length = 3 ∧
        after.memory.1.countP (·.found.verdict.isUsable) = 2 ∧
        (replies.map Reply.expirations).sum = 1))
      (serveAll search.recorded requests start) = true := by
    decide +kernel
  obtain ⟨replies, after, run, last⟩ := ends_iff.mp closed
  obtain ⟨made, usable, expirations⟩ := of_decide_eq_true last
  obtain ⟨⟨tally, total, queries, misses, offers, dropped, held⟩, _⟩ :=
    serveAll_balanced settings search 0 requests (by decide) replies after run
  exact ⟨by decide, replies, after, tally, run, total, queries, misses.trans made,
    usable.symm.trans offers, dropped.trans expirations, held⟩

end Router

end RouteCache
