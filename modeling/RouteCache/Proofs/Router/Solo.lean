import RouteCache.Proofs.Router.Searches
import RouteCache.Proofs.Router.Shards
import RouteCache.Proofs.Router.Transparency

/-!
One cache by itself. `Cache.handleAll` answers queries from a single cache, and from a
function when that cache has no answer. When the results of a search depend on the query
alone, a router does for the queries of one category just what a single cache does that
is given those queries and every expiry. Requests for other categories pass it by, and an
expiry before the first query finds it empty and changes nothing.
-/

namespace RouteCache

namespace Cache

variable {policy : Policy}

/-- Answers a query from one cache, or else by a function whose usable results are offered
to that cache. -/
def resolve (f : Query → Found) (query : Query) (now : Tick) : CacheM policy Router.Answer := do
  match ← lookup query with
  | some memo => return ⟨memo.found, .cache⟩
  | none =>
    if (f query).verdict.isUsable then
      let outcome ← insert ⟨query, f query⟩ now
      return ⟨f query, .search (some outcome)⟩
    else
      return ⟨f query, .search none⟩

def handle (f : Query → Found) : Router.Request → CacheM policy Router.Reply
  | .find query now => return .answered (← resolve f query now)
  | .expire now => return .expired (← expire now)

/-- Handles requests in order, up to the first that faults. -/
def handleAll (f : Query → Found) : List Router.Request → CacheM policy (List Router.Reply)
  | [] => return []
  | request :: requests => do
    let reply ← handle f request
    return reply :: (← handleAll f requests)

theorem handleAll_cons_of_ok {f : Query → Found} {request : Router.Request}
    {requests : List Router.Request} {reply : Router.Reply} {replies : List Router.Reply}
    {cache between after : Cache policy} (handled : handle f request cache = .ok reply between)
    (remaining : handleAll f requests between = .ok replies after) :
    handleAll f (request :: requests) cache = .ok (reply :: replies) after := by
  unfold handleAll
  rw [bind_of_ok handled, bind_of_ok remaining]
  rfl

theorem expire_empty (now : Tick) : expire now (empty : Cache policy) = .ok 0 empty := rfl

end Cache

namespace Search

variable {σ : Type} {search : Search σ} {f : Query → Found}

theorem Computes.found_eq (computes : search.Computes f) {query : Query} {memory after : σ}
    {found : Found} (searched : search query memory = .ok found after) : found = f query := by
  obtain ⟨last, same⟩ := computes query memory
  rw [same] at searched
  cases searched
  rfl

theorem Computes.recorded (computes : search.Computes f) : search.recorded.Computes f := by
  rintro query ⟨record, memory⟩
  obtain ⟨after, same⟩ := computes query memory
  exact ⟨(record ++ [⟨query, f query⟩], after), by simp [Search.recorded, same]⟩

end Search

namespace Router

variable {settings : Settings} {σ : Type} {router after : Router settings σ} {search : Search σ}
  {f : Query → Found} {query : Query} {now : Tick} {answer : Answer}

/-- Whether a request is for a category or for all. -/
def Request.reaches (mover : UInt32) : Request → Bool
  | .find query _ => decide (query.mover = mover)
  | .expire _ => true

def Reply.answer? : Reply → Option Answer
  | .answered answer => some answer
  | .expired _ => none

/-- Whether an answer comes from a search. -/
def Answer.isSearched (answer : Answer) : Bool :=
  match answer.origin with
  | .cache => false
  | .search _ => true

/-- The answers to the queries of a category. -/
def answersFor (mover : UInt32) (requests : List Request) (replies : List Reply) : List Answer :=
  (requests.zip replies).filterMap fun (request, reply) =>
    if request.mover? = some mover then reply.answer? else none

theorem answersFor_cons (mover : UInt32) (request : Request) (requests : List Request)
    (reply : Reply) (replies : List Reply) :
    answersFor mover (request :: requests) (reply :: replies) =
      (if request.mover? = some mover then reply.answer? else none).toList ++
        answersFor mover requests replies := by
  simp only [answersFor, List.zip_cons_cons, List.filterMap_cons]
  split <;> simp_all

/-- The searches for the queries of a category are those of its answers that come from a
search. -/
theorem countP_searches (mover : UInt32) (requests : List Request) (replies : List Reply) :
    (searches requests replies).countP (fun search => decide (search.2.query.mover = mover)) =
      (answersFor mover requests replies).countP (·.isSearched) := by
  unfold searches answersFor
  rw [List.countP_filterMap, List.countP_filterMap]
  congr 1
  funext ⟨request, reply⟩
  cases request with
  | find query now =>
    cases reply with
    | answered answer =>
      obtain ⟨found, origin⟩ := answer
      by_cases same : query.mover = mover <;> cases origin <;>
        simp [Request.search?, Request.mover?, Reply.answer?, Answer.isSearched, same]
    | expired number => simp [Request.search?, Reply.answer?]
  | expire now => cases reply <;> simp [Request.search?, Request.mover?]

/-- What a router does for a query its category's cache does by itself. -/
theorem Finds.resolve (h : Finds search query now router answer after)
    (computes : search.Computes f) :
    Cache.resolve f query now (router.shard query.mover) =
        .ok answer (after.shard query.mover) ∧
      ∀ mover, mover ≠ query.mover → after.shards.get? mover = router.shards.get? mover := by
  unfold Cache.resolve
  cases h with
  | remembered looked =>
    rw [bind_of_ok looked, shard_put]
    exact ⟨rfl, fun mover differs => Shards.get?_put_other _ _ differs⟩
  | unusable looked searched unusable =>
    cases computes.found_eq searched
    rw [bind_of_ok looked, shard_put]
    simp only [unusable, Bool.false_eq_true, if_false]
    exact ⟨rfl, fun mover differs => Shards.get?_put_other _ _ differs⟩
  | offered looked searched usable inserted =>
    cases computes.found_eq searched
    rw [bind_of_ok looked, shard_put]
    simp only [usable, if_true]
    exact ⟨bind_of_ok inserted, fun mover differs => Shards.get?_put_other _ _ differs⟩

/-- A category has counters exactly when it has a cache. -/
theorem report?_eq (router : Router settings σ) (mover : UInt32) :
    router.report? mover =
      if mover ∈ router.shards.map (·.1) then some (router.shard mover).report else none := by
  unfold report? shard
  cases found : router.shards.get? mover with
  | none => simp [Shards.get?_eq_none_iff.mp found]
  | some cache =>
    have member := List.mem_map_of_mem (f := (·.1)) (Shards.mem_of_get? found)
    simp only [if_pos member]
    rfl

/-- An expiry expires the cache of each category, also of one that was never seen. -/
theorem expire_shard {number : Nat}
    (expired : router.shards.expire now = .ok number after.shards) (mover : UInt32) :
    ∃ here, Cache.expire now (router.shard mover) = .ok here (after.shard mover) := by
  have view := Shards.get?_expire expired mover
  unfold shard
  cases before : router.shards.get? mover with
  | none =>
    rw [before] at view
    rw [view]
    exact ⟨0, Cache.expire_empty now⟩
  | some cache =>
    obtain ⟨fine, _, _⟩ := Shards.expire_eq_ok_iff.mp expired
    rw [before, Option.map_some] at view
    rw [view]
    exact ⟨_, Cache.expire_eq_ok (fine _ (Shards.mem_of_get? before))⟩

/-- A run of the router is, for each category, a run of a single cache on the requests
that reach that category. The induction is on the requests: one that does not reach the
category leaves its cache as it was. -/
theorem handleAll_of_serveAll (computes : search.Computes f) {requests : List Request}
    {replies : List Reply} (run : serveAll search requests router = .ok replies after)
    (mover : UInt32) :
    ∃ answers, Cache.handleAll f (requests.filter (·.reaches mover)) (router.shard mover) =
        .ok answers (after.shard mover) ∧
      answers.filterMap (·.answer?) = answersFor mover requests replies := by
  induction requests generalizing router replies with
  | nil =>
    cases run
    exact ⟨[], rfl, rfl⟩
  | cons request requests ih =>
    obtain ⟨reply, between, others, served, remaining, rfl⟩ := of_serveAll_cons run
    obtain ⟨answers, handled, same⟩ := ih remaining
    rw [answersFor_cons, ← same]
    cases request with
    | find query now =>
      obtain ⟨answer, rfl, found⟩ := of_serve_find served
      obtain ⟨resolved, elsewhere⟩ := found.resolve computes
      by_cases here : query.mover = mover
      · subst here
        refine ⟨.answered answer :: answers, ?_, by simp [Request.mover?, Reply.answer?]⟩
        rw [List.filter_cons_of_pos (by simp [Request.reaches])]
        exact Cache.handleAll_cons_of_ok (bind_of_ok resolved) handled
      · refine ⟨answers, ?_, by simp [Request.mover?, here]⟩
        rw [List.filter_cons_of_neg (by simp [Request.reaches, here]),
          ← shard_congr (elsewhere mover fun equal => here equal.symm)]
        exact handled
    | expire now =>
      obtain ⟨number, rfl, expired, _⟩ := of_serve_expire served
      obtain ⟨here, dropped⟩ := expire_shard expired mover
      refine ⟨.expired here :: answers, ?_, by simp [Request.mover?, Reply.answer?]⟩
      rw [List.filter_cons_of_pos rfl]
      exact Cache.handleAll_cons_of_ok (bind_of_ok dropped) handled

end Router

end RouteCache
