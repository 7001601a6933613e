import RouteCache.Proofs.Sequence
import RouteCache.Router.Basic

/-!
What a router does for one query, by the three ways in which it can go: the cache of
the category has an answer, a search brings nothing usable, or a search is offered to
that cache. All three touch the cache of one category only. `Router.Finds` lists them,
and a query that does not fault goes one of these ways.
-/

namespace RouteCache

namespace Shards

variable {policy : Policy} {shards : Shards policy}

theorem mem_of_get? {mover : UInt32} {cache : Cache policy}
    (found : shards.get? mover = some cache) : (mover, cache) ∈ shards := by
  induction shards with
  | nil => cases found
  | cons head rest ih =>
    obtain ⟨other, present⟩ := head
    unfold get? at found
    split at found
    · rename_i same
      cases found
      rw [same]
      exact List.mem_cons_self
    · exact List.mem_cons_of_mem _ (ih found)

theorem mem_of_mem_put {mover : UInt32} {cache : Cache policy} {shard : UInt32 × Cache policy}
    (member : shard ∈ shards.put mover cache) : shard ∈ shards ∨ shard = (mover, cache) := by
  induction shards with
  | nil => exact Or.inr (List.mem_singleton.mp member)
  | cons head rest ih =>
    obtain ⟨other, present⟩ := head
    unfold put at member
    split at member
    · rename_i same
      rw [same] at member
      rcases List.mem_cons.mp member with new | old
      · exact Or.inr new
      · exact Or.inl (List.mem_cons_of_mem _ old)
    · rcases List.mem_cons.mp member with first | later
      · exact Or.inl (List.mem_cons.mpr (Or.inl first))
      · rcases ih later with old | new
        · exact Or.inl (List.mem_cons_of_mem _ old)
        · exact Or.inr new

/-- Only the last cache put for a category counts. -/
theorem put_put (mover : UInt32) (first second : Cache policy) :
    (shards.put mover first).put mover second = shards.put mover second := by
  induction shards with
  | nil => simp [put]
  | cons head rest ih =>
    obtain ⟨other, present⟩ := head
    by_cases same : other = mover
    · simp [put, same]
    · simp [put, same, ih]

end Shards

namespace Router

variable {settings : Settings} {σ α : Type} {router : Router settings σ}

theorem shard_congr {other : Router settings σ} {mover : UInt32}
    (same : router.shards.get? mover = other.shards.get? mover) :
    router.shard mover = other.shard mover := by
  unfold shard
  rw [same]

/-- The cache of a category is one of the router, or else it is empty. -/
theorem shard_mem_or_empty (router : Router settings σ) (mover : UInt32) :
    (mover, router.shard mover) ∈ router.shards ∨ router.shard mover = Cache.empty := by
  unfold shard
  cases present : router.shards.get? mover with
  | some cache => exact .inl (Shards.mem_of_get? present)
  | none => exact .inr rfl

theorem shard_put (router : Router settings σ) (mover : UInt32) (cache : Cache settings.policy)
    (memory : σ) :
    ({ shards := router.shards.put mover cache, memory } : Router settings σ).shard mover =
      cache := by
  unfold shard
  rw [Shards.get?_put_self]
  rfl

theorem onShard_eq_ok {mover : UInt32} {use : CacheM settings.policy α} {result : α}
    {cache : Cache settings.policy} (used : use (router.shard mover) = .ok result cache) :
    onShard mover use router =
      .ok result { router with shards := router.shards.put mover cache } := by
  unfold onShard
  rw [used]

theorem consult_eq_ok {search : Search σ} {query : Query} {found : Found} {memory : σ}
    (searched : search query router.memory = .ok found memory) :
    consult search query router = .ok found { router with memory } := by
  unfold consult
  rw [searched]

theorem find_of_memo (search : Search σ) {query : Query} (now : Tick) {memo : Memo}
    {cache : Cache settings.policy}
    (looked : Cache.lookup query (router.shard query.mover) = .ok (some memo) cache) :
    find search query now router =
      .ok ⟨memo.found, .cache⟩ { router with shards := router.shards.put query.mover cache } := by
  unfold find
  rw [bind_of_ok (onShard_eq_ok looked)]
  rfl

/-- A search brings nothing that is worth keeping. -/
theorem find_of_unusable (search : Search σ) {query : Query} (now : Tick) {found : Found}
    {memory : σ} {cache : Cache settings.policy}
    (looked : Cache.lookup query (router.shard query.mover) = .ok none cache)
    (searched : search query router.memory = .ok found memory)
    (unusable : found.verdict.isUsable = false) :
    find search query now router =
      .ok ⟨found, .search none⟩ ⟨router.shards.put query.mover cache, memory⟩ := by
  have consulted : consult search query ⟨router.shards.put query.mover cache, router.memory⟩ =
      .ok found ⟨router.shards.put query.mover cache, memory⟩ := consult_eq_ok searched
  unfold find
  rw [bind_of_ok (onShard_eq_ok looked)]
  dsimp only
  rw [bind_of_ok consulted, unusable]
  rfl

/-- A search that succeeds is offered to the cache, and answers all the same. -/
theorem find_of_usable (search : Search σ) {query : Query} (now : Tick) {found : Found}
    {memory : σ} {cache after : Cache settings.policy} {outcome : Outcome}
    (looked : Cache.lookup query (router.shard query.mover) = .ok none cache)
    (searched : search query router.memory = .ok found memory)
    (usable : found.verdict.isUsable = true)
    (inserted : Cache.insert ⟨query, found⟩ now cache = .ok outcome after) :
    find search query now router =
      .ok ⟨found, .search (some outcome)⟩ ⟨router.shards.put query.mover after, memory⟩ := by
  have consulted : consult search query ⟨router.shards.put query.mover cache, router.memory⟩ =
      .ok found ⟨router.shards.put query.mover cache, memory⟩ := consult_eq_ok searched
  rw [← shard_put router query.mover cache memory] at inserted
  have kept := onShard_eq_ok inserted
  rw [Shards.put_put] at kept
  unfold find
  rw [bind_of_ok (onShard_eq_ok looked)]
  dsimp only
  rw [bind_of_ok consulted, usable, if_pos rfl, bind_of_ok kept]
  rfl

/-- The ways in which a query can be answered: by a memo, by a search that brings nothing
usable, or by a search whose result is offered to the cache. -/
inductive Finds (search : Search σ) (query : Query) (now : Tick) (router : Router settings σ) :
    Answer → Router settings σ → Prop where
  | remembered {memo : Memo} {cache : Cache settings.policy}
      (looked : Cache.lookup query (router.shard query.mover) = .ok (some memo) cache) :
      Finds search query now router ⟨memo.found, .cache⟩
        { router with shards := router.shards.put query.mover cache }
  | unusable {found : Found} {memory : σ} {cache : Cache settings.policy}
      (looked : Cache.lookup query (router.shard query.mover) = .ok none cache)
      (searched : search query router.memory = .ok found memory)
      (unusable : found.verdict.isUsable = false) :
      Finds search query now router ⟨found, .search none⟩
        ⟨router.shards.put query.mover cache, memory⟩
  | offered {found : Found} {memory : σ} {cache after : Cache settings.policy}
      {outcome : Outcome}
      (looked : Cache.lookup query (router.shard query.mover) = .ok none cache)
      (searched : search query router.memory = .ok found memory)
      (usable : found.verdict.isUsable = true)
      (inserted : Cache.insert ⟨query, found⟩ now cache = .ok outcome after) :
      Finds search query now router ⟨found, .search (some outcome)⟩
        ⟨router.shards.put query.mover after, memory⟩

theorem of_onShard {mover : UInt32} {use : CacheM settings.policy α} {result : α}
    {after : Router settings σ} (h : onShard mover use router = .ok result after) :
    ∃ cache, use (router.shard mover) = .ok result cache ∧
      after = { router with shards := router.shards.put mover cache } := by
  unfold onShard at h
  split at h
  · rename_i answer cache used
    cases h
    exact ⟨cache, used, rfl⟩
  · cases h

theorem of_consult {search : Search σ} {query : Query} {found : Found}
    {after : Router settings σ} (h : consult search query router = .ok found after) :
    ∃ memory, search query router.memory = .ok found memory ∧ after = { router with memory } := by
  unfold consult at h
  split at h
  · rename_i answer memory searched
    cases h
    exact ⟨memory, searched, rfl⟩
  · cases h

/-- A query is answered in one of the three ways, and in each of them it is answered. -/
theorem find_eq_ok_iff {search : Search σ} {query : Query} {now : Tick} {answer : Answer}
    {after : Router settings σ} :
    find search query now router = .ok answer after ↔
      Finds search query now router answer after := by
  constructor
  · intro h
    obtain ⟨result, between, used, rest⟩ := bind_eq_ok_iff.mp h
    obtain ⟨cache, looked, rfl⟩ := of_onShard used
    cases result with
    | some memo =>
      cases rest
      exact .remembered looked
    | none =>
      obtain ⟨found, _, consulted, rest⟩ := bind_eq_ok_iff.mp rest
      obtain ⟨memory, searched, rfl⟩ := of_consult consulted
      split at rest
      · rename_i usable
        obtain ⟨outcome, _, offered, finished⟩ := bind_eq_ok_iff.mp rest
        obtain ⟨last, inserted, rfl⟩ := of_onShard offered
        cases finished
        rw [shard_put] at inserted
        rw [Shards.put_put]
        exact .offered looked searched usable inserted
      · rename_i usable
        cases rest
        exact .unusable looked searched (Bool.eq_false_iff.mpr usable)
  · intro h
    cases h with
    | remembered looked => exact find_of_memo search now looked
    | unusable looked searched unusable => exact find_of_unusable search now looked searched unusable
    | offered looked searched usable inserted =>
      exact find_of_usable search now looked searched usable inserted

theorem serveAll_cons_of_ok {search : Search σ} {request : Request} {requests : List Request}
    {reply : Reply} {replies : List Reply} {between after : Router settings σ}
    (served : serve search request router = .ok reply between)
    (remaining : serveAll search requests between = .ok replies after) :
    serveAll search (request :: requests) router = .ok (reply :: replies) after := by
  unfold serveAll
  rw [bind_of_ok served, bind_of_ok remaining]
  rfl

/-- A run that did not fault served its first request and then the others. -/
theorem of_serveAll_cons {search : Search σ} {request : Request} {requests : List Request}
    {replies : List Reply} {after : Router settings σ}
    (run : serveAll search (request :: requests) router = .ok replies after) :
    ∃ reply between others, serve search request router = .ok reply between ∧
      serveAll search requests between = .ok others after ∧ replies = reply :: others := by
  unfold serveAll at run
  obtain ⟨reply, between, served, rest⟩ := bind_eq_ok_iff.mp run
  obtain ⟨others, last, remaining, finished⟩ := bind_eq_ok_iff.mp rest
  cases finished
  exact ⟨reply, between, others, served, remaining, rfl⟩

theorem of_serveAll_append {search : Search σ} {past future : List Request}
    {replies : List Reply} {after : Router settings σ}
    (run : serveAll search (past ++ future) router = .ok replies after) :
    ∃ before between later, serveAll search past router = .ok before between ∧
      serveAll search future between = .ok later after ∧ replies = before ++ later := by
  induction past generalizing router replies with
  | nil => exact ⟨[], router, replies, rfl, run, rfl⟩
  | cons request past ih =>
    obtain ⟨reply, between, others, served, remaining, rfl⟩ := of_serveAll_cons run
    obtain ⟨before, middle, later, earlier, last, rfl⟩ := ih remaining
    exact ⟨reply :: before, middle, later, serveAll_cons_of_ok served earlier, last, rfl⟩

theorem serveAll_append_of_ok {search : Search σ} {past future : List Request}
    {before later : List Reply} {between after : Router settings σ}
    (earlier : serveAll search past router = .ok before between)
    (last : serveAll search future between = .ok later after) :
    serveAll search (past ++ future) router = .ok (before ++ later) after := by
  induction past generalizing router before with
  | nil =>
    cases earlier
    exact last
  | cons request past ih =>
    obtain ⟨reply, middle, others, served, remaining, rfl⟩ := of_serveAll_cons earlier
    exact serveAll_cons_of_ok served (ih remaining)

theorem length_of_serveAll {search : Search σ} {requests : List Request} {replies : List Reply}
    {after : Router settings σ} (run : serveAll search requests router = .ok replies after) :
    replies.length = requests.length := by
  induction requests generalizing router replies with
  | nil =>
    cases run
    rfl
  | cons request requests ih =>
    obtain ⟨reply, between, others, _, remaining, rfl⟩ := of_serveAll_cons run
    rw [List.length_cons, List.length_cons, ih remaining]

theorem of_serve_find {search : Search σ} {query : Query} {now : Tick} {reply : Reply}
    {after : Router settings σ} (served : serve search (.find query now) router = .ok reply after) :
    ∃ answer, reply = .answered answer ∧ Finds search query now router answer after := by
  obtain ⟨answer, _, answered, finished⟩ := bind_eq_ok_iff.mp served
  cases finished
  exact ⟨answer, rfl, find_eq_ok_iff.mp answered⟩

theorem of_serve_expire {search : Search σ} {now : Tick} {reply : Reply}
    {after : Router settings σ} (served : serve search (.expire now) router = .ok reply after) :
    ∃ number, reply = .expired number ∧
      router.shards.expire now = .ok number after.shards ∧ after.memory = router.memory := by
  obtain ⟨number, _, expired, finished⟩ := bind_eq_ok_iff.mp served
  cases finished
  unfold expire at expired
  split at expired
  · rename_i dropped shards ended
    cases expired
    exact ⟨number, rfl, ended, rfl⟩
  · cases expired

end Router

end RouteCache
