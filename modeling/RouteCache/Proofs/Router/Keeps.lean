import RouteCache.Proofs.Cache.Keeps
import RouteCache.Proofs.Router.Shards

/-!
A property of all entries of all caches of a router. Only searches bring in entries, so it
is enough to look at those, whatever the searches are and at whatever ticks. The property
may speak of the run so far, and then an entry that stays has to keep it as the run goes
on. After an expiry only those entries are left whose last tick has not passed.
-/

namespace RouteCache

variable {P Q : Entry → Prop}

namespace Router

variable {settings : Settings} {σ : Type} {router after : Router settings σ} {search : Search σ}
  {now : Tick}

/-- Every entry of every cache has a property. -/
def Keeps (P : Entry → Prop) (router : Router settings σ) : Prop :=
  ∀ shard ∈ router.shards, shard.2.Keeps P

theorem keeps_new (P : Entry → Prop) (memory : σ) :
    ({ memory } : Router settings σ).Keeps P := by
  intro shard member
  cases member

theorem Keeps.mono (h : router.Keeps P) (weaker : ∀ entry, P entry → Q entry) :
    router.Keeps Q :=
  fun shard member => (h shard member).mono weaker

theorem Keeps.shard (h : router.Keeps P) (mover : UInt32) : (router.shard mover).Keeps P := by
  rcases router.shard_mem_or_empty mover with member | blank
  · exact h _ member
  · rw [blank]
    exact Cache.keeps_empty P

theorem Keeps.put (h : router.Keeps P) (mover : UInt32) {cache : Cache settings.policy}
    (kept : cache.Keeps P) (memory : σ) :
    Keeps P (⟨router.shards.put mover cache, memory⟩ : Router settings σ) := by
  intro shard member
  rcases Shards.mem_of_mem_put member with old | new
  · exact h shard old
  · rw [new]
    exact kept

/-- A query brings in no entry unless it is searched, and then none but that of the search. -/
theorem Keeps.find (h : router.Keeps P) {query : Query} {answer : Answer}
    (found : Finds search query now router answer after)
    (new : ∀ kept, answer.origin = .search kept →
      P ⟨settings.policy.place query, ⟨query, answer.found⟩, settings.policy.lastTick now⟩) :
    after.Keeps P := by
  have here := h.shard query.mover
  cases found with
  | remembered looked => exact h.put query.mover (here.lookup looked) router.memory
  | unusable looked searched unusable => exact h.put query.mover (here.lookup looked) _
  | offered looked searched usable inserted =>
    exact h.put query.mover ((here.lookup looked).insert inserted (new _ rfl)) _

theorem Keeps.expire (h : router.Keeps P) {number : Nat}
    (expired : router.shards.expire now = .ok number after.shards) :
    after.Keeps fun entry => P entry ∧ now ≤ entry.last := by
  rintro ⟨mover, cache⟩ member
  obtain ⟨before, there, dropped⟩ := Shards.of_mem_expire expired member
  exact (h _ there).expire dropped

theorem Keeps.serve (h : router.Keeps P) {request : Request} {reply : Reply}
    (served : Router.serve search request router = .ok reply after)
    (old : ∀ entry, P entry → (∀ now, request = .expire now → now ≤ entry.last) → Q entry)
    (new : ∀ query now found kept, request = .find query now →
      reply = .answered ⟨found, .search kept⟩ →
        Q ⟨settings.policy.place query, ⟨query, found⟩, settings.policy.lastTick now⟩) :
    after.Keeps Q := by
  cases request with
  | find query now =>
    obtain ⟨⟨found, origin⟩, rfl, answered⟩ := of_serve_find served
    have weaker : router.Keeps Q := h.mono fun entry had => old entry had (by simp)
    refine weaker.find answered ?_
    rintro kept rfl
    exact new query now found kept rfl rfl
  | expire now =>
    obtain ⟨number, rfl, expired, _⟩ := of_serve_expire served
    refine (h.expire expired).mono ?_
    rintro entry ⟨had, current⟩
    refine old entry had ?_
    intro tick same
    cases same
    exact current

/-- A property that speaks of the history of the run, along a run. The induction is on the
requests, each of which joins the history with its reply. -/
theorem Keeps.serveAll {P : List (Request × Reply) → Entry → Prop}
    (history : List (Request × Reply)) (h : router.Keeps (P history)) {requests : List Request}
    {replies : List Reply} (run : Router.serveAll search requests router = .ok replies after)
    (old : ∀ history request reply entry, P history entry →
      (∀ now, request = .expire now → now ≤ entry.last) → P (history ++ [(request, reply)]) entry)
    (new : ∀ history query now found kept,
      P (history ++ [(.find query now, .answered ⟨found, .search kept⟩)])
        ⟨settings.policy.place query, ⟨query, found⟩, settings.policy.lastTick now⟩) :
    after.Keeps (P (history ++ requests.zip replies)) := by
  induction requests generalizing router history replies with
  | nil =>
    cases run
    rw [List.zip_nil_left, List.append_nil]
    exact h
  | cons request requests ih =>
    obtain ⟨reply, between, others, served, remaining, rfl⟩ := of_serveAll_cons run
    have step : between.Keeps (P (history ++ [(request, reply)])) := by
      refine h.serve served (old history request reply) ?_
      rintro query now found kept rfl rfl
      exact new history query now found kept
    rw [List.zip_cons_cons, ← List.singleton_append, ← List.append_assoc]
    exact ih _ step remaining

end Router

end RouteCache
