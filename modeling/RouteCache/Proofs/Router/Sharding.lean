import RouteCache.Proofs.Router.Solo

/-!
The caches of a router are independent. For each category the answers, the searches and
the counters are those of a single cache that is given the queries of that category and
every expiry, and a category has counters once it has been asked for. So two queries of
different categories that follow each other can change places: no answer differs, and
every category is left with the same cache, although a category that is new may come to
stand in another place.
-/

namespace RouteCache

namespace Router

variable {settings : Settings} {σ : Type} {first second router between after : Router settings σ}
  {search : Search σ} {f : Query → Found}

/-- Two routers with the same cache for each category, listed in whatever order. -/
structure Rearranged (first second : Router settings σ) : Prop where
  distinct : first.shards.Distinct
  distinct' : second.shards.Distinct
  same : ∀ mover, first.shards.get? mover = second.shards.get? mover

theorem Rearranged.put (h : first.Rearranged second) (mover : UInt32)
    (cache : Cache settings.policy) (memory memory' : σ) :
    Rearranged (⟨first.shards.put mover cache, memory⟩ : Router settings σ)
      ⟨second.shards.put mover cache, memory'⟩ := by
  refine ⟨h.distinct.put mover cache, h.distinct'.put mover cache, ?_⟩
  intro other
  by_cases here : other = mover
  · rw [here, Shards.get?_put_self, Shards.get?_put_self]
  · rw [Shards.get?_put_other _ _ here, Shards.get?_put_other _ _ here]
    exact h.same other

/-- A query is answered alike by routers that agree on its category, and replaces the
cache of that category by the same one. -/
theorem Finds.elsewhere {query : Query} {now : Tick} {answer : Answer}
    (h : Finds search query now router answer after) (computes : search.Computes f)
    {other : Router settings σ}
    (same : other.shards.get? query.mover = router.shards.get? query.mover) :
    ∃ cache memory memory', after = ⟨router.shards.put query.mover cache, memory⟩ ∧
      Finds search query now other answer ⟨other.shards.put query.mover cache, memory'⟩ := by
  have view : router.shard query.mover = other.shard query.mover := shard_congr same.symm
  obtain ⟨memory, known⟩ := computes query other.memory
  cases h with
  | remembered looked =>
    rw [view] at looked
    exact ⟨_, _, _, rfl, .remembered looked⟩
  | unusable looked searched unusable =>
    cases computes.found_eq searched
    rw [view] at looked
    exact ⟨_, _, memory, rfl, .unusable looked known unusable⟩
  | offered looked searched usable inserted =>
    cases computes.found_eq searched
    rw [view] at looked
    exact ⟨_, _, memory, rfl, .offered looked known usable inserted⟩

theorem Rearranged.expire (h : first.Rearranged second) {now : Tick} {number : Nat}
    (expired : first.shards.expire now = .ok number after.shards) (memory : σ) :
    ∃ after' : Router settings σ, Router.expire now second = .ok number after' ∧
      Rearranged (⟨after.shards, memory⟩ : Router settings σ) after' := by
  have perm := Shards.perm_of_get? h.distinct h.distinct' h.same
  obtain ⟨fine, total, _⟩ := Shards.expire_eq_ok_iff.mp expired
  obtain ⟨shards, swept⟩ : ∃ shards, second.shards.expire now = .ok number shards := by
    refine ⟨_, Shards.expire_eq_ok_iff.mpr ⟨?_, ?_, rfl⟩⟩
    · intro shard member
      exact fine shard (perm.mem_iff.mpr member)
    · rw [total]
      exact (perm.map _).sum_eq
  refine ⟨{ second with shards }, by simp [Router.expire, swept], ?_, ?_, ?_⟩
  · change (after.shards.map (·.1)).Nodup
    rw [Shards.movers_expire expired]
    exact h.distinct
  · change (shards.map (·.1)).Nodup
    rw [Shards.movers_expire swept]
    exact h.distinct'
  · intro mover
    rw [Shards.get?_expire expired, Shards.get?_expire swept, h.same]

theorem Rearranged.serve (h : first.Rearranged second) (computes : search.Computes f)
    {request : Request} {reply : Reply}
    (served : Router.serve search request first = .ok reply after) :
    ∃ after', Router.serve search request second = .ok reply after' ∧ after.Rearranged after' := by
  cases request with
  | find query now =>
    obtain ⟨answer, rfl, found⟩ := of_serve_find served
    obtain ⟨cache, memory, memory', rfl, found'⟩ := found.elsewhere computes (h.same _).symm
    exact ⟨_, bind_of_ok (find_eq_ok_iff.mpr found'), h.put query.mover cache memory memory'⟩
  | expire now =>
    obtain ⟨number, rfl, expired, _⟩ := of_serve_expire served
    obtain ⟨after', swept, rearranged⟩ := h.expire expired after.memory
    exact ⟨after', bind_of_ok swept, rearranged⟩

theorem Rearranged.serveAll (h : first.Rearranged second) (computes : search.Computes f)
    {requests : List Request} {replies : List Reply}
    (run : Router.serveAll search requests first = .ok replies after) :
    ∃ after', Router.serveAll search requests second = .ok replies after' ∧
      after.Rearranged after' := by
  induction requests generalizing first second replies with
  | nil =>
    cases run
    exact ⟨second, rfl, h⟩
  | cons request requests ih =>
    obtain ⟨reply, between, others, served, remaining, rfl⟩ := of_serveAll_cons run
    obtain ⟨middle, served', rearranged⟩ := h.serve computes served
    obtain ⟨last, remaining', ended⟩ := ih rearranged remaining
    exact ⟨last, serveAll_cons_of_ok served' remaining', ended⟩

/-- Two queries of different categories find the same in either order. -/
theorem Finds.swap {query other : Query} {now later : Tick} {answer reply : Answer}
    (one : Finds search query now router answer between)
    (two : Finds search other later between reply after) (computes : search.Computes f)
    (distinct : router.shards.Distinct) (differ : query.mover ≠ other.mover) :
    ∃ middle last, Finds search other later router reply middle ∧
      Finds search query now middle answer last ∧ after.Rearranged last := by
  have untouched := (one.resolve computes).2 other.mover differ.symm
  obtain ⟨cache, memory, memory', rfl, two'⟩ := two.elsewhere computes untouched.symm
  have unmoved : (⟨router.shards.put other.mover cache, memory'⟩ :
      Router settings σ).shards.get? query.mover = router.shards.get? query.mover :=
    Shards.get?_put_other cache router.shards differ
  obtain ⟨kept, _, _, rfl, one'⟩ := one.elsewhere computes unmoved
  refine ⟨_, _, two', one', (distinct.put _ _).put _ _, (distinct.put _ _).put _ _, ?_⟩
  intro mover
  by_cases here : mover = query.mover
  · rw [here, Shards.get?_put_self, Shards.get?_put_other _ _ differ, Shards.get?_put_self]
  · rw [Shards.get?_put_other _ _ here]
    by_cases there : mover = other.mover
    · rw [there, Shards.get?_put_self, Shards.get?_put_self]
    · rw [Shards.get?_put_other _ _ there, Shards.get?_put_other _ _ there,
        Shards.get?_put_other _ _ here]

/-- In a run of a router two queries of different categories that follow each other can
change places. -/
theorem serveAll_swap {start : Router settings σ} (distinct : start.shards.Distinct)
    (computes : search.Computes f) {past future : List Request} {query other : Query}
    {now later : Tick} (differ : query.mover ≠ other.mover) {replies : List Reply}
    (run : serveAll search (past ++ .find query now :: .find other later :: future) start =
      .ok replies after) :
    ∃ before answer reply rest last, before.length = past.length ∧
      replies = before ++ answer :: reply :: rest ∧
      serveAll search (past ++ .find other later :: .find query now :: future) start =
        .ok (before ++ reply :: answer :: rest) last ∧
      ∀ mover, last.shards.get? mover = after.shards.get? mover := by
  obtain ⟨before, router, _, earlier, both, rfl⟩ := of_serveAll_append run
  obtain ⟨_, between, _, served, second, rfl⟩ := of_serveAll_cons both
  obtain ⟨_, _, rest, served', remaining, rfl⟩ := of_serveAll_cons second
  obtain ⟨answer, rfl, one⟩ := of_serve_find served
  obtain ⟨reply, rfl, two⟩ := of_serve_find served'
  obtain ⟨middle, last, two', one', rearranged⟩ :=
    one.swap two computes (distinct_of_serveAll distinct earlier) differ
  obtain ⟨final, remaining', ended⟩ := rearranged.serveAll computes remaining
  refine ⟨before, .answered answer, .answered reply, rest, final, length_of_serveAll earlier, rfl,
    serveAll_append_of_ok earlier ?_, fun mover => (ended.same mover).symm⟩
  exact serveAll_cons_of_ok (bind_of_ok (find_eq_ok_iff.mpr two'))
    (serveAll_cons_of_ok (bind_of_ok (find_eq_ok_iff.mpr one')) remaining')

/-- A new router with a search whose results depend on the query alone, whose queries come
at ticks that do not go back. Its run does not fault. For each category a single cache,
given the queries of that category and every expiry, does not fault either and gives the
same answers; the searches recorded for the category are as many as that cache asked for;
and the counters of the category are those of that cache, once the category has been asked
for. A run is any, so all of this holds after each of its requests. Two queries of different
categories that follow each other can change places, without a change to any reply or to
the cache of any category. -/
theorem serveAll_sharded (settings : Settings) (search : Search σ) (f : Query → Found)
    (computes : search.Computes f) (memory : σ) (requests : List Request)
    (short : requests.length < UInt64.size)
    (ordered : (requests.filterMap Request.findTick?).Pairwise (· ≤ ·)) :
    ∃ replies after,
      serveAll search.recorded requests
          ({ memory := ([], memory) } : Router settings (List Memo × σ)) = .ok replies after ∧
      (∀ mover, ∃ answers cache,
        Cache.handleAll f (requests.filter (·.reaches mover))
            (Cache.empty : Cache settings.policy) = .ok answers cache ∧
          answersFor mover requests replies = answers.filterMap (·.answer?) ∧
          after.memory.1.countP (fun memo => decide (memo.query.mover = mover)) =
            (answers.filterMap (·.answer?)).countP (·.isSearched) ∧
          after.report? mover =
            if mover ∈ requests.filterMap Request.mover? then some cache.report else none) ∧
      ∀ past query now other later future,
        requests = past ++ .find query now :: .find other later :: future →
          query.mover ≠ other.mover →
          ∃ before answer reply rest last, before.length = past.length ∧
            replies = before ++ answer :: reply :: rest ∧
            serveAll search.recorded (past ++ .find other later :: .find query now :: future)
                ({ memory := ([], memory) } : Router settings (List Memo × σ)) =
              .ok (before ++ reply :: answer :: rest) last ∧
            ∀ mover, last.shards.get? mover = after.shards.get? mover := by
  have start : ({ memory := ([], memory) } : Router settings (List Memo × σ)).Faithful f 0 0 := by
    intro shard member
    cases member
  have distinct : ({ memory := ([], memory) } :
      Router settings (List Memo × σ)).shards.Distinct := List.nodup_nil
  obtain ⟨replies, after, run, _⟩ := start.serveAll computes.recorded (by omega)
    (List.pairwise_cons.mpr ⟨fun tick _ => UInt64.le_iff_toNat_le.mpr (Nat.zero_le _), ordered⟩)
  refine ⟨replies, after, run, ?_, ?_⟩
  · intro mover
    obtain ⟨answers, handled, same⟩ := handleAll_of_serveAll computes.recorded run mover
    refine ⟨answers, after.shard mover, handled, same.symm, ?_, ?_⟩
    · have counted := countP_searches mover requests replies
      rw [same, ← counted, record_of_serveAll run, List.nil_append, List.countP_map]
      rfl
    · rw [report?_eq]
      simp only [mem_movers_of_serveAll run mover, List.map_nil, List.not_mem_nil, false_or]
  · rintro past query now other later future rfl differ
    exact serveAll_swap distinct computes.recorded differ run

/-- A category is asked for between two queries of another one, and after an expiry that
its cache has not seen. -/
theorem serveAll_sharded_two_categories :
    let f : Query → Found := fun query => ⟨{ radius := query.radius }, .reached⟩
    let query := eastward 5
    let other : Query := { eastward 5 with mover := 2 }
    let requests : List Request :=
      [.find query 1, .expire 2, .find query 3, .find other 3, .find other 4, .expire 214]
    let swapped : List Request :=
      [.find query 1, .expire 2, .find other 3, .find query 3, .find other 4, .expire 214]
    let start : Router {} (List Memo × Unit) := { memory := ([], ()) }
    (requests.filterMap Request.findTick?).Pairwise (· ≤ ·) ∧
      ∃ after, serveAll (Search.ofFunction f).recorded requests start =
          .ok [.answered ⟨f query, .search (some .stored)⟩, .expired 0,
            .answered ⟨f query, .cache⟩, .answered ⟨f other, .search (some .stored)⟩,
            .answered ⟨f other, .cache⟩, .expired 2] after ∧
        after.report? 3 = none ∧
        (∃ answers cache,
          Cache.handleAll f [.expire 2, .find other 3, .find other 4, .expire 214]
              (Cache.empty : Cache (Settings.policy {})) = .ok answers cache ∧
            after.report? 2 = some cache.report) ∧
        ∃ replies last, serveAll (Search.ofFunction f).recorded swapped start = .ok replies last ∧
          ∀ mover, last.shards.get? mover = after.shards.get? mover := by
  intro f query other requests swapped start
  have ordered : (requests.filterMap Request.findTick?).Pairwise (· ≤ ·) := by decide
  have run : answer? (serveAll (Search.ofFunction f).recorded requests start) =
      some [.answered ⟨f query, .search (some .stored)⟩, .expired 0,
        .answered ⟨f query, .cache⟩, .answered ⟨f other, .search (some .stored)⟩,
        .answered ⟨f other, .cache⟩, .expired 2] := by
    decide +kernel
  obtain ⟨after, ended⟩ := answer?_eq_some_iff.mp run
  obtain ⟨_, _, served, alone, swaps⟩ := serveAll_sharded {} (Search.ofFunction f) f
    (fun query memory => ⟨memory, rfl⟩) () requests (by decide) ordered
  rw [ended] at served
  cases served
  obtain ⟨_, _, _, _, _, unseen⟩ := alone 3
  obtain ⟨answers, cache, handled, _, _, seen⟩ := alone 2
  obtain ⟨_, _, _, _, last, _, _, exchanged, same⟩ :=
    swaps [.find query 1, .expire 2] query 3 other 3 [.find other 4, .expire 214] rfl (by decide)
  exact ⟨ordered, after, ended, unseen, ⟨answers, cache, handled, seen⟩, _, last, exchanged, same⟩

end Router

end RouteCache
