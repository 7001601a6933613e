import RouteCache.Proofs.Router.Keeps
import RouteCache.Proofs.Router.Transparency

/-!
Where the answers of the caches come from. A lookup does not look at deadlines, so what it
finds may be overdue. But it was found by an earlier search for the very same query, and
every expiry since that search came while the memo still lived. This holds for all runs,
with any search and at any ticks.
-/

namespace RouteCache

namespace Router

variable {settings : Settings} {σ : Type} {router after : Router settings σ} {search : Search σ}
  {history : List (Request × Reply)} {entry : Entry}

/-- A search of the history brought the entry in, and no expiry since then came after its
last tick. -/
def Stems (policy : Policy) (history : List (Request × Reply)) (entry : Entry) : Prop :=
  ∃ before since earlier kept,
    history = before ++ (.find entry.memo.query earlier,
      .answered ⟨entry.memo.found, .search kept⟩) :: since ∧
    entry.last = policy.lastTick earlier ∧
    ∀ tick reply, (.expire tick, reply) ∈ since → tick ≤ entry.last

theorem stems_of_search (policy : Policy) (history : List (Request × Reply)) (query : Query)
    (now : Tick) (found : Found) (kept : Option Outcome) :
    Stems policy (history ++ [(.find query now, .answered ⟨found, .search kept⟩)])
      ⟨policy.place query, ⟨query, found⟩, policy.lastTick now⟩ := by
  refine ⟨history, [], now, kept, rfl, rfl, ?_⟩
  intro tick reply member
  cases member

/-- An entry that a further request leaves in place still stems from the history. -/
theorem Stems.append {policy : Policy} (h : Stems policy history entry) (request : Request)
    (reply : Reply) (current : ∀ now, request = .expire now → now ≤ entry.last) :
    Stems policy (history ++ [(request, reply)]) entry := by
  obtain ⟨before, since, earlier, kept, rfl, last, lived⟩ := h
  refine ⟨before, since ++ [(request, reply)], earlier, kept, by simp, last, ?_⟩
  intro tick other member
  rcases List.mem_append.mp member with old | new
  · exact lived tick other old
  · simp only [List.mem_singleton, Prod.mk.injEq] at new
    exact current tick new.1.symm

theorem stems_of_serveAll {memory : σ} {requests : List Request} {replies : List Reply}
    (run : serveAll search requests ({ memory } : Router settings σ) = .ok replies after) :
    after.Keeps (Stems settings.policy (requests.zip replies)) := by
  have start : ({ memory } : Router settings σ).Keeps (Stems settings.policy []) :=
    keeps_new _ memory
  refine Keeps.serveAll [] start run ?_ ?_
  · intro history request reply entry stems current
    exact stems.append request reply current
  · intro history query now found kept
    exact stems_of_search settings.policy history query now found kept

/-- What a query is told from a cache is what an earlier search for that query found, and
every expiry since then came no later than the last tick of a memo of that search. -/
theorem find_remembered {memory : σ} {past : List Request} {replies : List Reply}
    (run : serveAll search past ({ memory } : Router settings σ) = .ok replies router)
    {query : Query} {now : Tick} {found : Found}
    (answered : find search query now router = .ok ⟨found, .cache⟩ after) :
    ∃ before since earlier kept,
      past.zip replies =
        before ++ (.find query earlier, .answered ⟨found, .search kept⟩) :: since ∧
      ∀ tick reply, (.expire tick, reply) ∈ since → tick ≤ settings.policy.lastTick earlier := by
  cases find_eq_ok_iff.mp answered with
  | remembered looked =>
    obtain ⟨entry, ⟨before, since, earlier, kept, split, last, lived⟩, rfl, rfl⟩ :=
      ((stems_of_serveAll run).shard query.mover).of_lookup (separatesRadii settings) looked
    exact ⟨before, since, earlier, kept, split, fun tick reply member =>
      last ▸ lived tick reply member⟩

end Router

end RouteCache
