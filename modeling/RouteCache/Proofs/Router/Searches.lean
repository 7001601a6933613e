import RouteCache.Proofs.Router.Find

/-!
Which searches a run makes. `Search.recorded` is any search with a record of what it was
asked and what it found, and `Router.searches` reads the same off the requests and the
replies of a run. The two agree, so the origin that an answer names is where it came from.
-/

namespace RouteCache

/-- The same search with a record of its results in its memory, the last one last. -/
def Search.recorded {σ : Type} (search : Search σ) : Search (List Memo × σ) :=
  fun query memory =>
    match search query memory.2 with
    | .ok found inner => .ok found (memory.1 ++ [⟨query, found⟩], inner)
    | .error fault inner => .error fault (memory.1, inner)

namespace Search

variable {σ : Type}

theorem of_recorded {search : Search σ} {query : Query} {found : Found}
    {memory after : List Memo × σ} (h : search.recorded query memory = .ok found after) :
    search query memory.2 = .ok found after.2 ∧ after.1 = memory.1 ++ [⟨query, found⟩] := by
  unfold recorded at h
  split at h
  · rename_i result inner searched
    cases h
    exact ⟨searched, rfl⟩
  · cases h

end Search

namespace Router

variable {settings : Settings} {σ : Type}

/-- The search that a request led to, with the tick of the request. -/
def Request.search? : Request → Reply → Option (Tick × Memo)
  | .find query now, .answered ⟨found, .search _⟩ => some (now, ⟨query, found⟩)
  | _, _ => none

/-- The searches of a run, in the order in which they were made. -/
def searches (requests : List Request) (replies : List Reply) : List (Tick × Memo) :=
  (requests.zip replies).filterMap fun (request, reply) => request.search? reply

theorem searches_cons (request : Request) (requests : List Request) (reply : Reply)
    (replies : List Reply) :
    searches (request :: requests) (reply :: replies) =
      (request.search? reply).toList ++ searches requests replies := by
  simp only [searches, List.zip_cons_cons, List.filterMap_cons]
  cases request.search? reply <;> rfl

theorem searches_append {first second : List Request} {before later : List Reply}
    (paired : before.length = first.length) :
    searches (first ++ second) (before ++ later) =
      searches first before ++ searches second later := by
  unfold searches
  rw [List.zip_append paired.symm, List.filterMap_append]

theorem record_of_serve {search : Search σ} {router after : Router settings (List Memo × σ)}
    {request : Request} {reply : Reply}
    (served : serve search.recorded request router = .ok reply after) :
    after.memory.1 = router.memory.1 ++ (request.search? reply).toList.map (·.2) := by
  cases request with
  | find query now =>
    obtain ⟨answer, rfl, found⟩ := of_serve_find served
    cases found with
    | remembered looked => simp [Request.search?]
    | unusable looked searched unusable =>
      simpa [Request.search?] using (Search.of_recorded searched).2
    | offered looked searched usable inserted =>
      simpa [Request.search?] using (Search.of_recorded searched).2
  | expire now =>
    obtain ⟨number, rfl, _, same⟩ := of_serve_expire served
    simp [Request.search?, same]

/-- The record of a run holds the searches that the replies tell of, and no others. -/
theorem record_of_serveAll {search : Search σ} {router after : Router settings (List Memo × σ)}
    {requests : List Request} {replies : List Reply}
    (run : serveAll search.recorded requests router = .ok replies after) :
    after.memory.1 = router.memory.1 ++ (searches requests replies).map (·.2) := by
  induction requests generalizing router replies with
  | nil =>
    cases run
    simp [searches]
  | cons request requests ih =>
    obtain ⟨reply, between, others, served, remaining, rfl⟩ := of_serveAll_cons run
    rw [ih remaining, record_of_serve served, searches_cons, List.map_append, List.append_assoc]

end Router

end RouteCache
