import RouteCache.Proofs.Router.Provenance
import RouteCache.Proofs.Router.Searches

/-!
How old an answer of a cache can be. A loop goes from tick to tick, and at each one it asks
its queries and expires memos once. Between a search and a later query there is an expiry
at every tick, and each of them was survived by the memo that answers. So the age of an
answer is at most the lifetime, and one tick more if the queries of a tick come before its
expiry, because the expiry that would drop the memo has then not come yet.
-/

namespace RouteCache

/-- What lies strictly between two elements in a sorted list stands between them. -/
theorem mem_of_between {α : Type} {key : α → Nat} {before since future : List α} {a b x : α}
    (sorted : (before ++ a :: (since ++ b :: future)).Pairwise (key · ≤ key ·))
    (member : x ∈ before ++ a :: (since ++ b :: future)) (above : key a < key x)
    (below : key x < key b) : x ∈ since := by
  obtain ⟨_, rest, ahead⟩ := List.pairwise_append.mp sorted
  obtain ⟨_, rest⟩ := List.pairwise_cons.mp rest
  obtain ⟨_, rest, _⟩ := List.pairwise_append.mp rest
  obtain ⟨behind, _⟩ := List.pairwise_cons.mp rest
  simp only [List.mem_append, List.mem_cons] at member
  rcases member with first | rfl | between | rfl | last
  · have order := ahead x first a List.mem_cons_self
    omega
  · omega
  · exact between
  · omega
  · have order := behind x last
    omega

/-! Counting up from a tick, as long as the number fits. -/

theorem toNat_add_ofNat {tick : Tick} {number : Nat} (fits : tick.toNat + number < UInt64.size) :
    (tick + UInt64.ofNat number).toNat = tick.toNat + number := by
  rw [UInt64.toNat_add, UInt64.toNat_ofNat_of_lt' (by omega)]
  exact Nat.mod_eq_of_lt fits

theorem toNat_add_one {tick : Tick} (small : tick.toNat + 1 < UInt64.size) :
    (tick + 1).toNat = tick.toNat + 1 := by
  rw [UInt64.toNat_add, UInt64.toNat_one]
  exact Nat.mod_eq_of_lt small

namespace Router

variable {settings : Settings} {σ : Type} {early : Bool} {now : Tick} {request : Request}

/-- The requests of one tick: its queries, and an expiry after them or, in a loop that
expires early, before them. -/
def round (early : Bool) (now : Tick) (queries : List Query) : List Request :=
  if early then .expire now :: queries.map (.find · now)
  else queries.map (.find · now) ++ [.expire now]

/-- The requests of a loop, with the queries of each tick. -/
def rounds (early : Bool) : Tick → List (List Query) → List Request
  | _, [] => []
  | now, queries :: others => round early now queries ++ rounds early (now + 1) others

/-- The place of a request in the course of a loop: each tick has a first half and a
second one. -/
def Request.moment (early : Bool) : Request → Nat
  | .find _ now => 2 * now.toNat + if early then 1 else 0
  | .expire now => 2 * now.toNat + if early then 0 else 1

theorem mem_round_iff {queries : List Query} :
    request ∈ round early now queries ↔
      request = .expire now ∨ ∃ query ∈ queries, .find query now = request := by
  unfold round
  split <;> simp [or_comm]

theorem moment_of_mem_round {queries : List Query} (member : request ∈ round early now queries) :
    2 * now.toNat ≤ request.moment early ∧ request.moment early ≤ 2 * now.toNat + 1 := by
  rcases mem_round_iff.mp member with rfl | ⟨query, _, rfl⟩ <;>
  · unfold Request.moment
    dsimp only
    split <;> omega

theorem round_sorted (early : Bool) (now : Tick) (queries : List Query) :
    (round early now queries).Pairwise (·.moment early ≤ ·.moment early) := by
  unfold round
  cases early <;> simp [List.pairwise_append, List.pairwise_map, Request.moment,
    List.pairwise_of_forall]

/-! ### The course of a loop -/

variable {first : Tick} {queries : List Query} {others ticks : List (List Query)}

/-- Unless a tick is the last one of a loop that fits, the next tick is one more. -/
theorem toNat_next (fits : now.toNat + (others.length + 1) ≤ UInt64.size) (more : others ≠ []) :
    (now + 1).toNat = now.toNat + 1 := by
  have positive := List.length_pos_iff.mpr more
  exact toNat_add_one (by omega)

theorem moment_of_mem_rounds (fits : first.toNat + ticks.length ≤ UInt64.size)
    (member : request ∈ rounds early first ticks) :
    2 * first.toNat ≤ request.moment early ∧
      request.moment early < 2 * (first.toNat + ticks.length) := by
  induction ticks generalizing first with
  | nil => cases member
  | cons queries others ih =>
    rw [List.length_cons] at fits ⊢
    rcases List.mem_append.mp member with here | later
    · obtain ⟨low, high⟩ := moment_of_mem_round here
      omega
    · have next := toNat_next fits (by rintro rfl; cases later)
      obtain ⟨low, high⟩ := ih (by omega) later
      omega

theorem rounds_sorted (fits : first.toNat + ticks.length ≤ UInt64.size) :
    (rounds early first ticks).Pairwise (·.moment early ≤ ·.moment early) := by
  induction ticks generalizing first with
  | nil => exact List.Pairwise.nil
  | cons queries others ih =>
    rw [List.length_cons] at fits
    unfold rounds
    cases others with
    | nil =>
      unfold rounds
      rw [List.append_nil]
      exact round_sorted early first queries
    | cons second rest =>
      have next := toNat_next fits (by simp)
      have fits' : (first + 1).toNat + (second :: rest).length ≤ UInt64.size := by omega
      refine List.pairwise_append.mpr ⟨round_sorted early first queries, ih fits', ?_⟩
      intro one here other later
      have high := (moment_of_mem_round here).2
      have low := (moment_of_mem_rounds fits' later).1
      omega

/-- A loop expires at every one of its ticks. -/
theorem expire_mem_rounds {tick : Tick} (fits : first.toNat + ticks.length ≤ UInt64.size)
    (low : first.toNat ≤ tick.toNat) (high : tick.toNat < first.toNat + ticks.length) :
    .expire tick ∈ rounds early first ticks := by
  induction ticks generalizing first with
  | nil =>
    rw [List.length_nil] at high
    omega
  | cons queries others ih =>
    rw [List.length_cons] at fits high
    unfold rounds
    rw [List.mem_append]
    by_cases here : first = tick
    · left
      exact mem_round_iff.mpr (.inl (congrArg Request.expire here.symm))
    · right
      have differ : first.toNat ≠ tick.toNat := fun same => here (UInt64.toNat_inj.mp same)
      have next := toNat_next fits (by rintro rfl; rw [List.length_nil] at high; omega)
      exact ih (by omega) (by omega) (by omega)

/-- From a query to one at a later tick a loop has expired at the tick before the later one
or, if it expires early, at that tick itself. -/
theorem expire_between {before since future : List Request} {query other : Query}
    {earlier now : Tick} (fits : first.toNat + ticks.length ≤ UInt64.size)
    (split : rounds early first ticks =
      before ++ .find other earlier :: (since ++ .find query now :: future)) :
    earlier ≤ now ∧ (earlier < now →
      ∃ tick, .expire tick ∈ since ∧ now.toNat ≤ tick.toNat + if early then 0 else 1) := by
  have sorted : (rounds early first ticks).Pairwise _ := rounds_sorted fits
  have search : .find other earlier ∈ rounds early first ticks := by simp [split]
  have answer : .find query now ∈ rounds early first ticks := by simp [split]
  obtain ⟨start, _⟩ := moment_of_mem_rounds fits search
  obtain ⟨_, stop⟩ := moment_of_mem_rounds fits answer
  rw [split] at sorted
  obtain ⟨_, rest, _⟩ := List.pairwise_append.mp sorted
  have order := (List.pairwise_cons.mp rest).1 (.find query now) (by simp)
  have expired (tick : Tick) (low : first.toNat ≤ tick.toNat)
      (high : tick.toNat < first.toNat + ticks.length)
      (above : (Request.find other earlier).moment early < (Request.expire tick).moment early)
      (below : (Request.expire tick).moment early < (Request.find query now).moment early) :
      .expire tick ∈ since := by
    have member : .expire tick ∈ rounds early first ticks := expire_mem_rounds fits low high
    rw [split] at member
    exact mem_of_between sorted member above below
  simp only [Request.moment] at start stop order expired
  cases early with
  | true =>
    simp only [if_true] at start stop order expired ⊢
    refine ⟨UInt64.le_iff_toNat_le.mpr (by omega), ?_⟩
    intro later
    rw [UInt64.lt_iff_toNat_lt] at later
    exact ⟨now, expired now (by omega) (by omega) (by omega) (by omega), by omega⟩
  | false =>
    simp only [Bool.false_eq_true, if_false] at start stop order expired ⊢
    refine ⟨UInt64.le_iff_toNat_le.mpr (by omega), ?_⟩
    intro later
    rw [UInt64.lt_iff_toNat_lt] at later
    have previous : (now - 1).toNat = now.toNat - 1 := by
      apply UInt64.toNat_sub_of_le
      rw [UInt64.le_iff_toNat_le, UInt64.toNat_one]
      omega
    exact ⟨now - 1, expired (now - 1) (by omega) (by omega) (by omega) (by omega), by omega⟩

/-- A new router, with any settings and any search, in a loop over ticks that follow each
other. Whenever a query is answered by a cache, the answer is what a search found for that
query, at an earlier tick or the same one, and no longer ago than the lifetime, or the
lifetime and one tick if each tick expires after its queries. The searches that are told
from the replies are those that were recorded. -/
theorem find_fresh (settings : Settings) (search : Search σ) (memory : σ) (early : Bool)
    (first : Tick) (ticks : List (List Query))
    (fits : first.toNat + ticks.length ≤ UInt64.size) (past future : List Request)
    (query : Query) (now : Tick)
    (split : rounds early first ticks = past ++ .find query now :: future)
    (replies : List Reply) (router : Router settings (List Memo × σ))
    (run : serveAll search.recorded past
      ({ memory := ([], memory) } : Router settings (List Memo × σ)) = .ok replies router)
    (found : Found) (after : Router settings (List Memo × σ))
    (answered : find search.recorded query now router = .ok ⟨found, .cache⟩ after) :
    router.memory.1 = (searches past replies).map (·.2) ∧
      ∃ earlier, (earlier, ⟨query, found⟩) ∈ searches past replies ∧ earlier ≤ now ∧
        now.toNat ≤ earlier.toNat + settings.lifetime.toNat + if early then 0 else 1 := by
  have record : router.memory.1 = (searches past replies).map (·.2) := by
    rw [record_of_serveAll run, List.nil_append]
  refine ⟨record, ?_⟩
  obtain ⟨before, since, earlier, kept, history, lived⟩ := find_remembered run answered
  have told : (earlier, (⟨query, found⟩ : Memo)) ∈ searches past replies := by
    unfold searches
    rw [history]
    simp [Request.search?]
  have requests : past = before.map (·.1) ++ .find query earlier :: since.map (·.1) := by
    have same : (past.zip replies).map (·.1) = past :=
      List.map_fst_zip (length_of_serveAll run).ge
    rw [← same, history, List.map_append, List.map_cons]
  rw [requests, List.append_assoc, List.cons_append] at split
  obtain ⟨ordered, expired⟩ := expire_between fits split
  refine ⟨earlier, told, ordered, ?_⟩
  rcases UInt64.lt_or_eq_of_le ordered with later | same
  · obtain ⟨tick, member, close⟩ := expired later
    obtain ⟨⟨_, reply⟩, there, rfl⟩ := List.mem_map.mp member
    have survived := Register.le_lastTick_iff.mp (lived tick reply there)
    rw [show settings.policy.lifetime = settings.lifetime from Policy.lifetime_bounded _ _ _]
      at survived
    omega
  · rw [same]
    omega

/-- A memo with a lifetime of one tick answers at the next tick and at the one after it. -/
theorem find_fresh_at_the_end :
    let settings : Settings := { lifetime := 1 }
    let found : Found := ⟨{}, .reached⟩
    let search := Search.ofFunction fun _ => found
    let query := eastward 5
    let past : List Request := [.find query 7, .expire 7, .find query 8, .expire 8]
    let replies : List Reply := [.answered ⟨found, .search (some .stored)⟩, .expired 0,
      .answered ⟨found, .cache⟩, .expired 0]
    let start : Router settings (List Memo × Unit) := { memory := ([], ()) }
    rounds false 7 [[query], [query], [query, query]] =
        past ++ .find query 9 :: [.find query 9, .expire 9] ∧
      ∃ router after, serveAll search.recorded past start = .ok replies router ∧
        find search.recorded query 9 router = .ok ⟨found, .cache⟩ after ∧
        router.memory.1 = [⟨query, found⟩] ∧
        ∃ earlier, (earlier, ⟨query, found⟩) ∈ searches past replies ∧
          (9 : Tick).toNat ≤ earlier.toNat + 1 + 1 := by
  intro settings found search query past replies start
  have split : rounds false 7 [[query], [query], [query, query]] =
      past ++ .find query 9 :: [.find query 9, .expire 9] := rfl
  have closed : answer? (serveAll search.recorded (past ++ [.find query 9]) start) =
      some (replies ++ [.answered ⟨found, .cache⟩]) := by
    decide +kernel
  obtain ⟨after, whole⟩ := answer?_eq_some_iff.mp closed
  obtain ⟨before, router, _, run, last, same⟩ := of_serveAll_append whole
  obtain ⟨reply, _, _, served, remaining, rfl⟩ := of_serveAll_cons last
  cases remaining
  obtain ⟨rfl, answer⟩ := List.append_inj' same rfl
  cases answer
  obtain ⟨_, told, answered⟩ := of_serve_find served
  cases told
  have reached := find_eq_ok_iff.mpr answered
  obtain ⟨record, earlier, member, _, bound⟩ := find_fresh settings search () false 7
    [[query], [query], [query, query]] (by decide) past [.find query 9, .expire 9] query 9 split
    replies router run found after reached
  exact ⟨split, router, after, run, reached, record, earlier, member, bound⟩

end Router

end RouteCache
