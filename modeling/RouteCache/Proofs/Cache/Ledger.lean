import Mathlib.Algebra.Ring.Nat
import RouteCache.Proofs.Cache.Entries
import RouteCache.Proofs.Cache.Refinement

/-!
The counters of a cache are an exact ledger of its replies. Hits, misses, collisions
and expirations can be read off the replies alone. An eviction is counted for each
insertion that finds the cache full, whatever becomes of its memo. And every memo that
was ever stored is still there, was evicted or has expired.
-/

namespace RouteCache

namespace Cache

def Reply.isHit : Reply → Bool
  | .found (some _) => true
  | _ => false

/-- The number of memos that a reply reports as expired. -/
def Reply.expirations : Reply → Nat
  | .expired number => number
  | _ => 0

/-- The number of insertions that find the cache full, in a run up to the first fault. -/
def crowded {policy : Policy} : List Request → Cache policy → Nat
  | [], _ => 0
  | request :: requests, cache =>
    (if request.isInsert ∧ cache.deadlines.size = policy.capacity.toNat then 1 else 0) +
      match serve request cache with
      | .ok _ after => crowded requests after
      | .error _ _ => 0

theorem crowded_cons_of_ok {policy : Policy} {request : Request} {cache after : Cache policy}
    {reply : Reply} (served : serve request cache = .ok reply after) (requests : List Request) :
    crowded (request :: requests) cache =
      (if request.isInsert ∧ cache.deadlines.size = policy.capacity.toNat then 1 else 0) +
        crowded requests after := by
  simp only [crowded, served]

end Cache

namespace Register

variable {policy : Policy} {register : Register} {cache : Cache policy}
  {replies : List Cache.Reply} {evictions : Nat}

/-- The counts of a register that has given certain replies and was full at so many
insertions. -/
structure Ledger (replies : List Cache.Reply) (evictions : Nat) (register : Register) :
    Prop where
  hits : register.counts .hit = replies.countP (·.isHit)
  misses : register.counts .miss = replies.count (.found none)
  collisions : register.counts .collision = replies.count (.inserted .collided)
  expirations : register.counts .expiration = (replies.map (·.expirations)).sum
  evictions : register.counts .eviction = evictions
  /-- What was stored is there, was evicted or has expired. -/
  conserved : replies.count (.inserted .stored) =
    register.size + register.counts .eviction + register.counts .expiration

theorem ledger_empty : empty.Ledger [] 0 :=
  ⟨rfl, rfl, rfl, rfl, rfl, rfl⟩

theorem size_insert (policy : Policy) (memo : Memo) (now : Tick) (register : Register) :
    (register.insert policy memo now).2.size + register.surplus policy =
      register.size +
        if Cache.Reply.inserted (register.insert policy memo now).1 = .inserted .stored
        then 1 else 0 := by
  have enough : register.surplus policy ≤ register.size := by
    have positive := policy.capacity_pos
    unfold surplus
    split <;> omega
  unfold size at enough ⊢
  rw [entries_insert, List.length_append, List.length_drop, Cache.length_added_insert]
  omega

theorem Ledger.insert (h : register.Ledger replies evictions) (memo : Memo) (now : Tick) :
    (register.insert policy memo now).2.Ledger
      (replies ++ [.inserted (register.insert policy memo now).1])
      (evictions + register.surplus policy) := by
  obtain ⟨hits, misses, collisions, expirations, evicted, conserved⟩ := h
  have size := size_insert policy memo now register
  constructor
  · simp [counts_insert, hits, Cache.Reply.isHit]
  · simp [counts_insert, misses]
  · simp [counts_insert, collisions, List.count_singleton]
  · simp [counts_insert, expirations, Cache.Reply.expirations]
  · simp [counts_insert, evicted]
  · simp only [List.count_append, List.count_singleton, beq_iff_eq, conserved, counts_insert,
      Cache.Reply.inserted.injEq, if_true, reduceCtorEq, false_and, if_false] at size ⊢
    omega

/-- A lookup raises the count that its reply names. -/
theorem Ledger.lookup (h : register.Ledger replies evictions) (query : Query) :
    (register.lookup policy query).2.Ledger
      (replies ++ [.found (register.lookup policy query).1]) evictions := by
  obtain ⟨hits, misses, collisions, expirations, evicted, conserved⟩ := h
  unfold Register.lookup
  dsimp only
  cases register.find? policy query <;>
  · constructor
    · simp [add, hits, Cache.Reply.isHit]
    · simp [add, misses]
    · simp [add, collisions]
    · simp [add, expirations, Cache.Reply.expirations]
    · simp [add, evicted]
    · simpa [add, size] using conserved

/-- An expiry exchanges entries for expirations. -/
theorem Ledger.expire (h : register.Ledger replies evictions) (now : Tick) :
    (register.expire now).2.Ledger (replies ++ [.expired (register.expire now).1])
      evictions := by
  obtain ⟨hits, misses, collisions, expirations, evicted, conserved⟩ := h
  have parts : register.entries.length = _ :=
    List.length_eq_length_filter_add fun entry => decide (entry.last < now)
  unfold Register.expire
  constructor
  · simp [add, hits, Cache.Reply.isHit]
  · simp [add, misses]
  · simp [add, collisions]
  · simp [add, expirations, Cache.Reply.expirations]
  · simp [add, evicted]
  · simp only [List.count_append, List.count_singleton, beq_iff_eq, conserved, size, add, if_true,
      reduceCtorEq, if_false]
    omega

theorem Ledger.serve (h : register.Ledger replies evictions) (request : Cache.Request) :
    (register.serve policy request).2.Ledger
      (replies ++ [(register.serve policy request).1])
      (evictions +
        if request.isInsert ∧ register.size = policy.capacity.toNat then 1 else 0) := by
  cases request with
  | insert memo now =>
    have inserted : (register.insert policy memo now).2.Ledger _ _ := h.insert memo now
    simp only [Cache.Request.isInsert, true_and]
    exact inserted
  | lookup query => exact h.lookup query
  | expire now => exact h.expire now

/-- The ledger of a run, by induction on its requests. What a request finds is the
cache that the request before it left, so the register is carried along to say when
that cache is full. -/
theorem Ledger.of_serveAll (h : register.Ledger replies evictions)
    (describes : register.Describes cache) (sound : register.Sound policy)
    {requests : List Cache.Request} {answers : List Cache.Reply} {after : Cache policy}
    (run : Cache.serveAll requests cache = .ok answers after) :
    ∃ final : Register, final.Ledger (replies ++ answers)
        (evictions + Cache.crowded requests cache) ∧
      final.Describes after ∧ final.Sound policy := by
  induction requests generalizing register cache replies evictions answers with
  | nil =>
    cases run
    rw [List.append_nil]
    exact ⟨register, h, describes, sound⟩
  | cons request requests ih =>
    rw [Cache.serveAll_cons] at run
    obtain ⟨reply, between, served, rest⟩ := bind_eq_ok_iff.mp run
    obtain ⟨others, last, remaining, finished⟩ := bind_eq_ok_iff.mp rest
    cases finished
    obtain ⟨rfl, inOrder, described⟩ := describes.of_serve sound served
    obtain ⟨final, ledger, ended⟩ := ih (h.serve request) described (sound.serve inOrder) remaining
    rw [List.append_assoc, List.singleton_append] at ledger
    rw [Cache.crowded_cons_of_ok served, describes.deadlines_size, ← Nat.add_assoc]
    exact ⟨final, ledger, ended⟩

/-- What an insertion does to the entries and to the evictions. -/
theorem Describes.insert_evicts (h : register.Describes cache) (sound : register.Sound policy)
    {memo : Memo} {now : Tick} {outcome : Outcome} {after : Cache policy}
    (inserted : Cache.insert memo now cache = .ok outcome after) :
    after.tally.evictions.toNat = cache.tally.evictions.toNat + register.surplus policy ∧
      after.entries = cache.entries.drop (register.surplus policy) ++
        (Cache.Request.insert memo now).added policy (.inserted outcome) := by
  obtain ⟨rfl, sound', described⟩ := h.of_insert sound inserted
  constructor
  · have before := h.counts .eviction
    have later := described.counts .eviction
    simp only [Tally.number] at before later
    rw [later, before, counts_insert]
    simp
  · rw [described.entries_eq sound'.distinct, h.entries_eq sound.distinct, entries_insert]

end Register

namespace Cache

variable {policy : Policy}

/-- After every run without a fault the counters that a cache reports are what its
replies say, with an eviction for every insertion that found the cache full, and the
memos that were stored are those that are there, were evicted and have expired. An
insertion that finds the cache full drops the oldest memo and no other, whatever its
outcome, and an insertion that does not drops none. -/
theorem serveAll_ledger (requests : List Request) (replies : List Reply) (cache : Cache policy)
    (run : serveAll requests empty = .ok replies cache) :
    cache.report.hits.toNat = replies.countP (·.isHit) ∧
    cache.report.misses.toNat = replies.count (.found none) ∧
    cache.report.collisions.toNat = replies.count (.inserted .collided) ∧
    cache.report.expirations.toNat = (replies.map (·.expirations)).sum ∧
    cache.report.evictions.toNat = crowded requests (empty : Cache policy) ∧
    replies.count (.inserted .stored) = cache.report.held.toNat +
      cache.report.evictions.toNat + cache.report.expirations.toNat ∧
    ∀ memo now outcome after, insert memo now cache = .ok outcome after →
      let dropped := if cache.deadlines.size = policy.capacity.toNat then 1 else 0
      after.report.evictions.toNat = cache.report.evictions.toNat + dropped ∧
        after.entries = cache.entries.drop dropped ++
          (Request.insert memo now).added policy (.inserted outcome) := by
  obtain ⟨register, ledger, describes, sound⟩ :=
    Register.ledger_empty.of_serveAll Register.describes_empty (Register.sound_empty policy) run
  have agrees := Agrees.of_describes sound describes
  have value (occasion : Occasion) := agrees.counts occasion
  rw [List.nil_append, Nat.zero_add] at ledger
  refine ⟨(value .hit).trans ledger.hits, (value .miss).trans ledger.misses,
    (value .collision).trans ledger.collisions, (value .expiration).trans ledger.expirations,
    (value .eviction).trans ledger.evictions, ?_, ?_⟩
  · have evictions : cache.report.evictions.toNat = _ := value .eviction
    have expirations : cache.report.expirations.toNat = _ := value .expiration
    rw [agrees.held, evictions, expirations]
    exact ledger.conserved
  · intro memo now outcome after inserted
    rw [describes.deadlines_size]
    exact describes.insert_evicts sound inserted

/-- A memo that is refused for another query costs the oldest one its place. -/
theorem serveAll_ledger_refused :
    let policy := Policy.bounded (Placement.withoutRadius (Grid.slot ⟨8, 8⟩)) 2 10
    let wider : Query := { eastward 6 with radius := Single.zero }
    let requests : List Request := [.insert ⟨eastward 5, ⟨{}, .reached⟩⟩ 0,
      .insert ⟨eastward 6, ⟨{}, .reached⟩⟩ 1, .insert ⟨wider, ⟨{}, .reached⟩⟩ 2,
      .insert ⟨eastward 5, ⟨{}, .approached⟩⟩ 3, .lookup (eastward 5), .lookup (eastward 7),
      .expire 12]
    let replies : List Reply := [.inserted .stored, .inserted .stored, .inserted .collided,
      .inserted .stored, .found (some ⟨eastward 5, ⟨{}, .approached⟩⟩), .found none, .expired 1]
    ∃ cache : Cache policy, serveAll requests empty = .ok replies cache ∧
      cache.report.evictions.toNat = crowded requests (empty : Cache policy) ∧
      crowded requests (empty : Cache policy) = 1 ∧
      3 = cache.report.held.toNat + cache.report.evictions.toNat +
        cache.report.expirations.toNat := by
  intro policy wider requests replies
  have closed : answer? (serveAll requests (empty : Cache policy)) = some replies := by
    decide +kernel
  obtain ⟨cache, run⟩ := answer?_eq_some_iff.mp closed
  obtain ⟨_, _, _, _, evictions, conserved, _⟩ := serveAll_ledger requests replies cache run
  exact ⟨cache, run, evictions, by decide +kernel, conserved⟩

end Cache

end RouteCache
