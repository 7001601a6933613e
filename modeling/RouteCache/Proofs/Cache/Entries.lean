import Mathlib.Data.List.Nodup
import RouteCache.Proofs.Cache.Follows
import RouteCache.Proofs.Grid.Radius

/-!
What one request does to the entries. Whatever is asked, some entries go from the
front and at most one comes to the end: an insertion drops the head of a full
register, an expiry all that is overdue, and only a memo that was stored is added.

`Cache.entries` is the same list read off a cache, from its line of deadlines and its
shelf, and `Cache.Answers` says that one of its memos is found.
-/

namespace RouteCache

namespace Cache

/-- Whether a request offers a memo. -/
def Request.isInsert : Request → Bool
  | .insert _ _ => true
  | .lookup _ | .expire _ => false

/-- The entry that a request leaves behind, if its reply says that it was stored. -/
def Request.added (policy : Policy) : Request → Reply → List Entry
  | .insert memo now, .inserted .stored =>
    [⟨policy.place memo.query, memo, policy.lastTick now⟩]
  | _, _ => []

/-- The entries that a run stores, in the order of their insertions. -/
def added (policy : Policy) (requests : List Request) (replies : List Reply) : List Entry :=
  (requests.zip replies).flatMap fun (request, reply) => request.added policy reply

/-- The memos with their deadlines, in the order in which they wait. -/
def entries {policy : Policy} (cache : Cache policy) : List Entry :=
  cache.deadlines.records.filterMap fun deadline =>
    (cache.shelf.get? deadline.slot).map fun memo => ⟨deadline.slot, memo, deadline.last⟩

/-- Whether looking a query up gives a memo, unless the counter of hits is full. -/
def Answers {policy : Policy} (cache : Cache policy) (query : Query) (memo : Memo) : Prop :=
  (∃ after, lookup query cache = .ok (some memo) after) ∨
    (cache.tally.hits.toNat + 1 = UInt64.size ∧
      ∃ after, lookup query cache = .error .additionOverflow after)

theorem answers_of_find? {policy : Policy} {cache : Cache policy} {query : Query} {memo : Memo}
    (found : cache.find? query = some memo) : cache.Answers query memo := by
  have looked : lookup query cache = (count .hit >>= fun _ => pure (some memo)) cache := by
    rw [lookup_eq, found]
    rfl
  unfold Answers
  rw [looked]
  cases counted : cache.tally.count .hit with
  | ok tally =>
    have hit : (count .hit : CacheM policy Unit) cache = .ok () { cache with tally } := by
      simp [count, counted]
    exact .inl ⟨_, bind_of_ok hit⟩
  | error fault =>
    obtain ⟨rfl, overflow⟩ := Tally.count_eq_error counted
    have small : cache.tally.hits.toNat < UInt64.size := cache.tally.hits.toNat_lt
    have missed : (count .hit : CacheM policy Unit) cache = .error .additionOverflow cache := by
      simp [count, counted]
    exact .inr ⟨Nat.le_antisymm small overflow, _, bind_eq_error_iff.mpr (.inl missed)⟩

theorem added_cons (policy : Policy) (request : Request) (requests : List Request)
    (reply : Reply) (replies : List Reply) :
    added policy (request :: requests) (reply :: replies) =
      request.added policy reply ++ added policy requests replies := by
  simp [added]

theorem length_added_insert (policy : Policy) (memo : Memo) (now : Tick) (outcome : Outcome) :
    ((Request.insert memo now).added policy (.inserted outcome)).length =
      if Reply.inserted outcome = .inserted .stored then 1 else 0 := by
  cases outcome <;> simp [Request.added]

end Cache

namespace Register

variable {policy : Policy} {register : Register} {cache : Cache policy}

theorem at?_of_mem (distinct : (register.entries.map (·.slot)).Nodup) {entry : Entry}
    (member : entry ∈ register.entries) : register.at? entry.slot = some entry := by
  cases there : register.at? entry.slot with
  | none => exact absurd rfl (at?_eq_none_iff.mp there entry member)
  | some other =>
    obtain ⟨present, same⟩ := of_at?_eq_some there
    rw [List.inj_on_of_nodup_map distinct present member same]

/-- The entries that are read off a cache are those of the register that describes it. -/
theorem Describes.entries_eq (h : register.Describes cache)
    (distinct : (register.entries.map (·.slot)).Nodup) : cache.entries = register.entries := by
  unfold Cache.entries
  rw [h.waiting, List.filterMap_map]
  refine (List.filterMap_congr ?_).trans List.filterMap_some
  intro entry member
  have found : cache.shelf.get? entry.slot = some entry.memo := by
    rw [h.memos, at?_of_mem distinct member]
    rfl
  simp [Entry.deadline, found]

/-- A memo that waits is found by its own query. -/
theorem Describes.find?_of_mem (h : register.Describes cache) (sound : register.Sound policy)
    {entry : Entry} (member : entry ∈ register.entries) :
    cache.find? entry.memo.query = some entry.memo := by
  have placed : policy.place entry.memo.query = entry.slot := sound.placed entry member
  have there : register.at? entry.slot = some entry := at?_of_mem sound.distinct member
  rw [Cache.find?_eq_some_iff, h.memos, placed, there]
  exact ⟨rfl, Query.sameTrip_self entry.memo.query⟩

theorem Describes.answers (h : register.Describes cache) (sound : register.Sound policy)
    {slot : Slot} {memo : Memo} {last : Tick} (member : ⟨slot, memo, last⟩ ∈ register.entries) :
    cache.Answers memo.query memo := by
  apply Cache.answers_of_find?
  exact h.find?_of_mem sound member

/-! ### Making room -/

/-- The number of entries that an insertion drops. -/
def surplus (policy : Policy) (register : Register) : Nat :=
  if register.size = policy.capacity.toNat then 1 else 0

theorem full_of_surplus (one : register.surplus policy = 1) :
    register.size = policy.capacity.toNat := by
  unfold surplus at one
  split at one
  · assumption
  · cases one

theorem makeRoom_eq_discard (policy : Policy) (register : Register) :
    register.makeRoom policy = register.discard .eviction (register.surplus policy) := by
  unfold makeRoom surplus
  split
  · rfl
  · rw [discard_zero]

theorem entries_makeRoom (policy : Policy) (register : Register) :
    (register.makeRoom policy).entries = register.entries.drop (register.surplus policy) := by
  rw [makeRoom_eq_discard]
  rfl

/-- An entry that is not the head of a full register stays when room is made. -/
theorem at?_makeRoom {slot : Slot} {entry : Entry} (there : register.at? slot = some entry)
    (spared : register.size = policy.capacity.toNat →
      ∀ oldest, register.entries.head? = some oldest → oldest.slot ≠ slot)
    (distinct : (register.entries.map (·.slot)).Nodup) :
    (register.makeRoom policy).at? slot = some entry := by
  unfold makeRoom
  split
  · rename_i full
    cases first : register.entries with
    | nil =>
      have present := (of_at?_eq_some there).1
      rw [first] at present
      cases present
    | cons oldest others =>
      have differs : slot ≠ oldest.slot := by
        intro same
        exact spared full oldest (by rw [first]; rfl) same.symm
      change (register.dropFront 1).at? slot = some entry
      rw [at?_dropFront_one first distinct, if_neg differs, there]
  · exact there

/-- The slot of the head of a full register is vacant once room is made. -/
theorem at?_makeRoom_of_oldest {oldest : Entry} (full : register.size = policy.capacity.toNat)
    (first : register.entries.head? = some oldest)
    (distinct : (register.entries.map (·.slot)).Nodup) :
    (register.makeRoom policy).at? oldest.slot = none := by
  obtain ⟨others, first⟩ := List.head?_eq_some_iff.mp first
  unfold makeRoom
  rw [if_pos full]
  change (register.dropFront 1).at? oldest.slot = none
  rw [at?_dropFront_one first distinct, if_pos rfl]

/-! ### Inserting -/

theorem entries_insert (memo : Memo) (now : Tick) :
    (register.insert policy memo now).2.entries =
      register.entries.drop (register.surplus policy) ++
        (Cache.Request.insert memo now).added policy
          (.inserted (register.insert policy memo now).1) := by
  rw [← entries_makeRoom]
  unfold insert
  cases occupied : (register.makeRoom policy).at? (policy.place memo.query) with
  | none =>
    rw [offer_of_vacant now occupied]
    rfl
  | some present =>
    rw [offer_of_occupied now occupied]
    split <;> simp [add, Cache.Request.added]

theorem entries_insert_of_stored {memo : Memo} {now : Tick}
    (stored : (register.insert policy memo now).1 = .stored) :
    (register.insert policy memo now).2.entries =
      register.entries.drop (register.surplus policy) ++
        [⟨policy.place memo.query, memo, policy.lastTick now⟩] := by
  rw [entries_insert, stored]
  rfl

/-- An insertion counts one eviction in a full register and one collision if it is
refused for another query, and nothing else. -/
theorem counts_insert (memo : Memo) (now : Tick) (occasion : Occasion) :
    (register.insert policy memo now).2.counts occasion =
      register.counts occasion + (if occasion = .eviction then register.surplus policy else 0) +
        if occasion = .collision ∧ (register.insert policy memo now).1 = .collided
        then 1 else 0 := by
  have room : (register.makeRoom policy).counts occasion =
      register.counts occasion + if occasion = .eviction then register.surplus policy else 0 := by
    rw [makeRoom_eq_discard]
    simp only [discard, dropFront, add]
    split <;> rfl
  rw [← room]
  unfold insert
  cases occupied : (register.makeRoom policy).at? (policy.place memo.query) with
  | none =>
    rw [offer_of_vacant now occupied]
    simp [append]
  | some present =>
    rw [offer_of_occupied now occupied]
    split
    · simp
    · by_cases collision : occasion = .collision <;> simp [add, collision]

theorem insert_of_occupied {memo : Memo} {present : Entry} (now : Tick)
    (occupied : (register.makeRoom policy).at? (policy.place memo.query) = some present) :
    (register.insert policy memo now).1 =
        (if present.memo.query = memo.query then .duplicate else .collided) ∧
      (register.insert policy memo now).2.entries = (register.makeRoom policy).entries := by
  unfold insert
  rw [offer_of_occupied now occupied]
  split <;> exact ⟨rfl, rfl⟩

theorem insert_of_vacant {memo : Memo} (now : Tick)
    (vacant : (register.makeRoom policy).at? (policy.place memo.query) = none) :
    register.insert policy memo now = (.stored, (register.makeRoom policy).append
      ⟨policy.place memo.query, memo, policy.lastTick now⟩) :=
  offer_of_vacant now vacant

/-- If an insertion overflows a counter, then the cache is full and its evictions are
at the greatest word, or the memo is refused for another query and its collisions are. -/
theorem Describes.full_of_insert (h : register.Describes cache) {memo : Memo} {now : Tick}
    {occasion : Occasion}
    (overflow : UInt64.size ≤ (register.insert policy memo now).2.counts occasion) :
    (register.surplus policy = 1 ∧ cache.tally.evictions.toNat + 1 = UInt64.size) ∨
      ((register.insert policy memo now).1 = .collided ∧
        cache.tally.collisions.toNat + 1 = UInt64.size) := by
  have value := h.counts occasion
  have small := (cache.tally.number occasion).toNat_lt_size
  rw [counts_insert, ← value] at overflow
  have one : register.surplus policy ≤ 1 := by
    unfold surplus
    split <;> omega
  cases occasion with
  | eviction =>
    left
    simp only [Tally.number, if_true, reduceCtorEq, false_and, if_false] at overflow small
    omega
  | collision =>
    right
    by_cases refused : (register.insert policy memo now).1 = .collided
    · simp only [Tally.number, reduceCtorEq, if_false, refused, and_self, if_true]
        at overflow small
      exact ⟨refused, by omega⟩
    · simp only [Tally.number, reduceCtorEq, if_false, refused, and_false] at overflow small
      omega
  | hit | miss | expiration =>
    simp only [Tally.number, reduceCtorEq, if_false, false_and] at overflow small
    omega

/-! ### Requests and runs -/

/-- The number of entries that a request drops from the front. -/
def dropped (policy : Policy) : Cache.Request → Register → Nat
  | .insert _ _, register => register.surplus policy
  | .lookup _, _ => 0
  | .expire now, register => (register.expire now).1

/-- A request takes entries from the front and adds at the end what it stored. -/
theorem entries_serve (ordered : register.entries.Pairwise (·.last ≤ ·.last))
    (request : Cache.Request) :
    (register.serve policy request).2.entries =
      register.entries.drop (register.dropped policy request) ++
        request.added policy (register.serve policy request).1 := by
  cases request with
  | insert memo now => exact entries_insert memo now
  | lookup query => simp [serve, lookup, add, dropped, Cache.Request.added]
  | expire now =>
    obtain ⟨_, back⟩ := overdue_at_front ordered now
    simp [serve, expire, add, dropped, Cache.Request.added, back]

theorem entries_serve_suffix (ordered : register.entries.Pairwise (·.last ≤ ·.last))
    (request : Cache.Request) :
    (register.serve policy request).2.entries <:+
      register.entries ++ request.added policy (register.serve policy request).1 := by
  rw [entries_serve ordered]
  exact List.suffix_append_self_iff.mpr (List.drop_suffix _ _)

/-- First in, first out: after a run the entries are the last ones of those that were
there and those that the run stored. -/
theorem entries_serveAll_suffix (sound : register.Sound policy) {requests : List Cache.Request}
    (inOrder : register.InOrderAll policy requests) :
    (register.serveAll policy requests).2.entries <:+
      register.entries ++ Cache.added policy requests (register.serveAll policy requests).1 := by
  induction requests generalizing register with
  | nil => simp [serveAll, Cache.added]
  | cons request requests ih =>
    have others := ih (sound.serve inOrder.1) inOrder.2
    have first : (register.serve policy request).2.entries <:+ _ :=
      entries_serve_suffix sound.ordered request
    unfold serveAll
    rw [Cache.added_cons, ← List.append_assoc]
    exact others.trans (List.suffix_append_self_iff.mpr first)

end Register

end RouteCache
