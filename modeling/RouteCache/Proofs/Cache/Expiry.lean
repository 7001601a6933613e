import Mathlib.Algebra.Ring.Nat
import RouteCache.Proofs.Cache.Counters
import RouteCache.Proofs.Cache.Dealings

/-!
An expiry removes all that is overdue and nothing else, although it stops at the first
deadline that has not passed: in every cache that was reached without a fault the deadlines
are in order. No tick comes after the greatest word, so a memo whose last tick was cut off
there never expires.

Expiries at several ticks, in any order, leave the very cache that one expiry at the
greatest of them leaves. The order of the deadlines is not needed for that. What is overdue
at a tick is the first part of what is overdue at a later one, and dropping the two parts
of a front one after the other is dropping the front.
-/

namespace RouteCache

theorem Deadlines.overdue_add (deadlines : Deadlines) {tick last : Tick}
    (earlier : tick ≤ last) :
    deadlines.overdue last =
      deadlines.overdue tick +
        overdue ⟨deadlines.records.drop (deadlines.overdue tick)⟩ last := by
  obtain ⟨records⟩ := deadlines
  unfold overdue
  induction records with
  | nil => rfl
  | cons first rest ih =>
    dsimp only at ih ⊢
    by_cases passed : first.last < tick
    · have gone : first.last < last := UInt64.lt_of_lt_of_le passed earlier
      simp only [passed, gone, List.takeWhile_cons, decide_true, if_true, List.length_cons,
        List.drop_succ_cons]
      omega
    · simp [passed]

namespace Cache

variable {policy : Policy} {cache between after : Cache policy} {tick last now : Tick}
  {number : Nat}

/-! ### Expiries one after the other -/

theorem drop_succ (occasion : Occasion) (number : Nat) :
    (drop occasion (number + 1) : CacheM policy Unit) =
      (drop occasion 1 >>= fun _ => drop occasion number) := by
  change _ = (dropOldest >>= fun _ => count occasion >>= fun _ => pure ()) >>= fun _ => _
  simp only [bind_assoc, pure_bind]
  rfl

/-- A front is dropped in two parts as in one. -/
theorem drop_add (occasion : Occasion) (first others : Nat) :
    (drop occasion (first + others) : CacheM policy Unit) =
      (drop occasion first >>= fun _ => drop occasion others) := by
  induction first with
  | zero =>
    rw [Nat.zero_add]
    rfl
  | succ first ih => rw [Nat.succ_add, drop_succ, ih, drop_succ occasion first, bind_assoc]

theorem records_of_dropOldest (dropped : dropOldest cache = .ok () after) :
    after.deadlines.records = cache.deadlines.records.drop 1 := by
  cases waiting : cache.deadlines.records with
  | nil => simp [dropOldest, Deadlines.pop?, waiting] at dropped
  | cons oldest others =>
    cases present : cache.shelf.get? oldest.slot with
    | none => simp [dropOldest, Deadlines.pop?, waiting, present] at dropped
    | some memo =>
      rw [dropOldest_eq_ok waiting present] at dropped
      cases dropped
      rfl

theorem deadlines_of_count {occasion : Occasion} (counted : count occasion cache = .ok () after) :
    after.deadlines = cache.deadlines := by
  unfold count at counted
  split at counted <;> cases counted
  rfl

/-- Dropping takes its number of deadlines from the front. -/
theorem records_of_drop {occasion : Occasion}
    (dropped : drop occasion number cache = .ok () after) :
    after.deadlines.records = cache.deadlines.records.drop number := by
  induction number generalizing cache with
  | zero =>
    cases dropped
    rfl
  | succ number ih =>
    obtain ⟨_, fewer, oldest, rest⟩ := bind_eq_ok_iff.mp dropped
    obtain ⟨_, counted, one, others⟩ := bind_eq_ok_iff.mp rest
    rw [ih others, deadlines_of_count one, records_of_dropOldest oldest, List.drop_drop,
      Nat.add_comm]

theorem expire_eq_ok_iff :
    expire now cache = .ok number after ↔
      drop .expiration (cache.deadlines.overdue now) cache = .ok () after ∧
        number = cache.deadlines.overdue now := by
  rw [expire_eq, bind_pure_eq_ok_iff]
  constructor
  · rintro ⟨_, dropped, same⟩
    exact ⟨dropped, same⟩
  · rintro ⟨dropped, same⟩
    exact ⟨(), dropped, same⟩

/-- An expiry goes by way of any earlier tick. -/
theorem expire_split (earlier : tick ≤ last) (expired : expire last cache = .ok number after) :
    ∃ first between others, expire tick cache = .ok first between ∧
      expire last between = .ok others after ∧ first + others = number := by
  obtain ⟨dropped, rfl⟩ := expire_eq_ok_iff.mp expired
  have parts := cache.deadlines.overdue_add earlier
  rw [parts, drop_add] at dropped
  obtain ⟨_, between, first, rest⟩ := bind_eq_ok_iff.mp dropped
  have left : between.deadlines = ⟨cache.deadlines.records.drop (cache.deadlines.overdue tick)⟩ :=
    congrArg Deadlines.mk (records_of_drop first)
  rw [← left] at rest parts
  exact ⟨_, between, _, expire_eq_ok_iff.mpr ⟨first, rfl⟩, expire_eq_ok_iff.mpr ⟨rest, rfl⟩,
    parts.symm⟩

/-- A second expiry at a tick finds nothing. -/
theorem expire_again (expired : expire now cache = .ok number after) :
    expire now after = .ok 0 after := by
  obtain ⟨_, _, others, first, second, sum⟩ := expire_split (UInt64.le_refl now) expired
  cases expired.symm.trans first
  obtain rfl : others = 0 := by omega
  exact second

/-- Expiries up to a tick, that tick among them, leave what one expiry at that tick leaves.
The induction splits off the first one. Once nothing is overdue, the rest may be at any
earlier ticks. -/
theorem serveAll_expire {ticks : List Tick} (within : ∀ tick ∈ ticks, tick ≤ last)
    (settled : last ∈ ticks ∨ number = 0) (expired : expire last cache = .ok number after) :
    ∃ numbers : List Nat,
      serveAll (ticks.map .expire) cache = .ok (numbers.map .expired) after ∧
        numbers.sum = number := by
  induction ticks generalizing cache number with
  | nil =>
    obtain rfl : number = 0 := settled.resolve_left List.not_mem_nil
    obtain ⟨dropped, none⟩ := expire_eq_ok_iff.mp expired
    rw [← none] at dropped
    cases dropped
    exact ⟨[], rfl, rfl⟩
  | cons tick ticks ih =>
    obtain ⟨first, between, others, one, rest, sum⟩ :=
      expire_split (within tick List.mem_cons_self) expired
    have settled : last ∈ ticks ∨ others = 0 := by
      rcases settled with greatest | nothing
      · rcases List.mem_cons.mp greatest with rfl | later
        · cases rest.symm.trans (expire_again one)
          exact .inr rfl
        · exact .inl later
      · exact .inr (by omega)
    obtain ⟨numbers, run, total⟩ :=
      ih (fun tick member => within tick (List.mem_cons_of_mem _ member)) settled rest
    refine ⟨first :: numbers, ?_, ?_⟩
    · exact serveAll_cons_iff.mpr
        ⟨_, between, _, serve_expire_iff.mpr ⟨first, one, rfl⟩, run, rfl⟩
    · rw [List.sum_cons, total, sum]

/-! ### What one expiry removes -/

/-- Whether the memos that are overdue can be counted. -/
def Countable (now : Tick) (cache : Cache policy) : Prop :=
  cache.tally.expirations.toNat +
    (cache.entries.filter fun entry => decide (entry.last < now)).length < UInt64.size

/-- What is left of a cache when the overdue memos are taken out of it and counted. -/
structure Purged (now : Tick) (cache after : Cache policy) : Prop where
  entries : after.entries = cache.entries.filter fun entry => !decide (entry.last < now)
  records : after.deadlines.records =
    cache.deadlines.records.filter fun deadline => !decide (deadline.last < now)
  memos : ∀ slot memo, after.shelf.get? slot = some memo ↔
    ∃ last, now ≤ last ∧ ⟨slot, memo, last⟩ ∈ cache.entries
  size : after.size = after.entries.length
  held : after.tally.held.toNat = after.entries.length
  expirations : after.tally.expirations.toNat = cache.tally.expirations.toNat +
    (cache.entries.filter fun entry => decide (entry.last < now)).length
  others : ∀ occasion, occasion ≠ .expiration →
    after.tally.number occasion = cache.tally.number occasion

end Cache

namespace Register

variable {policy : Policy} {register : Register} {cache after : Cache policy} {now : Tick}

theorem Describes.get?_eq_some_iff (h : register.Describes cache)
    (distinct : (register.entries.map (·.slot)).Nodup) {slot : Slot} {memo : Memo} :
    cache.shelf.get? slot = some memo ↔ ∃ last, ⟨slot, memo, last⟩ ∈ register.entries := by
  constructor
  · intro found
    obtain ⟨entry, member, rfl, rfl⟩ := h.entry_of_get? found
    exact ⟨entry.last, member⟩
  · rintro ⟨last, member⟩
    rw [h.memos, at?_of_mem distinct member]
    rfl

/-- The counts of a cache are words. -/
theorem Describes.counts_lt (h : register.Describes cache) (occasion : Occasion) :
    register.counts occasion < UInt64.size := by
  rw [← h.counts]
  exact UInt64.toNat_lt_size _

theorem counts_expire (now : Tick) (register : Register) (occasion : Occasion) :
    (register.expire now).2.counts occasion =
      register.counts occasion + if occasion = .expiration then (register.expire now).1 else 0 := by
  unfold expire add
  dsimp only
  split <;> simp

theorem Describes.purged (h : register.Describes cache) (sound : register.Sound policy)
    (described : (register.expire now).2.Describes after) : cache.Purged now after := by
  have sound' : (register.expire now).2.Sound policy := sound.of_sublist List.filter_sublist
  have before := h.entries_eq sound.distinct
  have left := described.entries_eq sound'.distinct
  constructor
  · rw [left, before]
    rfl
  · rw [described.waiting, h.waiting, List.filter_map]
    rfl
  · intro slot memo
    rw [described.get?_eq_some_iff sound'.distinct, before]
    apply exists_congr
    intro last
    change _ ∈ register.entries.filter _ ↔ _
    rw [List.mem_filter, and_comm]
    simp
  · rw [left]
    exact described.size
  · rw [left, described.held]
    exact sound'.toNat_size
  · change (after.tally.number .expiration).toNat = (cache.tally.number .expiration).toNat + _
    rw [described.counts, h.counts, counts_expire, before]
    rfl
  · intro occasion other
    apply UInt64.toNat_inj.mp
    rw [described.counts, h.counts, counts_expire, if_neg other, Nat.add_zero]

/-- Only the counter of expirations can become too large. -/
theorem Describes.countable_iff (h : register.Describes cache) (sound : register.Sound policy) :
    cache.Countable now ↔
      ∀ occasion, (register.expire now).2.counts occasion < UInt64.size := by
  unfold Cache.Countable
  rw [h.entries_eq sound.distinct]
  have value := h.counts .expiration
  constructor
  · intro countable occasion
    rw [counts_expire]
    split
    · rename_i same
      rw [same, ← value]
      exact countable
    · exact h.counts_lt occasion
  · intro fits
    have fit := fits .expiration
    rw [counts_expire, ← value] at fit
    exact fit

theorem Describes.expire_of_countable (h : register.Describes cache)
    (sound : register.Sound policy) (countable : cache.Countable now) :
    ∃ after, Cache.expire now cache =
        .ok (cache.entries.filter fun entry => decide (entry.last < now)).length after ∧
      cache.Purged now after := by
  obtain ⟨after, expired, described⟩ :=
    (h.expire sound now).done_of_fits ((h.countable_iff sound).mp countable) trivial
  rw [h.entries_eq sound.distinct]
  exact ⟨after, expired, h.purged sound described⟩

theorem Describes.expire_of_not_countable (h : register.Describes cache)
    (sound : register.Sound policy) (beyond : ¬cache.Countable now) :
    ∃ after, Cache.expire now cache = .error .additionOverflow after := by
  have followed := h.expire sound now
  generalize Cache.expire now cache = result at followed
  cases followed with
  | done described _ =>
    exact absurd ((h.countable_iff sound).mpr described.counts_lt) beyond
  | full occasion overflow => exact ⟨_, rfl⟩
  | late broken => exact absurd trivial broken

/-- A fault stops dropping when a part of the front is gone, and nothing else. The induction
follows the drops, of which only the counting can fault. -/
theorem Describes.entries_final_drop (h : register.Describes cache)
    (distinct : (register.entries.map (·.slot)).Nodup) {number : Nat}
    (enough : number ≤ register.size) (occasion : Occasion) :
    ∃ gone, gone ≤ number ∧
      (final (Cache.drop occasion number cache)).entries = register.entries.drop gone := by
  induction number generalizing register cache with
  | zero => exact ⟨0, Nat.le_refl 0, h.entries_eq distinct⟩
  | succ number ih =>
    have part : (register.dropFront 1).entries.Sublist register.entries :=
      List.drop_sublist 1 register.entries
    have fewer := distinct.sublist (part.map _)
    have size := size_dropFront 1 register
    obtain ⟨between, dropped, described⟩ :=
      (h.dropOldest distinct (by omega)).done_of_fits h.counts_lt trivial
    unfold Cache.drop
    rw [bind_of_ok dropped]
    have counted := described.count occasion
    cases result : Cache.count occasion between with
    | ok answer later =>
      rw [result] at counted
      obtain ⟨_, _, described'⟩ := counted.of_ok
      have enough' : number ≤ (register.dropFront 1).size := by omega
      obtain ⟨gone, few, left⟩ := ih described' fewer enough'
      refine ⟨gone + 1, Nat.succ_le_succ few, ?_⟩
      rw [bind_of_ok result, left, Nat.add_comm, ← List.drop_drop]
      rfl
    | error fault later =>
      refine ⟨1, Nat.succ_le_succ (Nat.zero_le number), ?_⟩
      rw [bind_eq_error_iff.mpr (.inl result)]
      unfold Cache.count at result
      split at result <;> cases result
      exact described.entries_eq fewer

/-- What is not overdue is there after an expiry, even after one that a fault has stopped. -/
theorem Describes.mem_final_expire (h : register.Describes cache)
    (sound : register.Sound policy) {entry : Entry} (member : entry ∈ cache.entries)
    (current : ¬entry.last < now) : entry ∈ (final (Cache.expire now cache)).entries := by
  have enough : (register.expire now).1 ≤ register.size := List.length_filter_le _ _
  obtain ⟨gone, few, left⟩ := h.entries_final_drop sound.distinct enough .expiration
  rw [Cache.expire_eq, final_bind_pure, h.overdue_eq sound, left]
  apply (List.drop_sublist_drop_left register.entries few).subset
  rw [h.entries_eq sound.distinct] at member
  unfold Register.expire
  dsimp only
  rw [(overdue_at_front sound.ordered now).2, List.mem_filter]
  exact ⟨member, by simpa using current⟩

/-- An expiry counts no more memos than there were insertions. -/
theorem counts_expire_serveAll_lt (policy : Policy) {requests : List Cache.Request}
    (short : requests.length < UInt64.size) (now : Tick) (occasion : Occasion) :
    ((empty.serveAll policy requests).2.expire now).2.counts occasion < UInt64.size :=
  ((within_serveAll policy requests).expire now).counts_lt short short occasion

end Register

namespace Cache

variable {policy : Policy} {cache after : Cache policy} {now : Tick} {entry : Entry}

theorem mem_added_iff {requests : List Request} {replies : List Reply} :
    entry ∈ added policy requests replies ↔
      ∃ memo now, (Request.insert memo now, Reply.inserted .stored) ∈ requests.zip replies ∧
        entry = ⟨policy.place memo.query, memo, policy.lastTick now⟩ := by
  unfold added
  rw [List.mem_flatMap]
  constructor
  · rintro ⟨⟨request, reply⟩, member, new⟩
    change entry ∈ request.added policy reply at new
    unfold Request.added at new
    split at new
    · exact ⟨_, _, member, List.mem_singleton.mp new⟩
    · cases new
  · rintro ⟨memo, now, member, rfl⟩
    exact ⟨_, member, List.mem_singleton_self _⟩

/-- Every memo that is held was stored at some tick, which gave it its last one. -/
theorem stored_of_mem {past : List Request} {replies : List Reply}
    (run : serveAll past empty = .ok replies cache) (member : entry ∈ cache.entries) :
    ∃ stored, (Request.insert entry.memo stored, Reply.inserted .stored) ∈ past.zip replies ∧
      entry.last = policy.lastTick stored := by
  obtain ⟨answers, inOrder, describes⟩ :=
    Register.describes_empty.of_serveAll (Register.sound_empty policy) run
  have sound := (Register.sound_empty policy).serveAll inOrder
  have waits := Register.entries_serveAll_suffix (Register.sound_empty policy) inOrder
  rw [describes.entries_eq sound.distinct] at member
  have new := waits.subset member
  rw [← answers] at new
  obtain ⟨memo, stored, offered, rfl⟩ := mem_added_iff.mp new
  exact ⟨stored, offered, rfl⟩

/-- No tick comes after the greatest word. -/
theorem not_lt_lastTick {stored : Tick}
    (capped : UInt64.size - 1 ≤ stored.toNat + policy.lifetime.toNat) (now : Tick) :
    ¬policy.lastTick stored < now := by
  rw [UInt64.not_lt, Register.le_lastTick_iff]
  have small := now.toNat_lt_size
  omega

/-- In every cache that was reached without a fault. An expiry removes and counts exactly the
memos whose last tick has passed, and the others stay in their order with their deadlines. It
faults only if the counter of expirations cannot count them, which takes as many requests as
a word can count. Every memo has its last tick from the tick at which it was stored, and if
that sum reaches the greatest word, then no expiry removes it, not even one that faults.
Expiries at any ticks leave the cache that one expiry at the greatest of them leaves, and
together remove as many. -/
theorem expire_purges (past : List Request) (replies : List Reply) (cache : Cache policy)
    (run : serveAll past empty = .ok replies cache) :
    (∀ now,
      (cache.Countable now → ∃ after, expire now cache =
          .ok (cache.entries.filter fun entry => decide (entry.last < now)).length after ∧
        cache.Purged now after) ∧
      (¬cache.Countable now → ∃ after, expire now cache = .error .additionOverflow after) ∧
      (past.length < UInt64.size → cache.Countable now)) ∧
    (∀ entry ∈ cache.entries,
      (∃ stored, (Request.insert entry.memo stored, Reply.inserted .stored) ∈ past.zip replies ∧
        entry.last = policy.lastTick stored) ∧
      ∀ stored, entry.last = policy.lastTick stored →
        UInt64.size - 1 ≤ stored.toNat + policy.lifetime.toNat →
        ∀ now, entry ∈ (final (expire now cache)).entries) ∧
    ∀ (ticks : List Tick) (last : Tick), last ∈ ticks → (∀ tick ∈ ticks, tick ≤ last) →
      cache.Countable last →
      ∃ (numbers : List Nat) (after : Cache policy),
        serveAll (ticks.map .expire) cache = .ok (numbers.map .expired) after ∧
          expire last cache = .ok numbers.sum after := by
  obtain ⟨_, sound, describes⟩ := Register.of_serveAll run
  refine ⟨?_, ?_, ?_⟩
  · intro now
    refine ⟨describes.expire_of_countable sound, describes.expire_of_not_countable sound, ?_⟩
    intro short
    exact (describes.countable_iff sound).mpr
      (Register.counts_expire_serveAll_lt policy short now)
  · intro entry member
    refine ⟨stored_of_mem run member, ?_⟩
    intro stored given capped now
    apply describes.mem_final_expire sound member
    rw [given]
    exact not_lt_lastTick capped now
  · intro ticks last greatest within countable
    obtain ⟨after, expired, _⟩ := describes.expire_of_countable sound countable
    obtain ⟨numbers, served, total⟩ := serveAll_expire within (.inl greatest) expired
    rw [← total] at expired
    exact ⟨numbers, after, served, expired⟩

/-- Two memos with a last tick of their own and one whose last tick was cut off, and expiries
at ticks that go back. -/
theorem expire_purges_capped :
    let policy := Policy.bounded (Grid.slot ⟨8, 8⟩) 3 10
    let first : Entry := ⟨policy.place (eastward 5), ⟨eastward 5, ⟨{}, .reached⟩⟩, 10⟩
    let second : Entry := ⟨policy.place (eastward 6), ⟨eastward 6, ⟨{}, .reached⟩⟩, 14⟩
    let capped : Entry := ⟨policy.place (eastward 7), ⟨eastward 7, ⟨{}, .reached⟩⟩,
      0xFFFFFFFFFFFFFFFF⟩
    ∃ cache once left : Cache policy,
      serveAll [.insert first.memo 0, .insert second.memo 4,
          .insert capped.memo 0xFFFFFFFFFFFFFFFE] empty =
        .ok [.inserted .stored, .inserted .stored, .inserted .stored] cache ∧
      cache.entries = [first, second, capped] ∧
      expire 11 cache = .ok 1 once ∧ cache.Purged 11 once ∧ once.entries = [second, capped] ∧
      serveAll [.expire 11, .expire 20, .expire 3] cache =
        .ok [.expired 1, .expired 1, .expired 0] left ∧
      expire 20 cache = .ok 2 left ∧ capped ∈ left.entries := by
  intro policy first second capped
  have closed : ends (fun replies (cache : Cache policy) =>
      replies = [.inserted .stored, .inserted .stored, .inserted .stored] ∧
        cache.entries = [first, second, capped] ∧
        answer? (serveAll [.expire 11, .expire 20, .expire 3] cache) =
          some [.expired 1, .expired 1, .expired 0])
      (serveAll [.insert first.memo 0, .insert second.memo 4,
        .insert capped.memo 0xFFFFFFFFFFFFFFFE] empty) := by
    decide +kernel
  obtain ⟨_, cache, run, reached⟩ := ends_iff.mp closed
  obtain ⟨rfl, entries, expirations⟩ := of_decide_eq_true reached
  obtain ⟨exact, kept, composed⟩ := expire_purges _ _ cache run
  have countable (now : Tick) : cache.Countable now := (exact now).2.2 (by decide)
  obtain ⟨once, expired, purged⟩ := (exact 11).1 (countable 11)
  obtain ⟨numbers, left, served, last⟩ :=
    composed [11, 20, 3] 20 (by decide) (by simp) (countable 20)
  have replied : some (numbers.map Reply.expired) = some ([1, 1, 0].map Reply.expired) :=
    (congrArg answer? served).symm.trans expirations
  obtain rfl : numbers = [1, 1, 0] :=
    (List.map_inj_right fun _ _ => Reply.expired.inj).mp (Option.some.inj replied)
  have third : capped ∈ cache.entries := by simp [entries]
  rw [entries] at expired
  refine ⟨cache, once, left, run, entries, expired, purged, ?_, served, last, ?_⟩
  · rw [purged.entries, entries]
    rfl
  · have there := (kept capped third).2 0xFFFFFFFFFFFFFFFE rfl (by decide) 20
    rwa [last, final_ok] at there

end Cache

end RouteCache
