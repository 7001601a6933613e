import Mathlib.Algebra.BigOperators.Group.List.Basic
import Mathlib.Algebra.Ring.Nat
import RouteCache.Proofs.Cache.Accounts
import RouteCache.Proofs.Cache.Expiry
import RouteCache.Proofs.Cache.Total
import RouteCache.Proofs.Router.Shards

/-!
What a router computes over all its caches does not depend on the order in which it visits
them. The total is a sum field by field, or else an overflow, and which of the two decides
the exact sum of each field, not the sums on the way. An expiry does to each cache what it
does to that cache alone. Its number is what the memos that are held lose and what the
expirations gain, in each cache and so in all of them together.
-/

namespace RouteCache

/-- In one cache an expiry turns memos that are held into expirations. -/
theorem Cache.Keeps.held_expire {policy : Policy} {cache after : Cache policy}
    {P : Entry → Prop} (h : cache.Keeps P) {now : Tick} {number : Nat}
    (expired : Cache.expire now cache = .ok number after) :
    after.report.held.toNat + number = cache.report.held.toNat ∧
      after.report.expirations.toNat = cache.report.expirations.toNat + number := by
  obtain ⟨register, sound, describes, _⟩ := h
  obtain ⟨rfl, sound', described⟩ := describes.of_expire sound expired
  have before := Cache.Agrees.of_describes sound describes
  have left := Cache.Agrees.of_describes sound' described
  have parts : register.entries.length = _ :=
    List.length_eq_length_filter_add fun entry => decide (entry.last < now)
  constructor
  · rw [left.held, before.held, Nat.add_comm]
    exact parts.symm
  · change (after.report.number .expiration).toNat = (cache.report.number .expiration).toNat + _
    rw [left.counts, before.counts, Register.counts_expire, if_pos rfl]

/-- A cache that was reached without a fault expires its memos as long as they can be
counted. -/
theorem Cache.expire_of_reached {policy : Policy} {cache : Cache policy}
    (reached : ∃ requests replies, Cache.serveAll requests Cache.empty = .ok replies cache)
    {now : Tick} (countable : cache.Countable now) :
    fault? (Cache.expire now cache) = none ∧
      (final (Cache.expire now cache)).report.held.toNat + cache.deadlines.overdue now =
        cache.report.held.toNat ∧
      (final (Cache.expire now cache)).report.expirations.toNat =
        cache.report.expirations.toNat + cache.deadlines.overdue now := by
  obtain ⟨_, _, run⟩ := reached
  obtain ⟨_, sound, describes⟩ := Register.of_serveAll run
  obtain ⟨after, expired, _⟩ := describes.expire_of_countable sound countable
  have fine : fault? (Cache.expire now cache) = none := by
    rw [expired]
    rfl
  have keeps : cache.Keeps fun _ => True := ⟨_, sound, describes, fun _ _ => trivial⟩
  exact ⟨fine, keeps.held_expire (Cache.expire_eq_ok fine)⟩

namespace Shards

variable {policy : Policy} {first second : Shards policy} {now : Tick}

/-- The exact sum of a field over what all caches report. -/
def summed (field : Tally → UInt64) (shards : Shards policy) : Nat :=
  (shards.map fun shard => (field shard.2.report).toNat).sum

/-- Every cache as an expiry of it alone leaves it. -/
def expired (now : Tick) (shards : Shards policy) : Shards policy :=
  shards.map fun shard => (shard.1, final (Cache.expire now shard.2))

theorem summed_expired {field : Tally → UInt64} {shards : Shards policy} :
    summed field (shards.expired now) =
      (shards.map fun shard => (field (final (Cache.expire now shard.2)).report).toNat).sum := by
  unfold summed expired
  rw [List.map_map]
  rfl

theorem total_eq_of_perm (same : first.Perm second) : first.total = second.total :=
  Tally.total_eq_of_perm (same.map _)

/-- Caches that were reached without a fault, and whose memos can be counted, expire in any
order, with the same number. -/
theorem expire_eq_of_perm (same : first.Perm second)
    (ready : ∀ shard ∈ first,
      (∃ requests replies, Cache.serveAll requests Cache.empty = .ok replies shard.2) ∧
        shard.2.Countable now) :
    ∃ number, first.expire now = .ok number (first.expired now) ∧
      second.expire now = .ok number (second.expired now) ∧
      summed Tally.held (first.expired now) + number = summed Tally.held first ∧
      summed Tally.expirations (first.expired now) =
        summed Tally.expirations first + number := by
  have each (shard : UInt32 × Cache policy) (member : shard ∈ first) :=
    Cache.expire_of_reached (ready shard member).1 (ready shard member).2
  have numbers := (same.map fun shard => shard.2.deadlines.overdue now).sum_nat
  refine ⟨_, expire_eq_ok_iff.mpr ⟨fun shard member => (each shard member).1, rfl, rfl⟩,
    expire_eq_ok_iff.mpr ⟨?_, numbers, rfl⟩, ?_, ?_⟩
  · intro shard member
    exact (each shard (same.mem_iff.mpr member)).1
  · rw [summed_expired, ← List.sum_map_add]
    exact congrArg List.sum (List.map_congr_left fun shard member => (each shard member).2.1)
  · rw [summed_expired]
    unfold summed
    rw [← List.sum_map_add]
    exact congrArg List.sum (List.map_congr_left fun shard member => (each shard member).2.2)

end Shards

namespace Router

variable {settings : Settings} {σ : Type} {router : Router settings σ}

theorem expire_of_shards {now : Tick} {number : Nat} {shards : Shards settings.policy}
    (expired : router.shards.expire now = .ok number shards) :
    expire now router = .ok number { router with shards } := by
  unfold expire
  rw [expired]

/-- Two routers with the same caches in another order. Whatever their counters are, they have
the same total or no total at all, which is an overflow, and there is none exactly when the
exact sum of some field is too large for a word. That holds of any tallies. If the caches
were reached without a fault and what expires can be counted, then both routers expire the
same number of memos and leave every cache as an expiry of it alone does. The number is what
all that are held lose and what all expirations gain. -/
theorem aggregates_of_perm (settings : Settings) (σ : Type) :
    (∀ first second : List Tally, first.Perm second →
      Tally.total first = Tally.total second ∧
        ∀ fault, Tally.total first = .error fault ↔
          fault = .additionOverflow ∧ Tally.Overflow first) ∧
    ∀ first second : Router settings σ, first.shards.Perm second.shards →
      (first.total = second.total ∧
        ∀ fault, first.total = .error fault ↔
          fault = .additionOverflow ∧
            Tally.Overflow (first.shards.map fun shard => shard.2.report)) ∧
      ∀ now : Tick,
        (∀ shard ∈ first.shards,
          (∃ requests replies,
            Cache.serveAll requests Cache.empty = .ok replies shard.2) ∧
              shard.2.Countable now) →
        ∃ number,
          expire now first = .ok number { first with shards := first.shards.expired now } ∧
          expire now second = .ok number { second with shards := second.shards.expired now } ∧
          (first.shards.expired now).summed Tally.held + number =
            first.shards.summed Tally.held ∧
          (first.shards.expired now).summed Tally.expirations =
            first.shards.summed Tally.expirations + number := by
  refine ⟨?_, ?_⟩
  · intro first second same
    exact ⟨Tally.total_eq_of_perm same, fun fault => Tally.total_eq_error_iff⟩
  · intro first second same
    refine ⟨⟨Shards.total_eq_of_perm same, fun fault => Tally.total_eq_error_iff⟩, ?_⟩
    intro now ready
    obtain ⟨number, one, other, held, expirations⟩ := Shards.expire_eq_of_perm same ready
    exact ⟨number, expire_of_shards one, expire_of_shards other, held, expirations⟩

/-- Two tallies whose sum is no word, and two caches of which one holds an overdue memo. -/
theorem aggregates_of_perm_two :
    let full : Tally := { misses := 0xFFFFFFFFFFFFFFFF }
    let one : Tally := { hits := 3, misses := 1 }
    let settings : Settings := {}
    (Tally.total [full, one] = .error .additionOverflow ∧
      Tally.total [one, full] = .error .additionOverflow) ∧
    ∃ (early late : Cache settings.policy) (first second : Router settings Unit),
      Cache.serveAll [.insert ⟨eastward 5, ⟨{}, .reached⟩⟩ 0] Cache.empty =
          .ok [.inserted .stored] early ∧
        Cache.serveAll [.insert ⟨eastward 6, ⟨{}, .reached⟩⟩ 9] Cache.empty =
          .ok [.inserted .stored] late ∧
        expire 211 ⟨[(1, early), (0, late)], ()⟩ = .ok 1 first ∧
        expire 211 ⟨[(0, late), (1, early)], ()⟩ = .ok 1 second ∧
        first.shards.Perm second.shards := by
  intro full one settings
  obtain ⟨tallies, routers⟩ := aggregates_of_perm settings Unit
  obtain ⟨same, faults⟩ := tallies [full, one] [one, full] (.swap _ _ _)
  have none := (faults .additionOverflow).mpr ⟨rfl, .inl ⟨.miss, by decide⟩⟩
  refine ⟨⟨none, same ▸ none⟩, ?_⟩
  have closed : ends (fun replies (early : Cache settings.policy) =>
      replies = [.inserted .stored] ∧
        ends (fun replies (late : Cache settings.policy) =>
          replies = [.inserted .stored] ∧
            answer? (expire 211 (⟨[(1, early), (0, late)], ()⟩ : Router settings Unit)) = some 1)
          (Cache.serveAll [.insert ⟨eastward 6, ⟨{}, .reached⟩⟩ 9] Cache.empty))
      (Cache.serveAll [.insert ⟨eastward 5, ⟨{}, .reached⟩⟩ 0] Cache.empty) := by
    decide +kernel
  obtain ⟨_, early, stored, reached⟩ := ends_iff.mp closed
  obtain ⟨rfl, other⟩ := of_decide_eq_true reached
  obtain ⟨_, late, stored', reached'⟩ := ends_iff.mp other
  obtain ⟨rfl, counted⟩ := of_decide_eq_true reached'
  have countable {memo : Memo} {now : Tick} {cache : Cache settings.policy}
      (run : Cache.serveAll [.insert memo now] Cache.empty = .ok [.inserted .stored] cache) :
      cache.Countable 211 := by
    obtain ⟨_, sound, describes⟩ := Register.of_serveAll run
    have short : [Cache.Request.insert memo now].length < UInt64.size := by
      rw [List.length_singleton]
      decide
    exact (describes.countable_iff sound).mpr
      (Register.counts_expire_serveAll_lt settings.policy short 211)
  have ready : ∀ shard ∈ [((1 : UInt32), early), (0, late)],
      (∃ requests replies, Cache.serveAll requests Cache.empty = .ok replies shard.2) ∧
        shard.2.Countable 211 := by
    intro shard member
    rcases List.mem_pair.mp member with rfl | rfl
    · exact ⟨⟨_, _, stored⟩, countable stored⟩
    · exact ⟨⟨_, _, stored'⟩, countable stored'⟩
  obtain ⟨number, here, there, _⟩ := (routers ⟨[(1, early), (0, late)], ()⟩
    ⟨[(0, late), (1, early)], ()⟩ (.swap _ _ _)).2 211 ready
  obtain rfl : number = 1 := Option.some.inj ((congrArg answer? here).symm.trans counted)
  exact ⟨early, late, _, _, stored, stored', here, there, .swap _ _ _⟩

end Router

end RouteCache
