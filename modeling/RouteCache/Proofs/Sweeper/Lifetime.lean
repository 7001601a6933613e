import RouteCache.Proofs.Sweeper.Running

/-!
How long a memo stays in a cache that the loop expires. The loop gets its tick before it gets
the lock, so a memo may be stored meanwhile, but never at an earlier tick than one at which
memos have been expired. So no memo is out of order, and a memo stays until it is evicted or
until the first round whose tick is beyond the last one of the memo, however long the lock
was held.
-/

namespace RouteCache

namespace Sweeper

open Cache (Advancing Dealing Dealt Evicted cacheAfter)

variable {policy : Policy} {stalls : Prop} {sweeper after : Sweeper policy}
  {log deeds : List Deed}

/-- No tick at which memos were expired, or are to be, is ahead of the clock. -/
structure Timed (log : List Deed) (sweeper : Sweeper policy) : Prop where
  blocked : ∀ tick due, sweeper.phase = .blocked tick due → tick ≤ sweeper.clock.tick
  expired : ∀ tick reply, (.expire tick, reply) ∈ dealings log → tick ≤ sweeper.clock.tick
  advancing : Advancing (dealings log)

theorem timed_new (interval : Nat) : Timed [] ({ interval } : Sweeper policy) where
  blocked := by
    intro tick due blocked
    cases blocked
  expired := by
    intro tick reply member
    cases member
  advancing := .nil

theorem Timed.quiet (timed : Timed log sweeper) (undealt : dealings deeds = [])
    (clock : sweeper.clock.tick ≤ after.clock.tick)
    (blocked : ∀ tick due, after.phase = .blocked tick due → tick ≤ after.clock.tick) :
    Timed (log ++ deeds) after := by
  refine ⟨blocked, ?_, ?_⟩
  · intro tick reply member
    rw [dealings_append, undealt, List.append_nil] at member
    exact UInt64.le_trans (timed.expired tick reply member) clock
  · rw [dealings_append, undealt, List.append_nil]
    exact timed.advancing

/-- A request that is made at the tick of the clock, or expires memos at no later tick. -/
theorem Timed.dealt (timed : Timed log sweeper) {dealing : Dealing}
    (dealt : dealings deeds = [dealing]) (clock : after.clock = sweeper.clock)
    (expired : ∀ tick, dealing.1 = .expire tick → tick ≤ sweeper.clock.tick)
    (inserted : ∀ memo now, dealing.1 = .insert memo now → now = sweeper.clock.tick)
    (blocked : ∀ tick due, after.phase = .blocked tick due → tick ≤ after.clock.tick) :
    Timed (log ++ deeds) after := by
  refine ⟨blocked, ?_, ?_⟩
  · intro tick reply member
    rw [dealings_append, dealt, List.mem_append, List.mem_singleton] at member
    rw [clock]
    rcases member with old | rfl
    · exact timed.expired tick reply old
    · exact expired tick rfl
  · rw [dealings_append, dealt]
    refine List.pairwise_append.mpr ⟨timed.advancing, List.pairwise_singleton _ _, ?_⟩
    rintro ⟨_, reply⟩ old last isLast tick memo now rfl later
    rw [List.mem_singleton.mp isLast] at later
    rw [inserted memo now later]
    exact timed.expired tick reply old

theorem Move.timed (move : Move stalls sweeper deeds after) (running : Running log sweeper)
    (fits : Fits (log ++ deeds)) (timed : Timed log sweeper) : Timed (log ++ deeds) after := by
  have same := UInt64.le_refl sweeper.clock.tick
  cases move with
  | start idle positive => exact timed.quiet rfl same (by simp)
  | refuse idle zero => exact timed.quiet rfl same (by simp)
  | takeUp waits next =>
    refine timed.quiet rfl (Clock.le_of_next next) ?_
    intro tick due blocked
    cases blocked
    exact UInt64.le_refl _
  | overrun waits full => exact absurd full (running.not_full fits _)
  | expire blocked expired =>
    refine timed.dealt rfl rfl ?_ (by simp) (by simp)
    rintro tick ⟨⟩
    exact timed.blocked _ _ blocked
  | fail blocked failed => exact absurd failed (running.not_failed fits.of_append _ _ _)
  | pass later free ahead => exact timed.quiet rfl same timed.blocked
  | stall allowed later blocked => exact timed.quiet rfl same timed.blocked
  | advance next =>
    refine timed.quiet rfl (Clock.le_of_next next) ?_
    intro tick due blocked
    exact UInt64.le_trans (timed.blocked tick due blocked) (Clock.le_of_next next)
  | insert inserted =>
    refine timed.dealt rfl rfl (by simp) ?_ timed.blocked
    rintro memo now ⟨⟩
    rfl
  | lookup looked => exact timed.dealt rfl rfl (by simp) (by simp) timed.blocked
  | stop free => exact timed.quiet rfl same (by simp)

/-- In a run that is brief no step faults, whatever the interval, and the cache is what all
uses of it come to one after another. Every memo that was stored is there from then on,
unless it was evicted, as long as the loop expires memos at ticks up to its last one, which
is its lifetime after the tick of the clock at which it was stored, or the greatest word.
Once the loop has expired memos at a later tick, it is gone. -/
theorem stored_until_passed (policy : Policy) (interval : Nat) (steps : List Step)
    (brief : Brief policy interval steps) :
    let log := chronicle steps ({ interval } : Sweeper policy)
    ∃ answers after,
      serveAll steps ({ interval } : Sweeper policy) = .ok answers after ∧
      Dealt (dealings log) after.cache ∧
      ∀ past memo now future rest,
        dealings log = past ++ (.insert memo now, .inserted .stored) :: future ++ rest →
        let entry : Entry := ⟨policy.place memo.query, memo, policy.lastTick now⟩
        let stored := past ++ [(.insert memo now, .inserted .stored)]
        entry.last.toNat = min (now.toNat + policy.lifetime.toNat) (UInt64.size - 1) ∧
        ((∀ tick reply, (.expire tick, reply) ∈ future → tick ≤ entry.last) →
          entry ∈ (cacheAfter policy (stored ++ future)).entries ∨
            Evicted policy entry stored future) ∧
        ((∃ tick reply, (.expire tick, reply) ∈ future ∧ entry.last < tick) →
          entry ∉ (cacheAfter policy (stored ++ future)).entries) := by
  intro log
  obtain ⟨answers, after, ran⟩ := brief.exists_ran
  have timed : Timed log after :=
    ran.moves.carry (running_new interval) ran.fits (timed_new interval)
      fun _ _ _ _ move running fits timed => move.timed running fits timed
  refine ⟨answers, after, ran.run, ran.running.dealt, ?_⟩
  intro past memo now future rest parts entry stored
  have whole : dealings log = stored ++ future ++ rest := by
    rw [parts, List.append_assoc past, List.cons_append]
    simp only [stored, List.append_assoc, List.cons_append, List.nil_append]
  have dealt := ran.running.dealt
  rw [whole] at dealt
  have reached : Dealt (stored ++ future) (cacheAfter policy (stored ++ future)) := dealt.of_append
  have beginning : Dealt stored (cacheAfter policy stored) := reached.of_append
  obtain ⟨before, earlier, served⟩ := Cache.dealt_concat_iff.mp beginning
  have there : entry ∈ (cacheAfter policy stored).entries :=
    Cache.mem_of_stored earlier.keeps served
  have advancing : Advancing future := by
    refine timed.advancing.sublist ?_
    rw [whole]
    exact (List.sublist_append_right stored future).trans (List.sublist_append_left _ rest)
  refine ⟨?_, reached.mem_or_evicted there, ?_⟩
  · exact toNat_cappedAdd now policy.lifetime
  · intro passed member
    obtain ⟨register, sound, describes, beyond⟩ := reached.keeps_beyond advancing passed
    rw [describes.entries_eq sound.distinct] at member
    exact UInt64.lt_irrefl _ (beyond entry member)

/-- A memo is kept by the round at the first tick, and removed by the round at the third, which
waited for the lock. The second tick was prompted. -/
theorem stored_until_passed_held :
    let policy := Policy.bounded (Grid.slot ⟨8, 8⟩) 10 2
    let memo : Memo := ⟨eastward 5, ⟨{}, .reached⟩⟩
    let steps : List Step := [.insert memo, .sleep 12, .advance, .hold 25]
    let stored : Dealing := (.insert memo 0, .inserted .stored)
    let entry : Entry := ⟨policy.place memo.query, memo, 2⟩
    Brief policy 10 steps ∧
      dealings (chronicle steps ({ interval := 10 } : Sweeper policy)) =
        [stored, (.expire 1, .expired 0), (.expire 3, .expired 1), (.expire 4, .expired 0)] ∧
      entry ∈ (cacheAfter policy [stored, (.expire 1, .expired 0)]).entries ∧
      entry ∉ (cacheAfter policy
        [stored, (.expire 1, .expired 0), (.expire 3, .expired 1)]).entries := by
  intro policy memo steps stored entry
  have brief : Brief policy 10 steps := ⟨by decide, by decide +kernel⟩
  have told : dealings (chronicle steps ({ interval := 10 } : Sweeper policy)) =
      [stored, (.expire 1, .expired 0), (.expire 3, .expired 1), (.expire 4, .expired 0)] := by
    decide +kernel
  obtain ⟨answers, after, _, _, lasts⟩ := stored_until_passed policy 10 steps brief
  refine ⟨brief, told, ?_, ?_⟩
  · obtain ⟨_, kept, _⟩ := lasts [] memo 0 [(.expire 1, .expired 0)] _ told
    refine (kept ?_).resolve_right ?_
    · intro tick reply member
      cases List.mem_singleton.mp member
      decide
    · rintro ⟨earlier, other, now, reply, later, same, _⟩
      have member : (.insert other now, reply) ∈ [((.expire 1, .expired 0) : Dealing)] := by
        rw [same]
        exact List.mem_append_right _ List.mem_cons_self
      cases List.mem_singleton.mp member
  · obtain ⟨_, _, gone⟩ := lasts [] memo 0 [(.expire 1, .expired 0), (.expire 3, .expired 1)] _ told
    exact gone ⟨3, .expired 1, by simp, by decide⟩

end Sweeper

end RouteCache
