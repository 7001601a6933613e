import RouteCache.Proofs.Cache.Counters
import RouteCache.Proofs.Cache.Keeps

/-!
A cache that is used at ticks which do not go back. No memo was stored after a certain
tick, so a memo that is offered at that tick or later is not out of order, and as long as
there were fewer lookups and insertions than a word can count no counter is full. So every
use of the cache succeeds. A property that new entries have is carried along. With the
property that a memo tells what a function says, the cache answers with that function.
-/

namespace RouteCache

variable {policy : Policy} {P : Entry → Prop} {clock : Tick}

namespace Register

variable {register : Register}

/-- Every entry has a property, and was stored by a certain tick. -/
structure Timely (policy : Policy) (P : Entry → Prop) (clock : Tick) (register : Register) :
    Prop where
  sound : register.Sound policy
  all : ∀ entry ∈ register.entries, P entry
  early : ∀ entry ∈ register.entries, entry.last ≤ policy.lastTick clock

theorem timely_empty (policy : Policy) (P : Entry → Prop) (clock : Tick) :
    empty.Timely policy P clock where
  sound := sound_empty policy
  all := by
    intro entry member
    cases member
  early := by
    intro entry member
    cases member

theorem Timely.of_sublist {fewer : Register} (h : register.Timely policy P clock)
    (part : fewer.entries.Sublist register.entries) : fewer.Timely policy P clock :=
  ⟨h.sound.of_sublist part, fun entry member => h.all entry (part.subset member),
    fun entry member => h.early entry (part.subset member)⟩

theorem Timely.later (h : register.Timely policy P clock) {now : Tick} (passed : clock ≤ now) :
    register.Timely policy P now :=
  ⟨h.sound, h.all, fun entry member =>
    UInt64.le_trans (h.early entry member) (lastTick_mono policy passed)⟩

/-- Whatever was stored by a tick is no obstacle to a memo at that tick. -/
theorem Timely.inOrder (h : register.Timely policy P clock) (memo : Memo) :
    register.InOrder policy (.insert memo clock) := by
  intro vacant newest last
  apply h.early
  apply (makeRoom_sublist policy register).subset
  exact List.mem_of_getLast? last

theorem Timely.insert (h : register.Timely policy P clock) {memo : Memo}
    (new : P ⟨policy.place memo.query, memo, policy.lastTick clock⟩) :
    (register.insert policy memo clock).2.Timely policy P clock := by
  refine ⟨h.sound.insert (h.inOrder memo), ?_, ?_⟩
  · intro entry member
    rcases mem_of_mem_insert member with old | rfl
    · exact h.all entry old
    · exact new
  · intro entry member
    rcases mem_of_mem_insert member with old | rfl
    · exact h.early entry old
    · exact UInt64.le_refl _

end Register

namespace Cache

variable {cache after : Cache policy} {lookups inserts : Nat} {query : Query} {memo : Memo}
  {now : Tick}

/-- A timely register describes the cache after so many lookups and insertions. -/
def Timely (P : Entry → Prop) (lookups inserts : Nat) (clock : Tick) (cache : Cache policy) :
    Prop :=
  ∃ register : Register, register.Timely policy P clock ∧ register.Within lookups inserts ∧
    register.Describes cache

theorem timely_empty (P : Entry → Prop) (clock : Tick) :
    (empty : Cache policy).Timely P 0 0 clock :=
  ⟨Register.empty, Register.timely_empty policy P clock, Register.within_empty,
    Register.describes_empty⟩

theorem Timely.mono (h : cache.Timely P lookups inserts clock) {more further : Nat}
    (hl : lookups ≤ more) (hi : inserts ≤ further) (passed : clock ≤ now) :
    cache.Timely P more further now := by
  obtain ⟨register, timely, within, describes⟩ := h
  exact ⟨register, timely.later passed, within.mono hl hi, describes⟩

theorem Timely.keeps (h : cache.Timely P lookups inserts clock) : cache.Keeps P := by
  obtain ⟨register, timely, _, describes⟩ := h
  exact ⟨register, timely.sound, describes, timely.all⟩

theorem Timely.lookup (h : cache.Timely P lookups inserts clock) {answer : Option Memo}
    (looked : Cache.lookup query cache = .ok answer after) :
    after.Timely P (lookups + 1) inserts clock := by
  obtain ⟨register, timely, within, describes⟩ := h
  obtain ⟨_, _, described⟩ := describes.of_lookup timely.sound looked
  exact ⟨(register.lookup policy query).2, timely.of_sublist (List.Sublist.refl _),
    within.lookup query, described⟩

theorem Timely.insert (h : cache.Timely P lookups inserts clock) {outcome : Outcome}
    (inserted : Cache.insert memo clock cache = .ok outcome after)
    (new : P ⟨policy.place memo.query, memo, policy.lastTick clock⟩) :
    after.Timely P lookups (inserts + 1) clock := by
  obtain ⟨register, timely, within, describes⟩ := h
  obtain ⟨_, _, described⟩ := describes.of_insert timely.sound inserted
  exact ⟨_, timely.insert new, within.insert memo clock, described⟩

theorem Timely.expire (h : cache.Timely P lookups inserts clock) {number : Nat}
    (expired : Cache.expire now cache = .ok number after) :
    after.Timely P lookups inserts clock := by
  obtain ⟨register, timely, within, describes⟩ := h
  obtain ⟨_, _, described⟩ := describes.of_expire timely.sound expired
  exact ⟨(register.expire now).2, timely.of_sublist List.filter_sublist, within.expire now,
    described⟩

/-! ### Nothing faults -/

theorem Timely.exists_lookup (h : cache.Timely P lookups inserts clock)
    (hl : lookups + 1 < UInt64.size) (hi : inserts < UInt64.size) (query : Query) :
    ∃ after, Cache.lookup query cache = .ok (cache.find? query) after := by
  obtain ⟨register, _, within, describes⟩ := h
  have counted : (register.lookup policy query).2.Within (lookups + 1) inserts :=
    within.lookup query
  obtain ⟨after, looked, _⟩ :=
    (describes.lookup query).done_of_fits (counted.counts_lt hl hi) trivial
  rw [describes.find?]
  exact ⟨after, looked⟩

theorem Timely.exists_insert (h : cache.Timely P lookups inserts clock)
    (hl : lookups < UInt64.size) (hi : inserts + 1 < UInt64.size) (memo : Memo) :
    ∃ outcome after, Cache.insert memo clock cache = .ok outcome after := by
  obtain ⟨register, timely, within, describes⟩ := h
  have counted : (register.insert policy memo clock).2.Within lookups (inserts + 1) :=
    within.insert memo clock
  obtain ⟨after, inserted, _⟩ := (describes.insert timely.sound memo clock).done_of_fits
    (counted.counts_lt hl hi) (timely.inOrder memo)
  exact ⟨_, after, inserted⟩

theorem Timely.exists_expire (h : cache.Timely P lookups inserts clock)
    (hl : lookups < UInt64.size) (hi : inserts < UInt64.size) (now : Tick) :
    ∃ number after, Cache.expire now cache = .ok number after := by
  obtain ⟨register, timely, within, describes⟩ := h
  obtain ⟨after, expired, _⟩ := (describes.expire timely.sound now).done_of_fits
    ((within.expire now).counts_lt hl hi) trivial
  exact ⟨_, after, expired⟩

/-! ### Memos of one function -/

/-- A timely cache in which every memo tells what a function says. -/
abbrev Faithful (f : Query → Found) : Nat → Nat → Tick → Cache policy → Prop :=
  Timely fun entry => entry.memo.found = f entry.memo.query

/-- What is found in a faithful cache is what the function says. -/
theorem Faithful.found {f : Query → Found} (h : cache.Faithful f lookups inserts clock)
    (separates : policy.place.SeparatesRadii) (found : cache.find? query = some memo) :
    memo.found = f query := by
  obtain ⟨register, sound, describes, truthful⟩ := h.keeps
  have same := query_of_find? separates sound describes found
  obtain ⟨entry, member, _, kept⟩ := describes.entry_of_get? (find?_eq_some_iff.mp found).1
  rw [← same, ← kept]
  exact truthful entry member

end Cache

end RouteCache
