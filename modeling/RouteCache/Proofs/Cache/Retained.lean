import RouteCache.Proofs.Cache.Keeps
import RouteCache.Proofs.Cache.Retention

/-!
A memo that is sure to stay. What was just stored stays through fewer insertions than the
capacity and through every expiry up to its last tick, and as long as it stays its query is
found. Each insertion uses up one of those that the memo can bear.
-/

namespace RouteCache

namespace Cache

variable {policy : Policy} {cache after : Cache policy} {query : Query} {memo : Memo}
  {inserts fewer : Nat} {last earlier now : Tick} {P : Entry → Prop}

/-- A memo of a query stays through a number of insertions and every expiry up to a tick. -/
def Retains (query : Query) (inserts : Nat) (last : Tick) (cache : Cache policy) : Prop :=
  ∃ register : Register, register.Sound policy ∧ register.Describes cache ∧
    ∃ entry : Entry, entry.memo.query = query ∧ last ≤ entry.last ∧
      register.Retains policy entry inserts

theorem Retains.mono (h : cache.Retains query inserts last) (le : fewer ≤ inserts) :
    cache.Retains query fewer last := by
  obtain ⟨register, sound, describes, entry, mine, late, older, newer, parts, room⟩ := h
  exact ⟨register, sound, describes, entry, mine, late, older, newer, parts, by omega⟩

theorem Retains.mem_entries (h : cache.Retains query inserts last) :
    ∃ entry ∈ cache.entries, entry.memo.query = query := by
  obtain ⟨register, sound, describes, entry, mine, _, older, newer, parts, _⟩ := h
  refine ⟨entry, ?_, mine⟩
  rw [describes.entries_eq sound.distinct, parts]
  exact List.mem_append_right older List.mem_cons_self

theorem Retains.found (h : cache.Retains query inserts last) :
    ∃ memo, cache.find? query = some memo := by
  obtain ⟨register, sound, describes, entry, rfl, _, older, newer, parts, _⟩ := h
  have member : entry ∈ register.entries := by
    rw [parts]
    exact List.mem_append_right older List.mem_cons_self
  exact ⟨entry.memo, describes.find?_of_mem sound member⟩

theorem Retains.lookup (h : cache.Retains query inserts last) {other : Query}
    {answer : Option Memo} (looked : Cache.lookup other cache = .ok answer after) :
    after.Retains query inserts last := by
  obtain ⟨register, sound, describes, entry, mine, late, stays⟩ := h
  obtain ⟨_, sound', described⟩ := describes.of_lookup sound looked
  exact ⟨_, sound', described, entry, mine, late, stays⟩

theorem Retains.insert (h : cache.Retains query (inserts + 1) last) {outcome : Outcome}
    (inserted : Cache.insert memo now cache = .ok outcome after) :
    after.Retains query inserts last := by
  obtain ⟨register, sound, describes, entry, mine, late, stays⟩ := h
  obtain ⟨_, sound', described⟩ := describes.of_insert sound inserted
  exact ⟨_, sound', described, entry, mine, late, stays.insert memo now⟩

theorem Retains.expire (h : cache.Retains query inserts last) (current : now ≤ last)
    {number : Nat} (expired : Cache.expire now cache = .ok number after) :
    after.Retains query inserts last := by
  obtain ⟨register, sound, describes, entry, mine, late, stays⟩ := h
  obtain ⟨_, sound', described⟩ := describes.of_expire sound expired
  exact ⟨_, sound', described, entry, mine, late, stays.expire (UInt64.le_trans current late)⟩

/-- Nothing stands behind a memo that was just stored. -/
theorem Keeps.retains_of_stored (h : cache.Keeps P)
    (inserted : Cache.insert memo now cache = .ok .stored after)
    (few : inserts < policy.capacity.toNat) (late : last ≤ policy.lastTick now) :
    after.Retains memo.query inserts last := by
  obtain ⟨register, sound, describes, _⟩ := h
  obtain ⟨stored, sound', described⟩ := describes.of_insert sound inserted
  refine ⟨_, sound', described, _, rfl, late, _, [],
    Register.entries_insert_of_stored stored.symm, ?_⟩
  rw [List.length_nil, Nat.zero_add]
  exact few

end Cache

end RouteCache
