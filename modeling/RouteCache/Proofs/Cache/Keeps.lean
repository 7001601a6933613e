import RouteCache.Proofs.Cache.Entries
import RouteCache.Proofs.Cache.Lookups
import RouteCache.Proofs.Cache.Radius

/-!
A property of all entries of a cache. A lookup and an expiry bring in no entry, and an
insertion brings in one, so a property that the new entries have is one of all entries. An
expiry also leaves no entry whose last tick has passed.
-/

namespace RouteCache

variable {P Q : Entry → Prop}

namespace Cache

variable {policy : Policy} {cache between after : Cache policy} {query : Query} {memo : Memo}
  {now : Tick}

/-- A sound register describes the cache, and all its entries have a property. -/
def Keeps (P : Entry → Prop) (cache : Cache policy) : Prop :=
  ∃ register : Register, register.Sound policy ∧ register.Describes cache ∧
    ∀ entry ∈ register.entries, P entry

theorem keeps_empty (P : Entry → Prop) : (empty : Cache policy).Keeps P := by
  refine ⟨Register.empty, Register.sound_empty policy, Register.describes_empty, ?_⟩
  intro entry member
  cases member

theorem Keeps.mono (h : cache.Keeps P) (weaker : ∀ entry, P entry → Q entry) : cache.Keeps Q := by
  obtain ⟨register, sound, describes, all⟩ := h
  exact ⟨register, sound, describes, fun entry member => weaker entry (all entry member)⟩

theorem Keeps.lookup (h : cache.Keeps P) {answer : Option Memo}
    (looked : Cache.lookup query cache = .ok answer after) : after.Keeps P := by
  obtain ⟨register, sound, describes, all⟩ := h
  obtain ⟨_, sound', described⟩ := describes.of_lookup sound looked
  exact ⟨_, sound', described, all⟩

theorem Keeps.insert (h : cache.Keeps P) {outcome : Outcome}
    (inserted : Cache.insert memo now cache = .ok outcome after)
    (new : P ⟨policy.place memo.query, memo, policy.lastTick now⟩) : after.Keeps P := by
  obtain ⟨register, sound, describes, all⟩ := h
  obtain ⟨_, sound', described⟩ := describes.of_insert sound inserted
  refine ⟨_, sound', described, ?_⟩
  intro entry member
  rcases Register.mem_of_mem_insert member with old | last
  · exact all entry old
  · rw [last]
    exact new

theorem Keeps.expire (h : cache.Keeps P) {number : Nat}
    (expired : Cache.expire now cache = .ok number after) :
    after.Keeps fun entry => P entry ∧ now ≤ entry.last := by
  obtain ⟨register, sound, describes, all⟩ := h
  obtain ⟨_, sound', described⟩ := describes.of_expire sound expired
  refine ⟨_, sound', described, ?_⟩
  intro entry member
  obtain ⟨there, current⟩ := List.mem_filter.mp member
  refine ⟨all entry there, UInt64.not_lt.mp ?_⟩
  simpa using current

/-- A memo that answers a query belongs to an entry, and where radii are kept apart it is
of that very query. -/
theorem Keeps.of_lookup (h : cache.Keeps P) (separates : policy.place.SeparatesRadii)
    (looked : Cache.lookup query cache = .ok (some memo) after) :
    ∃ entry, P entry ∧ entry.memo = memo ∧ memo.query = query := by
  obtain ⟨register, sound, describes, all⟩ := h
  have found := (lookup_answer looked).symm
  obtain ⟨entry, member, _, same⟩ := describes.entry_of_get? (find?_eq_some_iff.mp found).1
  exact ⟨entry, all entry member, same, query_of_find? separates sound describes found⟩

/-- A query that a lookup does not find is no duplicate when a memo for it is offered then.
What a duplicate meets is there although room was made, so the lookup would have found it. -/
theorem Keeps.not_duplicate (h : cache.Keeps P)
    (looked : Cache.lookup query cache = .ok none between) {found : Found} {outcome : Outcome}
    (inserted : Cache.insert ⟨query, found⟩ now between = .ok outcome after) :
    outcome ≠ .duplicate := by
  rintro rfl
  have missing := lookup_answer looked
  obtain ⟨register, sound, describes, _⟩ := h.lookup looked
  obtain ⟨same, _, _⟩ := describes.of_insert sound inserted
  cases occupied : (register.makeRoom policy).at? (policy.place query) with
  | none =>
    rw [Register.insert_of_vacant now occupied] at same
    cases same
  | some present =>
    obtain ⟨outcome, _⟩ : (register.insert policy ⟨query, found⟩ now).1 = _ ∧ _ :=
      Register.insert_of_occupied now occupied
    have mine : present.memo.query = query := by
      by_contra differs
      rw [outcome, if_neg differs] at same
      cases same
    obtain ⟨stayed, placed⟩ := Register.of_at?_eq_some occupied
    have there : register.at? (policy.place query) = some present := by
      rw [← placed]
      exact Register.at?_of_mem sound.distinct
        ((Register.makeRoom_sublist policy register).subset stayed)
    have settles : present.memo.settles query = true := by
      unfold Memo.settles
      rw [mine]
      exact Query.sameTrip_self query
    have answers : cache.find? query = some present.memo := by
      rw [find?_eq_some_iff, ← (lookup_alike looked).shelf, describes.memos, there]
      exact ⟨rfl, settles⟩
    rw [answers] at missing
    cases missing

end Cache

end RouteCache
