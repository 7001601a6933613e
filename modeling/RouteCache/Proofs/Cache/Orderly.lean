import RouteCache.Proofs.Cache.Timely

/-!
A cache that is only asked queries which have slots of their own. No memo is then refused
for another query, so whatever is searched after a lookup that found nothing is stored.
-/

namespace RouteCache

/-- No two of the queries that are asked share a slot. -/
def Placement.Separates (place : Placement) (asked : Query → Prop) : Prop :=
  ∀ q r, asked q → asked r → place q = place r → q = r

namespace Cache

variable {policy : Policy} {cache between after : Cache policy} {asked : Query → Prop}
  {P : Entry → Prop} {lookups inserts : Nat} {clock now : Tick} {query : Query} {memo : Memo}
  {outcome : Outcome}

/-! ### Collisions -/

/-- A memo that is refused for another query shares its slot with a memo of that query. -/
theorem Keeps.not_collided (h : cache.Keeps P)
    (apart : ∀ entry, P entry → policy.place entry.memo.query = policy.place memo.query →
      entry.memo.query = memo.query)
    (inserted : Cache.insert memo now cache = .ok outcome after) : outcome ≠ .collided := by
  rintro rfl
  obtain ⟨register, sound, describes, all⟩ := h
  obtain ⟨same, _, _⟩ := describes.of_insert sound inserted
  cases occupied : (register.makeRoom policy).at? (policy.place memo.query) with
  | none =>
    rw [Register.insert_of_vacant now occupied] at same
    cases same
  | some present =>
    obtain ⟨stayed, placed⟩ := Register.of_at?_eq_some occupied
    have member : present ∈ register.entries :=
      (Register.makeRoom_sublist policy register).subset stayed
    have mine : present.memo.query = memo.query := by
      apply apart present (all present member)
      rw [sound.placed present member, placed]
    rw [(Register.insert_of_occupied now occupied).1, if_pos mine] at same
    cases same

/-- An insertion counts evictions and collisions only. -/
theorem Keeps.number_insert (h : cache.Keeps P)
    (inserted : Cache.insert memo now cache = .ok outcome after) {occasion : Occasion}
    (spared : occasion ≠ .eviction) (kept : occasion = .collision → outcome ≠ .collided) :
    after.tally.number occasion = cache.tally.number occasion := by
  obtain ⟨register, sound, describes, _⟩ := h
  obtain ⟨rfl, _, described⟩ := describes.of_insert sound inserted
  have refused : ¬(occasion = .collision ∧ (register.insert policy memo now).1 = .collided) :=
    fun both => kept both.1 both.2
  apply UInt64.toNat_inj.mp
  rw [described.counts, describes.counts, Register.counts_insert, if_neg spared, if_neg refused,
    Nat.add_zero]

theorem Keeps.collisions_expire (h : cache.Keeps P) {number : Nat}
    (expired : Cache.expire now cache = .ok number after) :
    after.tally.collisions = cache.tally.collisions := by
  obtain ⟨register, sound, describes, _⟩ := h
  obtain ⟨_, _, described⟩ := describes.of_expire sound expired
  apply UInt64.toNat_inj.mp
  exact (described.counts .collision).trans (describes.counts .collision).symm

theorem collisions_lookup {answer : Option Memo}
    (looked : Cache.lookup query cache = .ok answer after) :
    after.tally.collisions = cache.tally.collisions :=
  (lookup_alike looked).counts .collision (by simp) (by simp)

/-- A memo that was just stored is found. -/
theorem Keeps.find?_of_stored (h : cache.Keeps P)
    (inserted : Cache.insert memo now cache = .ok .stored after) :
    after.find? memo.query = some memo := by
  obtain ⟨register, sound, describes, _⟩ := h
  obtain ⟨stored, sound', described⟩ := describes.of_insert sound inserted
  have member : (⟨policy.place memo.query, memo, policy.lastTick now⟩ : Entry) ∈
      (register.insert policy memo now).2.entries := by
    rw [Register.entries_insert_of_stored stored.symm]
    exact List.mem_append_right _ List.mem_cons_self
  exact described.find?_of_mem sound' member

/-- A query that was not found is found once its search is stored. The counter of hits is
where it was before, so it is not full yet. -/
theorem Timely.lookup_of_stored (h : cache.Timely P lookups inserts clock)
    (room : lookups + 1 < UInt64.size) (looked : Cache.lookup query cache = .ok none between)
    {found : Found} (inserted : Cache.insert ⟨query, found⟩ now between = .ok .stored after) :
    ∃ last, Cache.lookup query after = .ok (some ⟨query, found⟩) last := by
  have kept := (h.lookup looked).keeps
  rcases answers_of_find? (kept.find?_of_stored inserted) with found | ⟨full, _⟩
  · exact found
  · have hits : after.tally.number .hit = between.tally.number .hit :=
      kept.number_insert inserted (by simp) (by simp)
    obtain ⟨register, timely, within, describes⟩ := h
    obtain ⟨missed, _, described⟩ := describes.of_lookup timely.sound looked
    have missed : register.find? policy query = none := missed.symm
    have before : (register.lookup policy query).2.counts .hit = register.counts .hit := by
      simp [Register.lookup, missed, Register.add]
    have few := within.looked
    have count := described.counts .hit
    rw [before] at count
    change after.tally.hits = between.tally.hits at hits
    change between.tally.hits.toNat = _ at count
    rw [hits] at full
    omega

/-! ### The invariant -/

/-- All memos are of queries that are asked, none was stored after a certain tick, and none
was ever refused for another query. -/
structure Orderly (asked : Query → Prop) (lookups inserts : Nat) (clock : Tick)
    (cache : Cache policy) : Prop where
  timely : cache.Timely (fun entry => asked entry.memo.query) lookups inserts clock
  uncollided : cache.tally.collisions = 0

theorem orderly_empty (asked : Query → Prop) (clock : Tick) :
    (empty : Cache policy).Orderly asked 0 0 clock :=
  ⟨timely_empty _ clock, rfl⟩

theorem Orderly.mono (h : cache.Orderly asked lookups inserts clock) {more further : Nat}
    (hl : lookups ≤ more) (hi : inserts ≤ further) (passed : clock ≤ now) :
    cache.Orderly asked more further now :=
  ⟨h.timely.mono hl hi passed, h.uncollided⟩

theorem Orderly.lookup (h : cache.Orderly asked lookups inserts clock) {answer : Option Memo}
    (looked : Cache.lookup query cache = .ok answer after) :
    after.Orderly asked (lookups + 1) inserts clock :=
  ⟨h.timely.lookup looked, (collisions_lookup looked).trans h.uncollided⟩

theorem Orderly.not_collided (h : cache.Orderly asked lookups inserts clock)
    (separates : policy.place.Separates asked) (known : asked memo.query)
    (inserted : Cache.insert memo now cache = .ok outcome after) : outcome ≠ .collided :=
  h.timely.keeps.not_collided (fun _ other => separates _ _ other known) inserted

theorem Orderly.insert (h : cache.Orderly asked lookups inserts clock)
    (separates : policy.place.Separates asked) (known : asked memo.query)
    (inserted : Cache.insert memo clock cache = .ok outcome after) :
    after.Orderly asked lookups (inserts + 1) clock := by
  have kept : outcome ≠ .collided := h.not_collided separates known inserted
  have same : after.tally.number .collision = cache.tally.number .collision :=
    h.timely.keeps.number_insert inserted (by simp) fun _ => kept
  exact ⟨h.timely.insert inserted known, same.trans h.uncollided⟩

theorem Orderly.expire (h : cache.Orderly asked lookups inserts clock) {number : Nat}
    (expired : Cache.expire now cache = .ok number after) :
    after.Orderly asked lookups inserts clock :=
  ⟨h.timely.expire expired, (h.timely.keeps.collisions_expire expired).trans h.uncollided⟩

end Cache

end RouteCache
