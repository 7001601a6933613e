import RouteCache.Proofs.Cache.Entries

/-!
How long a memo is kept. Fewer insertions than the capacity cannot evict a memo that
was just stored, because every eviction takes the oldest one and at most one memo comes
behind it with each insertion. So it is found until a prune passes its last tick.

When as many memos were stored behind it as the capacity, or such a prune has run,
it is gone: all that the cache holds was stored later.
-/

namespace RouteCache

namespace Register

open Cache (Request)

variable {policy : Policy} {register : Register} {entry : Entry} {inserts : Nat}

/-! ### Kept -/

/-- An entry that a number of insertions cannot evict, since the entries behind it,
with one more for each of them, leave room for it. -/
def Retains (policy : Policy) (entry : Entry) (inserts : Nat) (register : Register) : Prop :=
  ∃ older newer, register.entries = older ++ entry :: newer ∧
    newer.length + inserts < policy.capacity.toNat

theorem Retains.insert (h : register.Retains policy entry (inserts + 1)) (memo : Memo)
    (now : Tick) : (register.insert policy memo now).2.Retains policy entry inserts := by
  obtain ⟨older, newer, parts, room⟩ := h
  have one := Cache.length_added_insert policy memo now (register.insert policy memo now).1
  unfold Retains
  rw [entries_insert]
  generalize (Request.insert memo now).added policy _ = new at one ⊢
  have fewer : (newer ++ new).length + inserts < policy.capacity.toNat := by
    rw [List.length_append]
    split at one <;> omega
  unfold surplus
  split
  · rename_i full
    -- In a full register something older stands in front.
    cases older with
    | nil =>
      unfold size at full
      rw [parts] at full
      simp only [List.nil_append, List.length_cons] at full
      omega
    | cons oldest older => exact ⟨older, newer ++ new, by simp [parts], fewer⟩
  · exact ⟨older, newer ++ new, by simp [parts], fewer⟩

theorem Retains.expire (h : register.Retains policy entry inserts) {now : Tick}
    (current : now ≤ entry.last) :
    (register.expire now).2.Retains policy entry inserts := by
  obtain ⟨older, newer, parts, room⟩ := h
  have kept : (!decide (entry.last < now)) = true := by simpa using current
  refine ⟨older.filter fun other => !decide (other.last < now),
    newer.filter fun other => !decide (other.last < now), ?_, ?_⟩
  · simp only [Register.expire, add, parts, List.filter_append, List.filter_cons, kept, if_true]
  · exact Nat.lt_of_le_of_lt (Nat.add_le_add_right (List.length_filter_le _ _) _) room

theorem Retains.serve {request : Request}
    (h : register.Retains policy entry (inserts + if request.isInsert then 1 else 0))
    (current : ∀ now, request = .expire now → now ≤ entry.last) :
    (register.serve policy request).2.Retains policy entry inserts := by
  cases request with
  | insert memo now => exact Retains.insert h memo now
  | lookup query => exact h
  | expire now => exact Retains.expire h (current now rfl)

theorem Retains.serveAll {requests : List Request}
    (h : register.Retains policy entry (requests.countP (·.isInsert)))
    (current : ∀ now, .expire now ∈ requests → now ≤ entry.last) :
    (register.serveAll policy requests).2.Retains policy entry 0 := by
  induction requests generalizing register with
  | nil => exact h
  | cons request requests ih =>
    rw [List.countP_cons] at h
    refine ih (h.serve ?_) ?_
    · rintro now rfl
      exact current now List.mem_cons_self
    · intro now coming
      exact current now (List.mem_cons_of_mem request coming)

/-! ### Gone -/

/-- A run adds an entry for each memo that it stores. -/
theorem length_added (policy : Policy) (requests : List Request) (register : Register) :
    (Cache.added policy requests (register.serveAll policy requests).1).length =
      (register.serveAll policy requests).1.count (.inserted .stored) := by
  induction requests generalizing register with
  | nil => rfl
  | cons request requests ih =>
    have one : (request.added policy (register.serve policy request).1).length =
        if (register.serve policy request).1 = .inserted .stored then 1 else 0 := by
      cases request with
      | insert memo now => exact Cache.length_added_insert policy memo now _
      | lookup query => simp [serve, Request.added]
      | expire now => simp [serve, Request.added]
    unfold serveAll
    rw [Cache.added_cons, List.length_append, one, ih, List.count_cons, Nat.add_comm]
    simp

/-- A prune that passes the last tick of an entry leaves nothing but newer ones. -/
theorem expire_suffix (ordered : register.entries.Pairwise (·.last ≤ ·.last)) {now : Tick}
    {older newer : List Entry} (part : register.entries <:+ older ++ entry :: newer)
    (passed : entry.last < now) : (register.expire now).2.entries <:+ newer := by
  let current : Entry → Bool := fun other => !decide (other.last < now)
  have back : ∀ entries : List Entry, entries.Pairwise (·.last ≤ ·.last) →
      entries.filter current <:+ entries := by
    intro entries sorted
    rw [← (overdue_at_front sorted now).2]
    exact List.drop_suffix _ _
  change register.entries.filter current <:+ newer
  have cases : register.entries <:+ newer ∨
      ∃ front, front ++ entry :: newer = register.entries := by
    rcases List.suffix_or_suffix_of_suffix part (List.suffix_append older (entry :: newer)) with
      inside | beyond
    · rcases List.suffix_cons_iff.mp inside with whole | inside
      · exact .inr ⟨[], whole.symm⟩
      · exact .inl inside
    · exact .inr beyond
  rcases cases with inside | ⟨front, parts⟩
  · exact (back _ ordered).trans inside
  · rw [← parts] at ordered ⊢
    obtain ⟨_, behind, before⟩ := List.pairwise_append.mp ordered
    have gone : ∀ other ∈ front, ¬current other = true := by
      intro other member
      have below := before other member entry List.mem_cons_self
      simp [current, UInt64.lt_of_le_of_lt below passed]
    rw [List.filter_append, List.filter_eq_nil_iff.mpr gone, List.nil_append,
      List.filter_cons_of_neg (by simp [current, passed])]
    exact back newer (List.pairwise_cons.mp behind).2

/-- The induction carries along that only newer entries stand behind the one that the
prune is to remove, and keeps count of them. -/
theorem serveAll_suffix (sound : register.Sound policy) {requests : List Request}
    (inOrder : register.InOrderAll policy requests) {now : Tick} {older newer : List Entry}
    (part : register.entries <:+ older ++ entry :: newer) (pruned : .expire now ∈ requests)
    (passed : entry.last < now) :
    (register.serveAll policy requests).2.entries <:+
      newer ++ Cache.added policy requests (register.serveAll policy requests).1 := by
  induction requests generalizing register newer with
  | nil => cases pruned
  | cons request requests ih =>
    have sound' := sound.serve inOrder.1
    unfold serveAll
    rw [Cache.added_cons]
    rcases List.mem_cons.mp pruned with rfl | pruned
    · have others := entries_serveAll_suffix sound' inOrder.2
      have removed := expire_suffix sound.ordered part passed
      exact others.trans (List.suffix_append_self_iff.mpr removed)
    · have first : (register.serve policy request).2.entries <:+ _ :=
        (entries_serve_suffix sound.ordered request).trans (List.suffix_append_self_iff.mpr part)
      rw [List.append_assoc, List.cons_append] at first
      rw [← List.append_assoc]
      exact ih sound' inOrder.2 first pruned

/-! ### The memo that was stored -/

theorem mem_serveAll_of_stored {memo : Memo} {now : Tick}
    (stored : (register.insert policy memo now).1 = .stored) {requests : List Request}
    (few : requests.countP (·.isInsert) < policy.capacity.toNat)
    (current : ∀ tick, .expire tick ∈ requests → tick ≤ policy.lastTick now) :
    ⟨policy.place memo.query, memo, policy.lastTick now⟩ ∈
      ((register.insert policy memo now).2.serveAll policy requests).2.entries := by
  have retains : (register.insert policy memo now).2.Retains policy
      ⟨policy.place memo.query, memo, policy.lastTick now⟩ (requests.countP (·.isInsert)) := by
    refine ⟨_, [], entries_insert_of_stored stored, ?_⟩
    rw [List.length_nil, Nat.zero_add]
    exact few
  obtain ⟨older, newer, parts, _⟩ := retains.serveAll current
  rw [parts]
  exact List.mem_append_right older List.mem_cons_self

theorem serveAll_suffix_of_stored {memo : Memo} {now : Tick}
    (stored : (register.insert policy memo now).1 = .stored)
    (sound : (register.insert policy memo now).2.Sound policy) {requests : List Request}
    (inOrder : (register.insert policy memo now).2.InOrderAll policy requests)
    (ended : policy.capacity.toNat ≤
        ((register.insert policy memo now).2.serveAll policy requests).1.count
          (.inserted .stored) ∨
      ∃ tick, .expire tick ∈ requests ∧ policy.lastTick now < tick) :
    ((register.insert policy memo now).2.serveAll policy requests).2.entries <:+
      Cache.added policy requests
        ((register.insert policy memo now).2.serveAll policy requests).1 := by
  rcases ended with many | ⟨tick, pruned, passed⟩
  · rw [← length_added] at many
    exact List.suffix_of_suffix_length_le (entries_serveAll_suffix sound inOrder)
      (List.suffix_append _ _) (Nat.le_trans (sound.serveAll inOrder).bounded many)
  · have part := List.suffix_refl (register.insert policy memo now).2.entries
    nth_rewrite 2 [entries_insert_of_stored stored] at part
    exact serveAll_suffix sound inOrder part pruned passed

end Register

namespace Cache

variable {policy : Policy}

/-- In every cache that was reached without a fault, a memo that is stored stays for
every continuation that does not fault, contains fewer insertions than the capacity and
prunes at no tick after the last one at which the memo is kept. When as many memos were
stored in the continuation as the capacity, or a prune has passed that tick, the memo
is gone: all that waits was stored in the continuation, and so was what its slot holds.
A continuation is any, so both hold after each of its requests. -/
theorem insert_retained (past : List Request) (replies : List Reply) (cache : Cache policy)
    (run : serveAll past empty = .ok replies cache) (memo : Memo) (now : Tick)
    (between : Cache policy) (inserted : insert memo now cache = .ok .stored between)
    (future : List Request) (answers : List Reply) (after : Cache policy)
    (rest : serveAll future between = .ok answers after) :
    (future.countP (·.isInsert) < policy.capacity.toNat →
      (∀ tick, .expire tick ∈ future →
        tick.toNat ≤ min (now.toNat + policy.lifetime.toNat) (UInt64.size - 1)) →
      after.Answers memo.query memo) ∧
    ((policy.capacity.toNat ≤ answers.count (.inserted .stored) ∨
        ∃ tick, .expire tick ∈ future ∧
          min (now.toNat + policy.lifetime.toNat) (UInt64.size - 1) < tick.toNat) →
      after.entries <:+ added policy future answers ∧
        ∀ found, after.shelf.get? (policy.place memo.query) = some found →
          ∃ entry ∈ added policy future answers,
            entry.slot = policy.place memo.query ∧ entry.memo = found) := by
  obtain ⟨_, sound, describes⟩ := Register.of_serveAll run
  obtain ⟨stored, sound', described⟩ := describes.of_insert sound inserted
  obtain ⟨rfl, inOrder, final⟩ := described.of_serveAll sound' rest
  have last := sound'.serveAll inOrder
  constructor
  · intro few current
    have member := Register.mem_serveAll_of_stored stored.symm few
      fun tick coming => Register.le_lastTick_iff.mpr (current tick coming)
    exact final.answers last member
  · intro ended
    have waits := Register.serveAll_suffix_of_stored stored.symm sound' inOrder (ended.imp_right ?_)
    · rw [final.entries_eq last.distinct]
      refine ⟨waits, ?_⟩
      intro found there
      obtain ⟨entry, member, placed, holds⟩ := final.entry_of_get? there
      exact ⟨entry, waits.subset member, placed, holds⟩
    · rintro ⟨tick, pruned, passed⟩
      refine ⟨tick, pruned, ?_⟩
      rw [← UInt64.not_le, Register.le_lastTick_iff, Nat.not_le]
      exact passed

/-- In a cache for two memos the older one goes when the newer one is offered again,
and the memo between them is found at its last tick and gone one tick later. -/
theorem insert_retained_two :
    let policy := Policy.bounded (Grid.slot ⟨8, 8⟩) 2 10
    let memo : Memo := ⟨eastward 5, ⟨{}, .reached⟩⟩
    let other : Memo := ⟨eastward 6, ⟨{}, .reached⟩⟩
    ∃ cache between kept left : Cache policy,
      serveAll [.insert other 0] empty = .ok [.inserted .stored] cache ∧
      insert memo 3 cache = .ok .stored between ∧
      serveAll [.insert other 4, .expire 13] between = .ok [.inserted .stored, .expired 0] kept ∧
      kept.Answers memo.query memo ∧
      serveAll [.insert other 4, .expire 14] between = .ok [.inserted .stored, .expired 1] left ∧
      left.entries <:+ [⟨policy.place other.query, other, 14⟩] := by
  intro policy memo other
  have closed : ends (fun replies (cache : Cache policy) => replies = [.inserted .stored] ∧
      ends (fun outcome between => outcome = .stored ∧
        answer? (serveAll [.insert other 4, .expire 13] between) =
            some [.inserted .stored, .expired 0] ∧
          answer? (serveAll [.insert other 4, .expire 14] between) =
            some [.inserted .stored, .expired 1]) (insert memo 3 cache))
      (serveAll [.insert other 0] empty) := by
    decide +kernel
  obtain ⟨_, cache, run, reached⟩ := ends_iff.mp closed
  obtain ⟨rfl, continued⟩ := of_decide_eq_true reached
  obtain ⟨_, between, inserted, futures⟩ := ends_iff.mp continued
  obtain ⟨rfl, current, overdue⟩ := of_decide_eq_true futures
  obtain ⟨kept, first⟩ := answer?_eq_some_iff.mp current
  obtain ⟨left, second⟩ := answer?_eq_some_iff.mp overdue
  refine ⟨cache, between, kept, left, run, inserted, first, ?_, second, ?_⟩
  · refine (insert_retained _ _ _ run memo 3 _ inserted _ _ _ first).1 (by decide) ?_
    intro tick pruned
    obtain rfl : tick = 13 := by simpa using pruned
    decide
  · exact ((insert_retained _ _ _ run memo 3 _ inserted _ _ _ second).2
      (.inr ⟨14, by simp, by decide⟩)).1

end Cache

end RouteCache
