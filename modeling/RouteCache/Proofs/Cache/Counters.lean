import Mathlib.Data.List.Basic
import RouteCache.Proofs.Cache.Follows

/-!
How far the counters of a cache can have come. Every lookup raises one of two counts.
Every insertion adds one entry at most, and an entry is evicted or expires at most
once. So no counter overflows before there were as many lookups or insertions as a
word can count.
-/

namespace RouteCache

namespace Register

variable {policy : Policy} {register : Register} {lookups inserts : Nat}

/-- Bounds on the counts of a register after so many lookups and insertions. -/
structure Within (lookups inserts : Nat) (register : Register) : Prop where
  looked : register.counts .hit + register.counts .miss ≤ lookups
  refused : register.counts .collision ≤ inserts
  stored : register.size + register.counts .eviction + register.counts .expiration ≤ inserts

theorem within_empty : empty.Within 0 0 :=
  ⟨Nat.le_refl 0, Nat.le_refl 0, Nat.le_refl 0⟩

theorem Within.mono (h : register.Within lookups inserts) {more further : Nat}
    (hl : lookups ≤ more) (hi : inserts ≤ further) : register.Within more further :=
  ⟨Nat.le_trans h.looked hl, Nat.le_trans h.refused hi, Nat.le_trans h.stored hi⟩

theorem Within.counts_lt (h : register.Within lookups inserts) (hl : lookups < UInt64.size)
    (hi : inserts < UInt64.size) (occasion : Occasion) :
    register.counts occasion < UInt64.size := by
  obtain ⟨looked, refused, stored⟩ := h
  cases occasion <;> omega

theorem Within.lookup (h : register.Within lookups inserts) (query : Query) :
    (register.lookup policy query).2.Within (lookups + 1) inserts := by
  obtain ⟨looked, refused, stored⟩ := h
  unfold Register.lookup
  dsimp only
  split
  · refine ⟨?_, refused, stored⟩
    change register.counts .hit + 1 + register.counts .miss ≤ lookups + 1
    omega
  · refine ⟨?_, refused, stored⟩
    change register.counts .hit + (register.counts .miss + 1) ≤ lookups + 1
    omega

/-- Making room exchanges an entry for an eviction. -/
theorem Within.makeRoom (h : register.Within lookups inserts) :
    (register.makeRoom policy).Within lookups inserts := by
  obtain ⟨looked, refused, stored⟩ := h
  have positive := policy.capacity_pos
  unfold Register.makeRoom
  split
  · refine ⟨looked, refused, ?_⟩
    have fewer := size_dropFront 1 register
    change (register.dropFront 1).size + (register.counts .eviction + 1) +
      register.counts .expiration ≤ inserts
    omega
  · exact ⟨looked, refused, stored⟩

theorem Within.offer (h : register.Within lookups inserts) (memo : Memo) (now : Tick) :
    (register.offer policy memo now).2.Within lookups (inserts + 1) := by
  obtain ⟨looked, refused, stored⟩ := h
  cases occupied : register.at? (policy.place memo.query) with
  | none =>
    rw [offer_of_vacant now occupied]
    refine ⟨looked, Nat.le_succ_of_le refused, ?_⟩
    have size : (register.append ⟨policy.place memo.query, memo, policy.lastTick now⟩).size =
        register.size + 1 := by
      simp [append, Register.size]
    change (register.append _).size + register.counts .eviction + register.counts .expiration ≤ _
    omega
  | some present =>
    rw [offer_of_occupied now occupied]
    split
    · exact ⟨looked, Nat.le_succ_of_le refused, Nat.le_succ_of_le stored⟩
    · exact ⟨looked, Nat.succ_le_succ refused, Nat.le_succ_of_le stored⟩

theorem Within.insert (h : register.Within lookups inserts) (memo : Memo) (now : Tick) :
    (register.insert policy memo now).2.Within lookups (inserts + 1) :=
  h.makeRoom.offer memo now

/-- Expiry exchanges entries for expirations. -/
theorem Within.expire (h : register.Within lookups inserts) (now : Tick) :
    (register.expire now).2.Within lookups inserts := by
  obtain ⟨looked, refused, stored⟩ := h
  refine ⟨looked, refused, ?_⟩
  have parts : register.entries.length = _ :=
    List.length_eq_length_filter_add fun entry => decide (entry.last < now)
  change (register.entries.filter fun entry => !decide (entry.last < now)).length +
    register.counts .eviction + (register.counts .expiration +
      (register.entries.filter fun entry => decide (entry.last < now)).length) ≤ inserts
  unfold Register.size at stored
  omega

theorem Within.serve {served : Nat} (h : register.Within served served)
    (request : Cache.Request) :
    (register.serve policy request).2.Within (served + 1) (served + 1) := by
  cases request with
  | insert memo now => exact (h.insert memo now).mono (Nat.le_succ served) (Nat.le_refl _)
  | lookup query => exact (h.lookup query).mono (Nat.le_refl _) (Nat.le_succ served)
  | expire now => exact (h.expire now).mono (Nat.le_succ served) (Nat.le_succ served)

theorem Within.serveAll {served : Nat} (h : register.Within served served)
    (requests : List Cache.Request) :
    (register.serveAll policy requests).2.Within (served + requests.length)
      (served + requests.length) := by
  induction requests generalizing register served with
  | nil => exact h
  | cons request requests ih =>
    have first : (register.serve policy request).2.Within (served + 1) (served + 1) :=
      h.serve request
    rw [List.length_cons, Nat.add_comm requests.length 1, ← Nat.add_assoc]
    exact ih first

theorem within_serveAll (policy : Policy) (requests : List Cache.Request) :
    (empty.serveAll policy requests).2.Within requests.length requests.length := by
  have counted : (empty.serveAll policy requests).2.Within (0 + requests.length)
      (0 + requests.length) := within_empty.serveAll requests
  rwa [Nat.zero_add] at counted

/-- No counter of a new cache can be full after fewer requests than a word can count. -/
theorem counts_serveAll_lt (policy : Policy) {requests : List Cache.Request}
    (short : requests.length < UInt64.size) (occasion : Occasion) :
    (empty.serveAll policy requests).2.counts occasion < UInt64.size :=
  (within_serveAll policy requests).counts_lt short short occasion

theorem counts_serve_serveAll_lt (policy : Policy) {requests : List Cache.Request}
    (short : requests.length + 1 < UInt64.size) (request : Cache.Request) (occasion : Occasion) :
    ((empty.serveAll policy requests).2.serve policy request).2.counts occasion <
      UInt64.size :=
  ((within_serveAll policy requests).serve request).counts_lt short short occasion

end Register

end RouteCache
