import RouteCache.Proofs.Cache.Keeps
import RouteCache.Proofs.Cache.Ledger

/-!
Four accounts of a cache. Each is a sum of counters, and each use of the cache adds to it
what its reply says, so that a balance can be read off the replies. Sums of counters are
what can be added up over many caches.
-/

namespace RouteCache

inductive Account where
  /-- Lookups, whatever they found. -/
  | lookups
  /-- Lookups that found nothing. -/
  | misses
  /-- Memos offered that were no duplicates. Each was refused for another query, or else it
  is held, was evicted or has expired. -/
  | offers
  | expirations

/-- The balance of an account, from the counts of each occasion and the number held. -/
def Account.balance (account : Account) (counts : Occasion → Nat) (held : Nat) : Nat :=
  match account with
  | .lookups => counts .hit + counts .miss
  | .misses => counts .miss
  | .offers => counts .collision + held + counts .eviction + counts .expiration
  | .expirations => counts .expiration

namespace Cache

variable {policy : Policy}

def balance (account : Account) (cache : Cache policy) : Nat :=
  account.balance (fun occasion => (cache.report.number occasion).toNat) cache.report.held.toNat

/-- What a use of a cache adds to an account. -/
def Reply.posted : Account → Reply → Nat
  | .lookups, .found _ => 1
  | .misses, .found none => 1
  | .offers, .inserted .stored => 1
  | .offers, .inserted .collided => 1
  | .expirations, .expired number => number
  | _, _ => 0

theorem balance_empty (account : Account) : (empty : Cache policy).balance account = 0 := by
  cases account <;> rfl

end Cache

namespace Register

variable {policy : Policy} {register : Register} {cache : Cache policy}

def balance (account : Account) (register : Register) : Nat :=
  account.balance register.counts register.size

theorem Describes.balance (h : register.Describes cache) (sound : register.Sound policy)
    (account : Account) : cache.balance account = register.balance account := by
  have agrees := Cache.Agrees.of_describes sound h
  have counts : (fun occasion => (cache.report.number occasion).toNat) = register.counts :=
    funext agrees.counts
  unfold Cache.balance Register.balance
  rw [counts, agrees.held]

theorem balance_insert (memo : Memo) (now : Tick) (account : Account) :
    (register.insert policy memo now).2.balance account =
      register.balance account +
        (Cache.Reply.inserted (register.insert policy memo now).1).posted account := by
  have size := size_insert policy memo now register
  cases account with
  | lookups => simp [balance, Account.balance, counts_insert, Cache.Reply.posted]
  | misses => simp [balance, Account.balance, counts_insert, Cache.Reply.posted]
  | expirations => simp [balance, Account.balance, counts_insert, Cache.Reply.posted]
  | offers =>
    simp only [balance, Account.balance, counts_insert, reduceCtorEq, if_true, if_false,
      false_and, true_and]
    cases outcome : (register.insert policy memo now).1 <;>
    · rw [outcome] at size
      simp only [Cache.Reply.inserted.injEq, reduceCtorEq, if_true, if_false,
        Cache.Reply.posted] at size ⊢
      omega

theorem balance_lookup (query : Query) (account : Account) :
    (register.lookup policy query).2.balance account =
      register.balance account +
        (Cache.Reply.found (register.lookup policy query).1).posted account := by
  unfold lookup
  dsimp only
  cases register.find? policy query <;> cases account <;>
    simp [balance, Account.balance, add, Cache.Reply.posted, size] <;> omega

/-- An expiry exchanges entries for expirations. -/
theorem balance_expire (now : Tick) (account : Account) :
    (register.expire now).2.balance account =
      register.balance account + (Cache.Reply.expired (register.expire now).1).posted account := by
  have parts : register.entries.length = _ :=
    List.length_eq_length_filter_add fun entry => decide (entry.last < now)
  cases account with
  | lookups => simp [balance, Account.balance, expire, add, Cache.Reply.posted]
  | misses => simp [balance, Account.balance, expire, add, Cache.Reply.posted]
  | expirations => simp [balance, Account.balance, expire, add, Cache.Reply.posted]
  | offers =>
    simp only [balance, Account.balance, expire, add, size, if_true, reduceCtorEq, if_false,
      Cache.Reply.posted]
    omega

end Register

namespace Cache

variable {policy : Policy} {cache after : Cache policy} {P : Entry → Prop}

theorem Keeps.balance_lookup (h : cache.Keeps P) {query : Query} {answer : Option Memo}
    (looked : Cache.lookup query cache = .ok answer after) (account : Account) :
    after.balance account = cache.balance account + (Reply.found answer).posted account := by
  obtain ⟨register, sound, describes, _⟩ := h
  obtain ⟨rfl, sound', described⟩ := describes.of_lookup sound looked
  rw [described.balance sound', describes.balance sound]
  exact Register.balance_lookup query account

theorem Keeps.balance_insert (h : cache.Keeps P) {memo : Memo} {now : Tick} {outcome : Outcome}
    (inserted : Cache.insert memo now cache = .ok outcome after) (account : Account) :
    after.balance account =
      cache.balance account + (Reply.inserted outcome).posted account := by
  obtain ⟨register, sound, describes, _⟩ := h
  obtain ⟨rfl, sound', described⟩ := describes.of_insert sound inserted
  rw [described.balance sound', describes.balance sound]
  exact Register.balance_insert memo now account

theorem Keeps.balance_expire (h : cache.Keeps P) {now : Tick} {number : Nat}
    (expired : Cache.expire now cache = .ok number after) (account : Account) :
    after.balance account = cache.balance account + (Reply.expired number).posted account := by
  obtain ⟨register, sound, describes, _⟩ := h
  obtain ⟨rfl, sound', described⟩ := describes.of_expire sound expired
  rw [described.balance sound', describes.balance sound]
  exact Register.balance_expire now account

theorem Keeps.length_entries (h : cache.Keeps P) :
    cache.entries.length = cache.report.held.toNat := by
  obtain ⟨register, sound, describes, _⟩ := h
  rw [(Agrees.of_describes sound describes).held, describes.entries_eq sound.distinct]
  rfl

theorem Keeps.held_le (h : cache.Keeps P) : cache.report.held.toNat ≤ policy.capacity.toNat := by
  obtain ⟨register, sound, describes, _⟩ := h
  rw [(Agrees.of_describes sound describes).held]
  exact sound.bounded

end Cache

end RouteCache
