import Mathlib.Data.List.Induction
import RouteCache.Proofs.Cache.FirstWriter
import RouteCache.Proofs.Cache.Keeps

/-!
What was asked of a new cache, each request with its reply. The cache after some dealings is
known, so its memos can be followed from one dealing to the next. A memo stays until it is
the oldest one of a full cache to which another memo is offered, or until an expiry at a
later tick than its last. After such an expiry all that is held is kept beyond that tick.
-/

namespace RouteCache

namespace Cache

variable {policy : Policy} {start between after cache : Cache policy} {reply : Reply}
  {P : Entry → Prop}

/-! ### Serving -/

theorem serve_insert_iff {memo : Memo} {now : Tick} :
    serve (.insert memo now) cache = .ok reply after ↔
      ∃ outcome, insert memo now cache = .ok outcome after ∧ reply = .inserted outcome := by
  change (insert memo now >>= fun outcome => pure (Reply.inserted outcome)) cache = _ ↔ _
  exact bind_pure_eq_ok_iff

theorem serve_lookup_iff {query : Query} :
    serve (.lookup query) cache = .ok reply after ↔
      ∃ memo, lookup query cache = .ok memo after ∧ reply = .found memo := by
  change (lookup query >>= fun memo => pure (Reply.found memo)) cache = _ ↔ _
  exact bind_pure_eq_ok_iff

theorem serve_expire_iff {now : Tick} :
    serve (.expire now) cache = .ok reply after ↔
      ∃ number, expire now cache = .ok number after ∧ reply = .expired number := by
  change (expire now >>= fun number => pure (Reply.expired number)) cache = _ ↔ _
  exact bind_pure_eq_ok_iff

theorem serveAll_cons_iff {request : Request} {requests : List Request} {replies : List Reply} :
    serveAll (request :: requests) start = .ok replies after ↔
      ∃ reply between others, serve request start = .ok reply between ∧
        serveAll requests between = .ok others after ∧ replies = reply :: others := by
  rw [serveAll_cons, bind_eq_ok_iff]
  constructor
  · rintro ⟨reply, between, served, rest⟩
    obtain ⟨others, _, rest, same⟩ := bind_eq_ok_iff.mp rest
    cases same
    exact ⟨reply, between, others, served, rest, rfl⟩
  · rintro ⟨reply, between, others, served, rest, rfl⟩
    exact ⟨reply, between, served, bind_eq_ok_iff.mpr ⟨others, after, rest, rfl⟩⟩

/-- Two runs one after the other are one run. -/
theorem serveAll_append_iff {past future : List Request} {before later : List Reply}
    (length : before.length = past.length) :
    serveAll (past ++ future) start = .ok (before ++ later) after ↔
      ∃ between, serveAll past start = .ok before between ∧
        serveAll future between = .ok later after := by
  induction past generalizing start before with
  | nil =>
    rw [List.length_nil, List.length_eq_zero_iff] at length
    subst length
    constructor
    · intro run
      exact ⟨start, rfl, run⟩
    · rintro ⟨_, same, run⟩
      cases same
      exact run
  | cons request past ih =>
    cases before with
    | nil => cases length
    | cons reply before =>
      rw [List.cons_append, List.cons_append, serveAll_cons_iff]
      constructor
      · rintro ⟨_, middle, _, served, rest, same⟩
        cases same
        obtain ⟨between, earlier, run⟩ := (ih (Nat.succ.inj length)).mp rest
        exact ⟨between, serveAll_cons_iff.mpr ⟨reply, middle, before, served, earlier, rfl⟩, run⟩
      · rintro ⟨between, first, run⟩
        obtain ⟨_, middle, _, served, earlier, same⟩ := serveAll_cons_iff.mp first
        cases same
        exact ⟨reply, middle, before ++ later, served,
          (ih (Nat.succ.inj length)).mpr ⟨between, earlier, run⟩, rfl⟩

theorem serveAll_singleton_iff {request : Request} :
    serveAll [request] start = .ok [reply] after ↔ serve request start = .ok reply after := by
  rw [serveAll_cons_iff]
  constructor
  · rintro ⟨_, _, _, served, rest, same⟩
    cases rest
    cases same
    exact served
  · intro served
    exact ⟨reply, after, [], served, rfl, rfl⟩

/-! ### Dealings -/

/-- A request with its reply. -/
abbrev Dealing := Request × Reply

/-- Whether a new cache has come to a cache through these dealings. -/
def Dealt (dealings : List Dealing) (cache : Cache policy) : Prop :=
  serveAll (dealings.map (·.1)) empty = .ok (dealings.map (·.2)) cache

/-- The cache after some dealings. -/
def cacheAfter (policy : Policy) (dealings : List Dealing) : Cache policy :=
  final (serveAll (dealings.map (·.1)) empty)

variable {dealings past future : List Dealing} {request : Request}

theorem Dealt.cacheAfter_eq (dealt : Dealt dealings cache) :
    cacheAfter policy dealings = cache := by
  unfold cacheAfter
  rw [dealt, final_ok]

theorem dealt_append_iff :
    Dealt (past ++ future) cache ↔ ∃ between : Cache policy, Dealt past between ∧
      serveAll (future.map (·.1)) between = .ok (future.map (·.2)) cache := by
  unfold Dealt
  rw [List.map_append, List.map_append]
  apply serveAll_append_iff
  rw [List.length_map, List.length_map]

theorem dealt_concat_iff :
    Dealt (past ++ [(request, reply)]) cache ↔
      ∃ between : Cache policy, Dealt past between ∧ serve request between = .ok reply cache := by
  rw [dealt_append_iff]
  simp only [List.map_singleton, serveAll_singleton_iff]

/-- The cache on the way to a cache is that after the dealings so far. -/
theorem Dealt.of_append (dealt : Dealt (past ++ future) cache) :
    Dealt past (cacheAfter policy past) := by
  obtain ⟨between, earlier, _⟩ := dealt_append_iff.mp dealt
  rw [earlier.cacheAfter_eq]
  exact earlier

theorem Dealt.keeps (dealt : Dealt dealings cache) : cache.Keeps fun _ => True := by
  obtain ⟨_, sound, describes⟩ := Register.of_serveAll dealt
  exact ⟨_, sound, describes, fun _ _ => trivial⟩

/-! ### One dealing -/

variable {entry : Entry} {last : Tick}

theorem Keeps.serve (keeps : cache.Keeps P) (served : Cache.serve request cache = .ok reply after)
    (new : ∀ memo now, request = .insert memo now →
      P ⟨policy.place memo.query, memo, policy.lastTick now⟩) : after.Keeps P := by
  cases request with
  | insert memo now =>
    obtain ⟨outcome, inserted, _⟩ := serve_insert_iff.mp served
    exact keeps.insert inserted (new memo now rfl)
  | lookup query =>
    obtain ⟨memo, looked, _⟩ := serve_lookup_iff.mp served
    exact keeps.lookup looked
  | expire now =>
    obtain ⟨number, expired, _⟩ := serve_expire_iff.mp served
    exact (keeps.expire expired).mono fun _ both => both.1

/-- An entry of a cache is still there after a request, unless an expiry has passed its last
tick, or it is the oldest one of a full cache to which a memo is offered. -/
theorem Keeps.mem_of_serve (keeps : cache.Keeps P) (member : entry ∈ cache.entries)
    (served : Cache.serve request cache = .ok reply after)
    (current : ∀ now, request = .expire now → now ≤ entry.last)
    (spared : request.isInsert = true → ¬cache.Leaving entry.slot) : entry ∈ after.entries := by
  obtain ⟨register, sound, describes, _⟩ := keeps
  obtain ⟨_, inOrder, described⟩ := describes.of_serve sound served
  rw [describes.entries_eq sound.distinct] at member
  rw [described.entries_eq (sound.serve inOrder).distinct]
  cases request with
  | lookup query => exact member
  | expire now =>
    have kept := current now rfl
    exact List.mem_filter.mpr ⟨member, by simpa using kept⟩
  | insert memo now =>
    change entry ∈ (register.insert policy memo now).2.entries
    rw [Register.entries_insert]
    apply List.mem_append_left
    unfold Register.surplus
    split
    · rename_i full
      cases first : register.entries with
      | nil =>
        rw [first] at member
        cases member
      | cons oldest others =>
        rw [first] at member
        rcases List.mem_cons.mp member with rfl | younger
        · refine absurd ((describes.leaving_iff _).mpr ⟨full, entry, ?_, rfl⟩) (spared rfl)
          rw [first, List.head?_cons]
        · exact younger
    · exact member

/-- What was just stored is there. -/
theorem mem_of_stored {memo : Memo} {now : Tick} (keeps : cache.Keeps P)
    (served : Cache.serve (.insert memo now) cache = .ok (.inserted .stored) after) :
    ⟨policy.place memo.query, memo, policy.lastTick now⟩ ∈ after.entries := by
  obtain ⟨register, sound, describes, _⟩ := keeps
  obtain ⟨outcome, inserted, same⟩ := serve_insert_iff.mp served
  cases same
  obtain ⟨stored, sound', described⟩ := describes.of_insert sound inserted
  rw [described.entries_eq sound'.distinct, Register.entries_insert_of_stored stored.symm]
  exact List.mem_append_right _ (List.mem_singleton_self _)

/-! ### Many dealings -/

/-- Somewhere in the future of some dealings an entry is the oldest one of a full cache to
which a memo is offered. -/
def Evicted (policy : Policy) (entry : Entry) (past future : List Dealing) : Prop :=
  ∃ earlier memo now reply later, future = earlier ++ (.insert memo now, reply) :: later ∧
    entry ∈ (cacheAfter policy (past ++ earlier)).entries ∧
    (cacheAfter policy (past ++ earlier)).Leaving entry.slot

theorem Evicted.concat (evicted : Evicted policy entry past future) (dealing : Dealing) :
    Evicted policy entry past (future ++ [dealing]) := by
  obtain ⟨earlier, memo, now, reply, later, rfl, member, leaving⟩ := evicted
  refine ⟨earlier, memo, now, reply, later ++ [dealing], ?_, member, leaving⟩
  rw [List.append_assoc, List.cons_append]

/-- An entry stays until it is evicted, or until an expiry passes its last tick. The induction
takes one dealing off the end. -/
theorem Dealt.mem_or_evicted (dealt : Dealt (past ++ future) cache)
    (there : entry ∈ (cacheAfter policy past).entries)
    (current : ∀ now reply, (.expire now, reply) ∈ future → now ≤ entry.last) :
    entry ∈ (cacheAfter policy (past ++ future)).entries ∨ Evicted policy entry past future := by
  induction future using List.reverseRecOn generalizing cache with
  | nil =>
    rw [List.append_nil]
    exact .inl there
  | append_singleton future dealing ih =>
    obtain ⟨request, reply⟩ := dealing
    rw [← List.append_assoc] at dealt ⊢
    obtain ⟨between, before, served⟩ := dealt_concat_iff.mp dealt
    rcases ih before fun now reply member =>
      current now reply (List.mem_append_left _ member) with member | evicted
    · rw [before.cacheAfter_eq] at member
      rw [dealt.cacheAfter_eq]
      by_cases spared : request.isInsert = true → ¬between.Leaving entry.slot
      · refine .inl (before.keeps.mem_of_serve member served ?_ spared)
        rintro now rfl
        exact current now reply (List.mem_append_right _ (List.mem_singleton_self _))
      · obtain ⟨inserts, leaving⟩ := Classical.not_imp.mp spared
        cases request with
        | insert memo now =>
          right
          refine ⟨future, memo, now, reply, [], rfl, ?_, ?_⟩
          · rw [before.cacheAfter_eq]
            exact member
          · rw [before.cacheAfter_eq]
            exact Classical.not_not.mp leaving
        | _ => cases inserts
    · exact .inr (evicted.concat (request, reply))

/-- No memo is stored at an earlier tick than one at which memos have expired before. -/
def Advancing (dealings : List Dealing) : Prop :=
  dealings.Pairwise fun earlier later => ∀ tick memo now,
    earlier.1 = .expire tick → later.1 = .insert memo now → tick ≤ now

theorem le_lastTick (policy : Policy) (now : Tick) : now ≤ policy.lastTick now := by
  rw [Register.le_lastTick_iff]
  have small := now.toNat_lt_size
  omega

/-- After an expiry past a tick all that is held is kept beyond that tick. -/
theorem Dealt.keeps_beyond (dealt : Dealt (past ++ future) cache)
    (advancing : Advancing future)
    (passed : ∃ tick reply, (.expire tick, reply) ∈ future ∧ last < tick) :
    (cacheAfter policy (past ++ future)).Keeps fun entry => last < entry.last := by
  induction future using List.reverseRecOn generalizing cache with
  | nil =>
    obtain ⟨_, _, member, _⟩ := passed
    cases member
  | append_singleton future dealing ih =>
    obtain ⟨request, reply⟩ := dealing
    rw [← List.append_assoc] at dealt ⊢
    obtain ⟨between, before, served⟩ := dealt_concat_iff.mp dealt
    obtain ⟨earlier, _, across⟩ := List.pairwise_append.mp advancing
    rw [dealt.cacheAfter_eq]
    obtain ⟨tick, answer, member, late⟩ := passed
    rcases List.mem_append.mp member with old | new
    · have keeps := ih before earlier ⟨tick, answer, old, late⟩
      rw [before.cacheAfter_eq] at keeps
      refine keeps.serve served ?_
      rintro memo now rfl
      have reached : tick ≤ now :=
        across _ old _ (List.mem_singleton_self _) tick memo now rfl rfl
      exact UInt64.lt_of_lt_of_le late (UInt64.le_trans reached (le_lastTick policy now))
    · cases List.mem_singleton.mp new
      obtain ⟨number, expired, _⟩ := serve_expire_iff.mp served
      exact (before.keeps.expire expired).mono fun _ both => UInt64.lt_of_lt_of_le late both.2

end Cache

end RouteCache
