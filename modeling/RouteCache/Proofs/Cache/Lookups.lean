import RouteCache.Proofs.Cache.Counters

/-!
Lookups leave no trace in what a cache keeps. Insertions and expiries are blind: they
neither read nor write the numbers of hits and misses, and do the same to two caches
that differ in nothing else. A lookup writes nothing but those numbers. So lookups can
be put into a run or taken out of it at any place, and every insertion and expiry is
answered as before, or faults as before, and leaves the same memos and deadlines.

A lookup that cannot be counted would stop its run, so runs are shorter than a word
can count.
-/

namespace RouteCache

namespace Cache

variable {policy : Policy} {first second cache : Cache policy} {α β : Type}

def Request.isLookup : Request → Bool
  | .lookup _ => true
  | .insert _ _ | .expire _ => false

def withoutLookups (requests : List Request) : List Request :=
  requests.filter fun request => !request.isLookup

theorem eq_lookup_of_isLookup {request : Request} (h : request.isLookup = true) :
    ∃ query, request = .lookup query := by
  cases request with
  | insert memo now => cases h
  | lookup query => exact ⟨query, rfl⟩
  | expire now => cases h

/-- The requests of a run with what came of each, up to the first that faults. -/
def history : List Request → Cache policy → List (Request × Except Fault Reply)
  | [], _ => []
  | request :: requests, cache =>
    match serve request cache with
    | .ok reply after => (request, .ok reply) :: history requests after
    | .error fault _ => [(request, .error fault)]

/-- What came of the requests of a run that are not lookups. -/
def changes (requests : List Request) (cache : Cache policy) :
    List (Request × Except Fault Reply) :=
  (history requests cache).filter fun step => !step.1.isLookup

/-- Two caches that differ in their hits and misses only. -/
structure Alike (first second : Cache policy) : Prop where
  shelf : first.shelf = second.shelf
  deadlines : first.deadlines = second.deadlines
  counts : ∀ occasion, occasion ≠ .hit → occasion ≠ .miss →
    first.tally.number occasion = second.tally.number occasion
  held : first.tally.held = second.tally.held

theorem Alike.refl (cache : Cache policy) : cache.Alike cache :=
  ⟨rfl, rfl, fun _ _ _ => rfl, rfl⟩

theorem Alike.symm (h : first.Alike second) : second.Alike first :=
  ⟨h.shelf.symm, h.deadlines.symm, fun occasion hit miss => (h.counts occasion hit miss).symm,
    h.held.symm⟩

theorem Alike.trans {third : Cache policy} (h : first.Alike second) (h' : second.Alike third) :
    first.Alike third :=
  ⟨h.shelf.trans h'.shelf, h.deadlines.trans h'.deadlines,
    fun occasion hit miss => (h.counts occasion hit miss).trans (h'.counts occasion hit miss),
    h.held.trans h'.held⟩

/-! ### Blind operations -/

/-- Two operations ended with the same answer or the same fault, and left caches that
are alike. -/
inductive SameEnd :
    EStateM.Result Fault (Cache policy) α → EStateM.Result Fault (Cache policy) α → Prop where
  | ok {first second : Cache policy} (answer : α) (alike : first.Alike second) :
      SameEnd (.ok answer first) (.ok answer second)
  | error {first second : Cache policy} (fault : Fault) (alike : first.Alike second) :
      SameEnd (.error fault first) (.error fault second)

/-- An operation that ends the same in caches that are alike. -/
def Blind (use : CacheM policy α) : Prop :=
  ∀ first second : Cache policy, first.Alike second → SameEnd (use first) (use second)

theorem Blind.bind {use : CacheM policy α} {next : α → CacheM policy β} (h : Blind use)
    (hnext : ∀ answer, Blind (next answer)) : Blind (use >>= next) := by
  intro first second alike
  have ended := h first second alike
  change SameEnd ((use >>= next).run first) ((use >>= next).run second)
  rw [EStateM.run_bind, EStateM.run_bind]
  change SameEnd (use.run first) (use.run second) at ended
  generalize use.run first = one at ended
  generalize use.run second = other at ended
  cases ended with
  | ok answer alike => exact hnext answer _ _ alike
  | error fault alike => exact .error fault alike

theorem blind_pure (answer : α) : Blind (pure answer : CacheM policy α) :=
  fun _ _ alike => .ok answer alike

/-- Counting is decided by the number counted so far, on which the two caches agree. -/
theorem blind_count {occasion : Occasion} (hit : occasion ≠ .hit) (miss : occasion ≠ .miss) :
    Blind (count occasion : CacheM policy Unit) := by
  intro first second alike
  have same := alike.counts occasion hit miss
  unfold count
  cases one : first.tally.count occasion with
  | ok tally =>
    obtain ⟨added, others, held⟩ := Tally.number_of_count one
    cases other : second.tally.count occasion with
    | ok tally' =>
      obtain ⟨added', others', held'⟩ := Tally.number_of_count other
      refine .ok () ⟨alike.shelf, alike.deadlines, ?_, ?_⟩
      · intro kind hit' miss'
        by_cases counted : kind = occasion
        · apply UInt64.toNat_inj.mp
          rw [counted, added, added', same]
        · rw [others kind counted, others' kind counted]
          exact alike.counts kind hit' miss'
      · exact held.trans (alike.held.trans held'.symm)
    | error fault =>
      obtain ⟨_, full⟩ := Tally.count_eq_error other
      have small := (tally.number occasion).toNat_lt_size
      rw [← same] at full
      omega
  | error fault =>
    obtain ⟨rfl, full⟩ := Tally.count_eq_error one
    cases other : second.tally.count occasion with
    | ok tally' =>
      obtain ⟨added', _, _⟩ := Tally.number_of_count other
      have small := (tally'.number occasion).toNat_lt_size
      rw [same] at full
      omega
    | error fault' =>
      obtain ⟨rfl, _⟩ := Tally.count_eq_error other
      exact .error _ alike

theorem blind_dropOldest : Blind (dropOldest : CacheM policy Unit) := by
  intro first second alike
  unfold dropOldest
  rw [alike.shelf, alike.deadlines]
  split
  · exact .error _ alike
  · split
    · exact .error _ ⟨rfl, rfl, alike.counts, alike.held⟩
    · refine .ok () ⟨rfl, rfl, ?_, rfl⟩
      intro occasion hit miss
      cases occasion <;> exact alike.counts _ hit miss

theorem blind_drop {occasion : Occasion} (hit : occasion ≠ .hit) (miss : occasion ≠ .miss)
    (number : Nat) : Blind (drop occasion number : CacheM policy Unit) := by
  induction number with
  | zero => exact blind_pure ()
  | succ number ih =>
    exact blind_dropOldest.bind fun _ => (blind_count hit miss).bind fun _ => ih

theorem blind_makeRoom : Blind (makeRoom : CacheM policy Unit) := by
  intro first second alike
  have surplus : first.surplus = second.surplus := by
    simp [Cache.surplus, alike.deadlines]
  rw [makeRoom_eq, makeRoom_eq, surplus]
  exact blind_drop (by simp) (by simp) _ first second alike

theorem blind_store (slot : Slot) (memo : Memo) (now : Tick) :
    Blind (store slot memo now : CacheM policy Unit) := by
  intro first second alike
  unfold store
  rw [alike.shelf, alike.deadlines]
  split
  · exact .error _ alike
  · split
    · exact .error _ ⟨rfl, rfl, alike.counts, alike.held⟩
    · refine .ok () ⟨rfl, rfl, ?_, rfl⟩
      intro occasion hit miss
      cases occasion <;> exact alike.counts _ hit miss

theorem blind_offer (memo : Memo) (now : Tick) :
    Blind (offer memo now : CacheM policy Outcome) := by
  intro first second alike
  have view : first.shelf.get? (policy.place memo.query) =
      second.shelf.get? (policy.place memo.query) := by rw [alike.shelf]
  cases there : second.shelf.get? (policy.place memo.query) with
  | none =>
    rw [offer_of_vacant now there, offer_of_vacant now (view.trans there)]
    exact (blind_store _ memo now).bind (fun _ => blind_pure _) first second alike
  | some present =>
    rw [offer_of_occupied now there, offer_of_occupied now (view.trans there)]
    split
    · exact .ok _ alike
    · exact (blind_count (by simp) (by simp)).bind (fun _ => blind_pure _) first second alike

theorem blind_insert (memo : Memo) (now : Tick) :
    Blind (insert memo now : CacheM policy Outcome) :=
  blind_makeRoom.bind fun _ => blind_offer memo now

theorem blind_expire (now : Tick) : Blind (expire now : CacheM policy Nat) := by
  intro first second alike
  rw [expire_eq, expire_eq, alike.deadlines]
  exact (blind_drop (by simp) (by simp) _).bind (fun _ => blind_pure _) first second alike

/-- Every request but a lookup is served the same by caches that are alike. -/
theorem blind_serve {request : Request} (h : request.isLookup = false) :
    Blind (serve request : CacheM policy Reply) := by
  cases request with
  | insert memo now => exact (blind_insert memo now).bind fun _ => blind_pure _
  | lookup query => cases h
  | expire now => exact (blind_expire now).bind fun _ => blind_pure _

/-! ### Lookups -/

/-- Counting a hit or a miss, or failing to, leaves everything else as it was. -/
theorem alike_count {occasion : Occasion} (h : occasion = .hit ∨ occasion = .miss)
    (cache : Cache policy) : (final (count occasion cache)).Alike cache := by
  unfold count
  split
  · rename_i tally counted
    obtain ⟨_, others, held⟩ := Tally.number_of_count counted
    refine ⟨rfl, rfl, ?_, held⟩
    intro other hit miss
    apply others
    rintro rfl
    exact h.elim hit miss
  · exact .refl cache

theorem alike_lookup (query : Query) (cache : Cache policy) :
    (final (lookup query cache)).Alike cache := by
  rw [lookup_eq, final_bind_pure]
  apply alike_count
  split
  · exact .inl rfl
  · exact .inr rfl

theorem lookup_alike {query : Query} {answer : Option Memo} {after : Cache policy}
    (looked : lookup query cache = .ok answer after) : after.Alike cache := by
  have alike := alike_lookup query cache
  rwa [looked] at alike

theorem alike_of_lookup {query : Query} {reply : Reply} {after : Cache policy}
    (served : serve (.lookup query) cache = .ok reply after) : after.Alike cache := by
  have ended := final_bind_pure (lookup query) Reply.found cache
  change final (serve (.lookup query) cache) = _ at ended
  rw [served] at ended
  change after = _ at ended
  rw [ended]
  exact alike_lookup query cache

/-! ### Runs -/

theorem history_cons_of_ok {request : Request} {reply : Reply} {after : Cache policy}
    (served : serve request cache = .ok reply after) (requests : List Request) :
    history (request :: requests) cache = (request, .ok reply) :: history requests after := by
  simp only [history, served]

theorem history_cons_of_error {request : Request} {fault : Fault} {after : Cache policy}
    (served : serve request cache = .error fault after) (requests : List Request) :
    history (request :: requests) cache = [(request, .error fault)] := by
  simp only [history, served]

/-- After a request that did not fault a run ends as the run of the others does. -/
theorem end_cons_of_ok {request : Request} {reply : Reply} {after : Cache policy}
    (served : serve request cache = .ok reply after) (requests : List Request) :
    final (serveAll (request :: requests) cache) = final (serveAll requests after) ∧
      fault? (serveAll (request :: requests) cache) = fault? (serveAll requests after) := by
  rw [serveAll_cons, bind_of_ok served]
  change final ((serveAll requests >>= _).run after) = final ((serveAll requests).run after) ∧
    fault? ((serveAll requests >>= _).run after) = fault? ((serveAll requests).run after)
  rw [EStateM.run_bind]
  cases (serveAll requests).run after <;> exact ⟨rfl, rfl⟩

theorem serveAll_cons_of_error {request : Request} {fault : Fault} {after : Cache policy}
    (served : serve request cache = .error fault after) (requests : List Request) :
    serveAll (request :: requests) cache = .error fault after := by
  rw [serveAll_cons]
  exact bind_eq_error_iff.mpr (.inl served)

end Cache

namespace Register

open Cache (Request)

variable {policy : Policy} {register : Register} {cache other : Cache policy} {served : Nat}

/-- A run and the run of those of its requests that are not lookups, from caches that are
alike. The induction is on the requests: a lookup keeps the caches alike and any other
request finds them so. The register bounds the counters, which is why no lookup faults. -/
theorem Describes.without_lookups (h : register.Describes cache) (sound : register.Sound policy)
    (within : register.Within served served) (alike : cache.Alike other)
    (requests : List Request) (room : served + requests.length < UInt64.size) :
    Cache.changes requests cache =
        Cache.history (Cache.withoutLookups requests) other ∧
      (final (Cache.serveAll requests cache)).Alike
        (final (Cache.serveAll (Cache.withoutLookups requests) other)) ∧
      fault? (Cache.serveAll requests cache) =
        fault? (Cache.serveAll (Cache.withoutLookups requests) other) := by
  induction requests generalizing register cache other served with
  | nil => exact ⟨rfl, alike, rfl⟩
  | cons request requests ih =>
    rw [List.length_cons] at room
    have counted : (register.serve policy request).2.Within (served + 1) (served + 1) :=
      within.serve request
    cases kind : request.isLookup with
    | true =>
      obtain ⟨query, rfl⟩ := Cache.eq_lookup_of_isLookup kind
      obtain ⟨after, looked, described⟩ := (h.serve sound (.lookup query)).done_of_fits
        (counted.counts_lt (by omega) (by omega)) trivial
      have alike := (Cache.alike_of_lookup looked).trans alike
      have rest := ih described (sound.serve trivial) counted alike (by omega)
      have ended := Cache.end_cons_of_ok looked requests
      simp only [Cache.changes, Cache.withoutLookups, Cache.history_cons_of_ok looked, ended,
        List.filter_cons, kind, Bool.not_true, Bool.false_eq_true, if_false] at rest ⊢
      exact rest
    | false =>
      have ended := Cache.blind_serve kind cache other alike
      simp only [Cache.changes, Cache.withoutLookups, List.filter_cons, kind, Bool.not_false,
        if_true]
      generalize one : Cache.serve request cache = result at ended
      generalize two : Cache.serve request other = result' at ended
      cases ended with
      | ok reply alike =>
        obtain ⟨_, inOrder, described⟩ := h.of_serve sound one
        obtain ⟨steps, left, fault⟩ := ih described (sound.serve inOrder) counted alike (by omega)
        have cons := Cache.end_cons_of_ok one requests
        have cons' := Cache.end_cons_of_ok two (Cache.withoutLookups requests)
        simp only [Cache.changes, Cache.withoutLookups] at steps left fault cons'
        simp only [Cache.history_cons_of_ok one, Cache.history_cons_of_ok two, cons, cons',
          List.filter_cons, kind, Bool.not_false, if_true, steps]
        exact ⟨trivial, left, fault⟩
      | error fault alike =>
        simp only [Cache.history_cons_of_error one, Cache.history_cons_of_error two,
          Cache.serveAll_cons_of_error one, Cache.serveAll_cons_of_error two,
          List.filter_cons, kind, Bool.not_false, if_true, List.filter_nil]
        exact ⟨trivial, alike, rfl⟩

end Register

namespace Cache

/-- Two runs of a new cache that differ in lookups only, wherever they were put in or
left out. Every insertion and expiry is answered the same, and if one faults in one run
then it does in the other. The caches left behind hold the same memos and the same
deadlines in the same order, and differ in hits and misses alone. Nor does a single
lookup of any cache touch anything else, whether it hits or not. -/
theorem serveAll_without_lookups (policy : Policy) (first second : List Request)
    (same : withoutLookups first = withoutLookups second)
    (short : first.length < UInt64.size) (brief : second.length < UInt64.size) :
    changes first (empty : Cache policy) = changes second (empty : Cache policy) ∧
    fault? (serveAll first (empty : Cache policy)) =
      fault? (serveAll second (empty : Cache policy)) ∧
    (final (serveAll first (empty : Cache policy))).Alike
      (final (serveAll second (empty : Cache policy))) ∧
    ∀ (query : Query) (cache : Cache policy), (final (lookup query cache)).Alike cache := by
  have plain (requests : List Request) (few : requests.length < UInt64.size) :=
    Register.describes_empty.without_lookups (Register.sound_empty policy)
      Register.within_empty (.refl empty) requests (by omega)
  obtain ⟨steps, left, fault⟩ := plain first short
  obtain ⟨steps', left', fault'⟩ := plain second brief
  rw [← same] at steps' left' fault'
  exact ⟨steps.trans steps'.symm, fault.trans fault'.symm, left.trans left'.symm, alike_lookup⟩

/-- A hit just before an eviction saves nothing, and a late memo is late in both runs. -/
theorem serveAll_without_lookups_hit :
    let policy := Policy.bounded (Grid.slot ⟨8, 8⟩) 2 10
    let memo (cells : Int32) : Memo := ⟨eastward cells, ⟨{}, .reached⟩⟩
    let first : List Request := [.insert (memo 5) 0, .insert (memo 6) 1, .lookup (eastward 5),
      .lookup (eastward 9), .insert (memo 7) 2, .expire 12, .lookup (eastward 7),
      .insert (memo 8) 1]
    let second : List Request := [.lookup (eastward 6), .insert (memo 5) 0, .insert (memo 6) 1,
      .insert (memo 7) 2, .expire 12, .insert (memo 8) 1]
    withoutLookups first = withoutLookups second ∧
      fault? (serveAll second (empty : Cache policy)) = some .outOfOrder ∧
      fault? (serveAll first (empty : Cache policy)) = some .outOfOrder ∧
      (final (serveAll first (empty : Cache policy))).Alike
        (final (serveAll second (empty : Cache policy))) := by
  intro policy memo first second
  have same : withoutLookups first = withoutLookups second := by decide
  obtain ⟨_, fault, left, _⟩ :=
    serveAll_without_lookups policy first second same (by decide) (by decide)
  have late : fault? (serveAll second (empty : Cache policy)) = some .outOfOrder := by
    decide +kernel
  exact ⟨same, late, fault.trans late, left⟩

end Cache

end RouteCache
