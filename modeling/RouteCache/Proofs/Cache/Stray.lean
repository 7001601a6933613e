import RouteCache.Proofs.Cache.Consistent
import RouteCache.Proofs.Cache.Entries

/-!
What an insertion leaves behind when its deadline is out of order. The memo is on the shelf
by the time that the line of deadlines refuses its deadline, and the fault does not take it
off again. Room has been made before, and that is not undone either. Where a cache is
shared, its other users go on with it, so the two halves of the cache are out of step from
then on: one slot is taken for which no deadline waits, and the number of memos that is
kept is one too small. `Cache.Stray` is a memo without a deadline.

A stray memo never goes. Only the slots of deadlines are emptied, and a slot that is taken
refuses every other memo, so no deadline ever comes to wait for it. At every later tick the
memo that was refused answers its query.
-/

namespace RouteCache

namespace Cache

variable {policy : Policy} {cache roomy after : Cache policy} {slot : Slot} {memo : Memo}
  {now : Tick}

/-- A memo on the shelf for which no deadline waits. -/
structure Stray (cache : Cache policy) (slot : Slot) (memo : Memo) : Prop where
  present : cache.shelf.get? slot = some memo
  unawaited : slot ∉ cache.deadlines.records.map (·.slot)

/-- The cache after requests whose users go on when one of them faults. -/
def useAll (requests : List Request) (cache : Cache policy) : Cache policy :=
  requests.foldl (fun cache request => final (serve request cache)) cache

/-- What is left when a memo came as far as the shelf: all is as it was when room had been
made, but for the one memo more. -/
structure Stranded (roomy after : Cache policy) (slot : Slot) (memo : Memo) : Prop where
  vacant : roomy.shelf.get? slot = none
  shelf : ∀ other, after.shelf.get? other =
    if other = slot then some memo else roomy.shelf.get? other
  size : after.size = roomy.size + 1
  deadlines : after.deadlines = roomy.deadlines
  tally : after.tally = roomy.tally

/-! ### The fault -/

theorem not_late_of_makeRoom {register : Register} (h : register.Describes cache)
    (sound : register.Sound policy) : makeRoom cache ≠ .error .outOfOrder after := by
  intro failed
  have followed := h.makeRoom sound
  rw [failed] at followed
  cases followed with
  | late broken => exact broken trivial

theorem not_late_of_count {occasion : Occasion} :
    count occasion cache ≠ .error .outOfOrder after := by
  intro failed
  unfold count at failed
  split at failed
  · cases failed
  · rename_i fault refused
    obtain ⟨rfl, _⟩ := Tally.count_eq_error refused
    cases failed

/-- Only the line of deadlines faults out of order, and then the memo is on the shelf. -/
theorem stranded_of_offer (failed : offer memo now roomy = .error .outOfOrder after) :
    roomy.Stranded after (policy.place memo.query) memo := by
  cases there : roomy.shelf.get? (policy.place memo.query) with
  | some present =>
    rw [offer_of_occupied now there] at failed
    split at failed
    · cases failed
    · rcases bind_eq_error_iff.mp failed with counted | ⟨_, _, _, finished⟩
      · exact absurd counted not_late_of_count
      · cases finished
  | none =>
    rw [offer_of_vacant now there] at failed
    rcases bind_eq_error_iff.mp failed with stored | ⟨_, _, _, finished⟩
    · unfold store at stored
      split at stored
      · cases stored
      · rename_i shelf inserted
        split at stored
        · cases stored
          exact ⟨there, Shelf.get?_of_insert? inserted, Shelf.size_of_insert? inserted, rfl, rfl⟩
        · cases stored
    · cases finished

theorem exists_stranded {register : Register} (h : register.Describes cache)
    (sound : register.Sound policy) (failed : insert memo now cache = .error .outOfOrder after) :
    ∃ roomy, makeRoom cache = .ok () roomy ∧ roomy.Consistent ∧
      roomy.deadlines.size < policy.capacity.toNat ∧
      roomy.Stranded after (policy.place memo.query) memo := by
  rw [insert_eq] at failed
  rcases bind_eq_error_iff.mp failed with late | ⟨_, roomy, made, offered⟩
  · exact absurd late (not_late_of_makeRoom h sound)
  · have followed := h.makeRoom sound
    rw [made] at followed
    obtain ⟨_, _, described⟩ := followed.of_ok
    have spare := sound.size_makeRoom_lt
    rw [← described.deadlines_size] at spare
    exact ⟨roomy, made, .of_describes sound.makeRoom described, spare, stranded_of_offer offered⟩

theorem Stranded.stray (h : roomy.Stranded after slot memo) (consistent : roomy.Consistent) :
    after.Stray slot memo := by
  constructor
  · rw [h.shelf, if_pos rfl]
  · rw [h.deadlines, ← consistent.occupied, h.vacant]
    rintro ⟨_, same⟩
    cases same

theorem Stranded.occupied_iff (h : roomy.Stranded after slot memo)
    (consistent : roomy.Consistent) (other : Slot) :
    (∃ found, after.shelf.get? other = some found) ↔
      other ∈ after.deadlines.records.map (·.slot) ∨ other = slot := by
  rw [h.shelf, h.deadlines, ← consistent.occupied]
  by_cases same : other = slot
  · simp [same]
  · simp [same]

/-! ### What a stray memo survives -/

theorem stray_count (occasion : Occasion) :
    Preserves (·.Stray slot memo) (count occasion : CacheM policy Unit) := by
  intro cache stray
  unfold count
  split <;> exact ⟨stray.present, stray.unawaited⟩

/-- The slot that is emptied is that of a deadline. -/
theorem stray_dropOldest : Preserves (·.Stray slot memo) (dropOldest : CacheM policy Unit) := by
  intro cache stray
  obtain ⟨present, unawaited⟩ := stray
  unfold dropOldest Deadlines.pop?
  cases waiting : cache.deadlines.records with
  | nil => exact ⟨present, unawaited⟩
  | cons oldest others =>
    rw [waiting, List.map_cons, List.mem_cons, not_or] at unawaited
    dsimp only
    split
    · exact ⟨present, unawaited.2⟩
    · refine ⟨?_, unawaited.2⟩
      change (cache.shelf.erase oldest.slot).get? slot = some memo
      rw [Shelf.get?_erase, if_neg unawaited.1, present]

theorem stray_drop (occasion : Occasion) (number : Nat) :
    Preserves (·.Stray slot memo) (drop occasion number : CacheM policy Unit) := by
  induction number with
  | zero => exact preserves_pure _ ()
  | succ number ih => exact stray_dropOldest.bind fun _ => (stray_count occasion).bind fun _ => ih

theorem stray_makeRoom : Preserves (·.Stray slot memo) (makeRoom : CacheM policy Unit) := by
  intro cache stray
  rw [makeRoom_eq]
  exact stray_drop .eviction cache.surplus cache stray

/-- The slot of the stray memo is taken, so what is stored has another slot. -/
theorem stray_store (place : Slot) (new : Memo) (now : Tick) :
    Preserves (·.Stray slot memo) (store place new now : CacheM policy Unit) := by
  intro cache stray
  unfold store
  split
  · exact stray
  · rename_i shelf inserted
    have elsewhere : slot ≠ place := by
      rintro rfl
      unfold Shelf.insert? at inserted
      rw [stray.present] at inserted
      cases inserted
    have present : shelf.get? slot = some memo := by
      rw [Shelf.get?_of_insert? inserted, if_neg elsewhere, stray.present]
    split
    · exact ⟨present, stray.unawaited⟩
    · rename_i deadlines pushed
      refine ⟨present, ?_⟩
      obtain ⟨_, records⟩ := Deadlines.push?_eq_some_iff.mp pushed
      change slot ∉ deadlines.records.map (·.slot)
      rw [records, List.map_append, List.mem_append, not_or]
      exact ⟨stray.unawaited, by simpa using elsewhere⟩

theorem stray_offer (new : Memo) (now : Tick) :
    Preserves (·.Stray slot memo) (offer new now : CacheM policy Outcome) := by
  intro cache stray
  cases there : cache.shelf.get? (policy.place new.query) with
  | none =>
    rw [offer_of_vacant now there]
    exact (stray_store _ new now).bind (fun _ => preserves_pure _ _) cache stray
  | some present =>
    rw [offer_of_occupied now there]
    split
    · exact stray
    · exact (stray_count .collision).bind (fun _ => preserves_pure _ _) cache stray

theorem stray_insert (new : Memo) (now : Tick) :
    Preserves (·.Stray slot memo) (insert new now : CacheM policy Outcome) :=
  stray_makeRoom.bind fun _ => stray_offer new now

theorem stray_lookup (query : Query) :
    Preserves (·.Stray slot memo) (lookup query : CacheM policy (Option Memo)) := by
  intro cache stray
  rw [lookup_eq]
  exact (stray_count _).bind (fun _ => preserves_pure _ _) cache stray

theorem stray_expire (now : Tick) :
    Preserves (·.Stray slot memo) (expire now : CacheM policy Nat) := by
  intro cache stray
  rw [expire_eq]
  exact (stray_drop .expiration _).bind (fun _ => preserves_pure _ _) cache stray

theorem stray_serve (request : Request) :
    Preserves (·.Stray slot memo) (serve request : CacheM policy Reply) := by
  cases request with
  | insert new now => exact (stray_insert new now).bind fun _ => preserves_pure _ _
  | lookup query => exact (stray_lookup query).bind fun _ => preserves_pure _ _
  | expire now => exact (stray_expire now).bind fun _ => preserves_pure _ _

/-- The induction is on the requests, and no request is excluded: not those that fault, nor
those that make another memo stray. -/
theorem Stray.useAll (stray : cache.Stray slot memo) (requests : List Request) :
    (useAll requests cache).Stray slot memo := by
  induction requests generalizing cache with
  | nil => exact stray
  | cons request requests ih => exact ih (stray_serve request cache stray)

theorem Stray.answers (stray : cache.Stray (policy.place memo.query) memo) :
    cache.Answers memo.query memo := by
  apply answers_of_find?
  exact find?_eq_some_iff.mpr ⟨stray.present, Query.sameTrip_self memo.query⟩

theorem Stranded.counts (h : roomy.Stranded after slot memo) (consistent : roomy.Consistent)
    (spare : roomy.deadlines.size < policy.capacity.toNat) :
    after.size = after.deadlines.size + 1 ∧ after.tally.held.toNat + 1 = after.size ∧
      after.report.held.toNat = after.size := by
  have size : after.size = after.deadlines.size + 1 := by
    rw [h.size, h.deadlines, consistent.size]
  have word : after.size < UInt64.size := by
    have top : policy.capacity.toNat < UInt64.size := policy.capacity.toNat_lt
    rw [size, h.deadlines]
    omega
  refine ⟨size, ?_, UInt64.toNat_ofNat_of_lt' word⟩
  rw [size, h.tally, h.deadlines, consistent.held]

/-- In every cache that was reached without a fault, an insertion that faults with its
deadline out of order leaves the cache as it was when room had been made, and the memo that
was refused on the shelf. So the slots that are taken are those of the deadlines and one
more, that of the memo, and the number of memos that is kept is one too small, although the
one reported is right. However the cache is used after that, also when requests fault, the
memo stays without a deadline and answers its query. -/
theorem late_insert_strays (requests : List Request) (replies : List Reply)
    (cache : Cache policy) (run : serveAll requests empty = .ok replies cache) (memo : Memo)
    (now : Tick) (after : Cache policy)
    (failed : insert memo now cache = .error .outOfOrder after) :
    let slot := policy.place memo.query
    (∃ roomy, makeRoom cache = .ok () roomy ∧ roomy.Consistent ∧
      roomy.Stranded after slot memo) ∧
    (∀ other, (∃ found, after.shelf.get? other = some found) ↔
      other ∈ after.deadlines.records.map (·.slot) ∨ other = slot) ∧
    slot ∉ after.deadlines.records.map (·.slot) ∧
    after.size = after.deadlines.size + 1 ∧ after.tally.held.toNat + 1 = after.size ∧
      after.report.held.toNat = after.size ∧
    ∀ later : List Request, (useAll later after).Stray slot memo ∧
      (useAll later after).Answers memo.query memo := by
  intro slot
  obtain ⟨_, sound, describes⟩ := Register.of_serveAll run
  obtain ⟨roomy, made, consistent, spare, stranded⟩ := exists_stranded describes sound failed
  have stray : after.Stray slot memo := stranded.stray consistent
  obtain ⟨size, held, reported⟩ := stranded.counts consistent spare
  refine ⟨⟨roomy, made, consistent, stranded⟩, stranded.occupied_iff consistent,
    stray.unawaited, size, held, reported, ?_⟩
  intro later
  have stays := stray.useAll later
  exact ⟨stays, stays.answers⟩

/-- A full cache, from which the oldest memo goes before the late one is refused, and the
uses that follow: an expiry of all that waits, a late insertion of another memo, and one more
of the same query. -/
theorem late_insert_strays_full :
    let policy := Policy.bounded (Grid.slot ⟨8, 8⟩) 2 10
    let late : Memo := ⟨eastward 7, ⟨{}, .reached⟩⟩
    let later : List Request := [.expire 17, .insert ⟨eastward 5, ⟨{}, .reached⟩⟩ 20,
      .insert ⟨eastward 6, ⟨{}, .reached⟩⟩ 19, .insert ⟨eastward 7, ⟨{}, .approached⟩⟩ 21]
    ∃ cache after : Cache policy,
      serveAll [.insert ⟨eastward 5, ⟨{}, .reached⟩⟩ 5, .insert ⟨eastward 6, ⟨{}, .reached⟩⟩ 6]
          empty = .ok [.inserted .stored, .inserted .stored] cache ∧
        insert late 3 cache = .error .outOfOrder after ∧
        after.size = after.deadlines.size + 1 ∧
        (useAll later after).Answers (eastward 7) late := by
  intro policy late later
  have closed : ends (fun replies (cache : Cache policy) =>
      replies = [.inserted .stored, .inserted .stored] ∧
        fault? (insert late 3 cache) = some .outOfOrder)
      (serveAll [.insert ⟨eastward 5, ⟨{}, .reached⟩⟩ 5, .insert ⟨eastward 6, ⟨{}, .reached⟩⟩ 6]
        empty) := by
    decide +kernel
  obtain ⟨_, cache, run, reached⟩ := ends_iff.mp closed
  obtain ⟨rfl, refused⟩ := of_decide_eq_true reached
  obtain ⟨after, failed⟩ := fault?_eq_some_iff.mp refused
  obtain ⟨_, _, _, size, _, _, stays⟩ := late_insert_strays _ _ cache run late 3 after failed
  exact ⟨cache, after, run, failed, size, (stays later).2⟩

/-- A late memo that was refused is on the shelf, its slot is that of no deadline, and the
number kept misses it. -/
theorem late_insert_out_of_step :
    let policy := Policy.bounded (Grid.slot ⟨8, 8⟩) 10 10
    let late : Memo := ⟨eastward 6, ⟨{}, .reached⟩⟩
    ∃ cache after : Cache policy,
      serveAll [.insert ⟨eastward 5, ⟨{}, .reached⟩⟩ 5] empty =
          .ok [.inserted .stored] cache ∧
        insert late 4 cache = .error .outOfOrder after ∧
        after.shelf.get? (policy.place late.query) = some late ∧
        policy.place late.query ∉ after.deadlines.records.map (·.slot) ∧
        after.tally.held = 1 ∧ after.size = 2 ∧
        answer? (lookup late.query after) = some (some late) := by
  intro policy late
  have closed : ends (fun replies (cache : Cache policy) =>
      replies = [.inserted .stored] ∧ fault? (insert late 4 cache) = some .outOfOrder ∧
        let after := final (insert late 4 cache)
        after.shelf.get? (policy.place late.query) = some late ∧
          policy.place late.query ∉ after.deadlines.records.map (·.slot) ∧
          after.tally.held = 1 ∧ after.size = 2 ∧
          answer? (lookup late.query after) = some (some late))
      (serveAll [.insert ⟨eastward 5, ⟨{}, .reached⟩⟩ 5] empty) := by
    decide +kernel
  obtain ⟨_, cache, run, reached⟩ := ends_iff.mp closed
  obtain ⟨rfl, refused, left⟩ := of_decide_eq_true reached
  obtain ⟨after, failed⟩ := fault?_eq_some_iff.mp refused
  rw [failed] at left
  exact ⟨cache, after, run, failed, left⟩

end Cache

end RouteCache
