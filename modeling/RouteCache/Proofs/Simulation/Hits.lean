import RouteCache.Proofs.Router.Once
import RouteCache.Proofs.Simulation.Requests

/-!
How often a simulation searches. All ticks of a phase have the same twelve queries, at most
four of them in a category. What the caches hold when a phase begins may be evicted or expire
in the middle of it, but a memo that is stored within the phase stays until the queries of its
last tick have been answered. So no query is searched twice within a phase, and there are at
most twelve searches in each.
-/

namespace RouteCache

namespace Simulation

open Router (Request Reply serveAll searches searchedIn)

variable {settings : Settings} {router after : Router settings Unit} {replies : List Reply}
  {first now clock : Tick} {number ticks : Nat} {query : Query}

/-- On the grid every reckoning fits and every query has a slot of its own, and a cache keeps
the memos of four units through a phase. -/
structure Roomy (settings : Settings) : Prop where
  width_pos : 1 ≤ settings.width.toNat
  width_lt : settings.width.toNat < 2147483648
  depth_pos : 1 ≤ settings.depth.toNat
  depth_lt : settings.depth.toNat < 2147483648
  cells_le : settings.width.toNat * settings.depth.toNat ≤ 4294967296
  capacity_ge : 4 ≤ settings.capacity.toNat
  lifetime_ge : 88 ≤ settings.lifetime.toNat

/-- The queries that a simulation can come to. -/
def Asked (settings : Settings) (query : Query) : Prop :=
  ∃ phase, query ∈ units.map (queryIn settings phase)

theorem Roomy.spread_pos (roomy : Roomy settings) : 0 < spread settings :=
  Nat.lt_min.mpr ⟨roomy.width_pos, roomy.depth_pos⟩

theorem Roomy.spread_le (roomy : Roomy settings) : spread settings ≤ 65536 := by
  by_contra wide
  have square : 65537 * 65537 ≤ settings.width.toNat * settings.depth.toNat :=
    Nat.mul_le_mul (Nat.le_trans (Nat.lt_of_not_le wide) (Nat.min_le_left _ _))
      (Nat.le_trans (Nat.lt_of_not_le wide) (Nat.min_le_right _ _))
  have few := roomy.cells_le
  omega

theorem Roomy.separates (roomy : Roomy settings) : settings.Separates (Asked settings) := by
  apply Settings.separates_of_covers roomy.cells_le
  · rintro query ⟨phase, member⟩
    obtain ⟨unit, _, rfl⟩ := List.mem_map.mp member
    have fits := Nat.lt_of_le_of_lt roomy.spread_le (by decide : 65536 < 2147483648)
    obtain ⟨start, goal⟩ := queryIn_onSquare roomy.spread_pos fits phase unit
    exact ⟨start.covers, goal.covers⟩
  · rintro q r ⟨_, member⟩ ⟨_, member'⟩ _
    obtain ⟨_, _, rfl⟩ := List.mem_map.mp member
    obtain ⟨_, _, rfl⟩ := List.mem_map.mp member'
    rfl

theorem Roomy.search_eq (roomy : Roomy settings) (phase : Nat) (unit : UInt32) (memory : Unit) :
    ∃ found, search settings (queryIn settings phase unit) memory = .ok found memory ∧
      found.verdict = .reached ∧
        Line.Ends (queryIn settings phase unit).start (queryIn settings phase unit).goal
          found.route.cells :=
  search_queryIn roomy.width_lt roomy.depth_lt roomy.spread_pos
    (Nat.le_trans roomy.spread_le (by decide)) phase unit memory

theorem Roomy.succeeds (roomy : Roomy settings) : (search settings).Succeeds (Asked settings) := by
  rintro query memory ⟨phase, member⟩
  obtain ⟨unit, _, rfl⟩ := List.mem_map.mp member
  obtain ⟨found, searched, reached, _⟩ := roomy.search_eq phase unit memory
  exact ⟨found, memory, searched, by rw [reached]; rfl⟩

/-- Four units share a category. -/
theorem countP_units {unit : UInt32} (member : unit ∈ units) :
    units.countP (fun other => decide (other % moverCount = unit % moverCount)) = 4 := by
  have all : units.all (fun unit =>
      units.countP (fun other => decide (other % moverCount = unit % moverCount)) = 4) = true := by
    decide
  exact of_decide_eq_true (List.all_eq_true.mp all unit member)

theorem Roomy.hasRoom (roomy : Roomy settings) (phase : Nat) :
    Router.HasRoom settings (units.map (queryIn settings phase)) := by
  intro query member
  obtain ⟨unit, there, rfl⟩ := List.mem_map.mp member
  have four : Router.pending (units.map (queryIn settings phase)) []
      (queryIn settings phase unit).mover = 4 := by
    rw [← countP_units there, Router.pending, List.countP_map]
    apply List.countP_congr
    intro other _
    exact ⟨fun counted => decide_eq_true (of_decide_eq_true counted).1,
      fun same => decide_eq_true ⟨of_decide_eq_true same, List.not_mem_nil⟩⟩
  rw [four, settings.capacity_policy]
  exact Nat.le_trans roomy.capacity_ge (Nat.le_max_left _ _)

/-! ### Within a phase -/

theorem phaseOf_eq (aligned : phaseTicks.toNat ∣ first.toNat) (low : first.toNat ≤ now.toNat)
    (high : now.toNat < first.toNat + phaseTicks.toNat) : phaseOf now = phaseOf first := by
  obtain ⟨phase, start⟩ := aligned
  have length : phaseTicks.toNat = 90 := rfl
  unfold phaseOf
  rw [length] at start high ⊢
  omega

/-- Requests of a phase that expire nothing at its last tick are a stretch in which what is
searched lives to the end. -/
theorem Roomy.stretch (roomy : Roomy settings) (aligned : phaseTicks.toNat ∣ first.toNat)
    (within : ticks ≤ phaseTicks.toNat) (fits : first.toNat + ticks ≤ UInt64.size)
    {requests : List Request} (part : requests ⊆ requestsFrom settings first ticks)
    (early : ∀ now, .expire now ∈ requests → now.toNat + 1 < first.toNat + ticks) :
    Router.Stretch settings (units.map (queryIn settings (phaseOf first)))
      (settings.policy.lastTick first) requests where
  asks query now member := by
    obtain ⟨low, high⟩ := find_mem_bounds fits (part member)
    have asked := of_find_mem (part member)
    rwa [phaseOf_eq aligned low (Nat.lt_of_lt_of_le high (Nat.add_le_add_left within _))] at asked
  lives query now member := by
    apply Register.lastTick_mono
    exact UInt64.le_iff_toNat_le.mpr (find_mem_bounds fits (part member)).1
  current now member := by
    have before := early now member
    have long := roomy.lifetime_ge
    have length : phaseTicks.toNat = 90 := rfl
    apply Register.le_lastTick_iff.mpr
    rw [settings.lifetime_policy]
    omega

/-- In the ticks of a phase no query is searched twice, whatever the caches hold before it. -/
theorem Roomy.nodup_searchedIn (roomy : Roomy settings) (aligned : phaseTicks.toNat ∣ first.toNat)
    (within : ticks ≤ phaseTicks.toNat) (fits : first.toNat + ticks ≤ UInt64.size)
    (orderly : router.Orderly (Asked settings) number clock) (passed : clock ≤ first)
    (run : serveAll (search settings) (requestsFrom settings first ticks) router =
      .ok replies after) :
    (searchedIn (requestsFrom settings first ticks) replies).Nodup := by
  cases ticks with
  | zero => exact List.nodup_nil
  | succ ticks =>
    obtain ⟨before, split, expiries⟩ := exists_requestsFrom_concat settings first ticks
    have ordered : (clock :: (requestsFrom settings first (ticks + 1)).filterMap
        Request.findTick?).Pairwise (· ≤ ·) := ordered_requestsFrom fits passed
    have stretch : Router.Stretch settings (units.map (queryIn settings (phaseOf first)))
        (settings.policy.lastTick first) before := by
      apply roomy.stretch aligned within fits
      · rw [split]
        exact List.subset_append_left before _
      · intro now member
        have bounds := expire_mem_bounds (by omega) (expiries now member)
        omega
    rw [split] at run ordered ⊢
    obtain ⟨told, between, rest, served, last, rfl⟩ := Router.of_serveAll_append run
    rw [List.filterMap_append, ← List.cons_append] at ordered
    obtain ⟨_, nodup⟩ := (Router.secures_nil _ _ router).serveAll List.nodup_nil orderly
      roomy.separates roomy.succeeds (fun query member => ⟨_, member⟩) (roomy.hasRoom _) stretch
      (List.pairwise_append.mp ordered).1 served
    obtain ⟨_, _, _, expired, ended, rfl⟩ := Router.of_serveAll_cons last
    cases ended
    obtain ⟨dropped, rfl, _⟩ := Router.of_serve_expire expired
    rw [List.nil_append] at nodup
    have none : searches [.expire (first + UInt64.ofNat ticks)] [.expired dropped] = [] := rfl
    unfold searchedIn at nodup ⊢
    rwa [Router.searches_append (Router.length_of_serveAll served), none, List.append_nil]

/-! ### From phase to phase -/

/-- What was searched, each query with the phase of its tick. -/
def phased (requests : List Request) (replies : List Reply) : List (Nat × Query) :=
  (searches requests replies).map fun made => (phaseOf made.1, made.2.query)

theorem phased_append {past future : List Request} {before later : List Reply}
    (paired : before.length = past.length) :
    phased (past ++ future) (before ++ later) = phased past before ++ phased future later := by
  unfold phased
  rw [Router.searches_append paired, List.map_append]

theorem of_mem_phased {requests : List Request} {phase : Nat}
    (member : (phase, query) ∈ phased requests replies) :
    ∃ now, .find query now ∈ requests ∧ phaseOf now = phase := by
  obtain ⟨made, told, same⟩ := List.mem_map.mp member
  cases same
  exact ⟨made.1, Router.asked_of_search told, rfl⟩

/-- The caches are orderly again when some ticks have been played. -/
theorem Roomy.orderly (roomy : Roomy settings) (fits : first.toNat + ticks < UInt64.size)
    (room : number + 13 * ticks < UInt64.size)
    (orderly : router.Orderly (Asked settings) number clock) (passed : clock ≤ first)
    (run : serveAll (search settings) (requestsFrom settings first ticks) router =
      .ok replies after) :
    after.Orderly (Asked settings) (number + 13 * ticks) (first + UInt64.ofNat ticks) := by
  have asked (query : Query) (now : Tick)
      (member : .find query now ∈ requestsFrom settings first ticks) : Asked settings query :=
    ⟨_, of_find_mem member⟩
  obtain ⟨last, member, kept, _⟩ := orderly.serveAll roomy.separates
    (by rwa [length_requestsFrom]) asked (ordered_requestsFrom (Nat.le_of_lt fits) passed)
    (search settings)
  rw [run, length_requestsFrom] at kept
  apply kept.mono (Nat.le_refl _)
  rw [UInt64.le_iff_toNat_le, toNat_add_ofNat fits]
  rcases List.mem_cons.mp member with rfl | later
  · exact Nat.le_trans (UInt64.le_iff_toNat_le.mp passed) (Nat.le_add_right _ _)
  · obtain ⟨request, coming, told⟩ := List.mem_filterMap.mp later
    cases request with
    | expire now => cases told
    | find query now =>
      cases told
      exact Nat.le_of_lt (find_mem_bounds (Nat.le_of_lt fits) coming).2

/-- In ticks from the start of a phase on, no query is searched twice within a phase. The
induction is on the number of ticks, and takes away the first phase. -/
theorem Roomy.nodup_phased (roomy : Roomy settings) (aligned : phaseTicks.toNat ∣ first.toNat)
    (fits : first.toNat + ticks ≤ UInt64.size) (room : number + 13 * ticks < UInt64.size)
    (orderly : router.Orderly (Asked settings) number clock) (passed : clock ≤ first)
    (run : serveAll (search settings) (requestsFrom settings first ticks) router =
      .ok replies after) :
    (phased (requestsFrom settings first ticks) replies).Nodup := by
  induction ticks using Nat.strong_induction_on generalizing first router after number clock
    replies with
  | _ ticks ih =>
  by_cases within : ticks ≤ phaseTicks.toNat
  · have once := roomy.nodup_searchedIn aligned within fits orderly passed run
    apply List.Nodup.of_map Prod.snd
    unfold phased
    rwa [List.map_map]
  · have length : phaseTicks.toNat = 90 := rfl
    obtain ⟨more, rfl⟩ := Nat.exists_eq_add_of_le (Nat.le_of_not_le within)
    rw [requestsFrom_add] at run ⊢
    obtain ⟨told, between, rest, here, later, rfl⟩ := Router.of_serveAll_append run
    have next : (first + UInt64.ofNat phaseTicks.toNat).toNat = first.toNat + phaseTicks.toNat :=
      toNat_add_ofNat (by omega)
    have once := ih phaseTicks.toNat (by omega) aligned (by omega) (by omega) orderly passed here
    have again := ih more (by omega) (next ▸ Nat.dvd_add_self_right.mpr aligned) (by omega)
      (by omega) (roomy.orderly (by omega) (by omega) orderly passed here) (UInt64.le_refl _) later
    rw [phased_append (Router.length_of_serveAll here)]
    apply once.append again
    rintro ⟨phase, query⟩ before after
    -- the phase of a tick after the first phase is a later one
    obtain ⟨now, coming, rfl⟩ := of_mem_phased before
    obtain ⟨late, coming', same⟩ := of_mem_phased after
    obtain ⟨low, high⟩ := find_mem_bounds (by omega) coming
    obtain ⟨low', _⟩ := find_mem_bounds (by omega) coming'
    rw [phaseOf_eq aligned low high] at same
    obtain ⟨phase, start⟩ := aligned
    unfold phaseOf at same
    rw [length] at start same
    rw [next, length] at low'
    omega

/-- Twelve units ask one query each in a phase. -/
theorem Roomy.length_phased_le (roomy : Roomy settings) (room : 13 * ticks < UInt64.size)
    {router : Router settings Unit} (orderly : router.Orderly (Asked settings) 0 0)
    (run : serveAll (search settings) (requestsFrom settings 0 ticks) router =
      .ok replies after) :
    (phased (requestsFrom settings 0 ticks) replies).length ≤ 12 * ((ticks + 89) / 90) := by
  have zero : (0 : Tick).toNat = 0 := rfl
  let every : List (Nat × Query) := (List.range ((ticks + 89) / 90)).flatMap fun phase =>
    units.map fun unit => (phase, queryIn settings phase unit)
  have part : phased (requestsFrom settings 0 ticks) replies ⊆ every := by
    rintro ⟨phase, query⟩ member
    obtain ⟨now, coming, rfl⟩ := of_mem_phased member
    obtain ⟨_, high⟩ := find_mem_bounds (by omega) coming
    obtain ⟨unit, there, rfl⟩ := List.mem_map.mp (of_find_mem coming)
    have early : phaseOf now < (ticks + 89) / 90 := by
      unfold phaseOf
      rw [show phaseTicks.toNat = 90 from rfl]
      omega
    exact List.mem_flatMap.mpr ⟨_, List.mem_range.mpr early, List.mem_map.mpr ⟨unit, there, rfl⟩⟩
  have number : every.length = 12 * ((ticks + 89) / 90) := by
    have twelve (phase : Nat) :
        (units.map fun unit => (phase, queryIn settings phase unit)).length = 12 := rfl
    simp only [every, List.length_flatMap, twelve, List.map_const', List.length_range]
    rw [List.sum_replicate_nat, Nat.mul_comm]
  have once := roomy.nodup_phased (by simp) (by omega) (by omega) orderly (UInt64.le_refl _) run
  rw [← number]
  exact (List.subperm_of_subset once part).length_le

/-! ### The whole simulation -/

/-- A simulation with a roomy grid and roomy caches does not fault, and neither does the total
of its counters. All twelve queries of each tick are counted, no slot is shared, and there are
at most twelve misses in each phase of ninety ticks, the last one included. For a unit asks one
query throughout a phase, and no query is searched twice within one. The line of every query is
walked to its end. -/
theorem play_hits (settings : Settings) (roomy : Roomy settings) (ticks : Nat)
    (few : ticks ≤ 38654704080) :
    let start : Router settings Unit := { memory := () }
    (∀ now unit, now.toNat < ticks → unit ∈ units →
      let query := queryIn settings (phaseOf now) unit
      queryOf settings unit now = .ok query ∧
        ∃ found, search settings query () = .ok found () ∧
          Line.Ends query.start query.goal found.route.cells) ∧
    ∃ totals after tally replies, play (search settings) ticks 0 {} start = .ok totals after ∧
      after.total = .ok tally ∧ tally.hits.toNat + tally.misses.toNat = 12 * ticks ∧
      tally.misses.toNat ≤ 12 * ((ticks + 89) / 90) ∧ tally.collisions = 0 ∧
      serveAll (search settings) (requestsFrom settings 0 ticks) start = .ok replies after ∧
      tally.misses.toNat = (phased (requestsFrom settings 0 ticks) replies).length ∧
      (phased (requestsFrom settings 0 ticks) replies).Nodup := by
  intro start
  have size : 13 * 38654704080 < UInt64.size := by decide
  have zero : (0 : Tick).toNat = 0 := rfl
  have fresh : start.Orderly (Asked settings) 0 0 := Router.orderly_new _ 0 ()
  have asked (query : Query) (now : Tick)
      (member : .find query now ∈ requestsFrom settings 0 ticks) : Asked settings query :=
    ⟨_, of_find_mem member⟩
  obtain ⟨replies, after, run, last, _, orderly⟩ := fresh.exists_run roomy.separates roomy.succeeds
    (by rw [length_requestsFrom]; omega) asked
    (ordered_requestsFrom (by omega) (UInt64.le_refl 0))
  have narrow : spread settings < 2147483648 := Nat.lt_of_le_of_lt roomy.spread_le (by decide)
  have reckoned (now : Tick) (unit : UInt32) (early : now.toNat < ticks) (member : unit ∈ units) :
      queryOf settings unit now = .ok (queryIn settings (phaseOf now) unit) :=
    queryOf_eq (toNat_lt_of_mem_units member) (Nat.lt_of_lt_of_le early few) roomy.spread_pos narrow
  have ended (now : Tick) (unit : UInt32) : ∃ found,
      search settings (queryIn settings (phaseOf now) unit) () = .ok found () ∧
        Line.Ends (queryIn settings (phaseOf now) unit).start
          (queryIn settings (phaseOf now) unit).goal found.route.cells := by
    obtain ⟨found, searched, _, whole⟩ := roomy.search_eq (phaseOf now) unit ()
    exact ⟨found, searched, whole⟩
  obtain ⟨totals, played⟩ := play_of_serveAll roomy.spread_pos narrow (by omega) run {}
  obtain ⟨tally, total, accounts, _⟩ := Router.exists_total_of_serveAll
    (by rw [length_requestsFrom]; omega) run
  have lookups : tally.hits.toNat + tally.misses.toNat = 12 * ticks :=
    (accounts .lookups).trans (length_movers settings 0 ticks)
  have misses : tally.misses.toNat = (phased (requestsFrom settings 0 ticks) replies).length :=
    (accounts .misses).trans (List.length_map _).symm
  have most := roomy.length_phased_le (by omega) fresh run
  have once := roomy.nodup_phased (by simp) (by omega) (by omega) fresh (UInt64.le_refl 0) run
  refine ⟨fun now unit early member => ⟨reckoned now unit early member, ended now unit⟩, ?_⟩
  exact ⟨totals, after, tally, replies, played, total, lookups, misses ▸ most,
    orderly.collisions_total total, run, misses, once⟩

/-- Two phases and one tick more, with the smallest caches and the shortest lifetime. -/
theorem play_hits_two_phases :
    let settings : Settings := { capacity := 4, lifetime := 88, width := 30, depth := 20 }
    let start : Router settings Unit := { memory := () }
    Roomy settings ∧ 181 ≤ 38654704080 ∧
      ∃ totals after tally replies, play (search settings) 181 0 {} start = .ok totals after ∧
        after.total = .ok tally ∧ tally.hits.toNat + tally.misses.toNat = 2172 ∧
        tally.misses.toNat ≤ 36 ∧ tally.collisions = 0 ∧
        serveAll (search settings) (requestsFrom settings 0 181) start = .ok replies after ∧
        tally.misses.toNat = (phased (requestsFrom settings 0 181) replies).length ∧
        (phased (requestsFrom settings 0 181) replies).Nodup := by
  intro settings start
  have roomy : Roomy settings :=
    ⟨by decide, by decide, by decide, by decide, by decide, by decide, by decide⟩
  exact ⟨roomy, by decide, (play_hits settings roomy 181 (by decide)).2⟩

end Simulation

end RouteCache
