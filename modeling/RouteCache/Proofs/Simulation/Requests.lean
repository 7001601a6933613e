import RouteCache.Proofs.Router.Freshness
import RouteCache.Proofs.Simulation.Units

/-!
A simulation as a run of a router. Playing a number of ticks is serving the requests of these
ticks, in each of which all units ask their queries and then memos expire. All ticks of a
phase have the same queries.
-/

namespace RouteCache

namespace Simulation

open Router (Request Reply serveAll rounds round)

variable {settings : Settings} {σ : Type} {router after : Router settings σ} {search : Search σ}
  {replies : List Reply} {now first : Tick} {phase ticks : Nat}

/-- The queries of each of a number of ticks. -/
def queriesFrom (settings : Settings) : Tick → Nat → List (List Query)
  | _, 0 => []
  | first, ticks + 1 =>
    units.map (queryIn settings (phaseOf first)) :: queriesFrom settings (first + 1) ticks

/-- What a simulation asks of its router in a number of ticks. -/
def requestsFrom (settings : Settings) (first : Tick) (ticks : Nat) : List Request :=
  rounds false first (queriesFrom settings first ticks)

theorem length_queriesFrom (settings : Settings) (first : Tick) (ticks : Nat) :
    (queriesFrom settings first ticks).length = ticks := by
  induction ticks generalizing first with
  | zero => rfl
  | succ ticks ih => exact congrArg Nat.succ (ih (first + 1))

/-! ### Playing is serving -/

theorem askAll_of_serveAll {asking : List UInt32} {query : UInt32 → Query}
    (reckoned : ∀ unit ∈ asking, queryOf settings unit now = .ok (query unit))
    (run : serveAll search (asking.map fun unit => .find (query unit) now) router =
      .ok replies after) :
    ∃ cost, askAll search now asking router = .ok cost after := by
  induction asking generalizing router replies with
  | nil =>
    cases run
    exact ⟨0, rfl⟩
  | cons unit others ih =>
    obtain ⟨reply, between, rest, served, remaining, rfl⟩ := Router.of_serveAll_cons run
    obtain ⟨answer, rfl, found⟩ := Router.of_serve_find served
    obtain ⟨cost, asked⟩ :=
      ih (fun other member => reckoned other (List.mem_cons_of_mem unit member)) remaining
    have known : (MonadExcept.ofExcept (queryOf settings unit now) : RouterM settings σ Query)
        router = .ok (query unit) router := by
      rw [reckoned unit List.mem_cons_self]
      rfl
    refine ⟨answer.found.route.cost.wholePart + cost, ?_⟩
    unfold askAll
    rw [bind_of_ok known, bind_of_ok (Router.find_eq_ok_iff.mpr found), bind_of_ok asked]
    rfl

theorem playTick_of_serveAll {query : UInt32 → Query}
    (reckoned : ∀ unit ∈ units, queryOf settings unit now = .ok (query unit))
    (run : serveAll search (round false now (units.map query)) router = .ok replies after) :
    ∃ totals, playTick search now router = .ok totals after := by
  obtain ⟨_, between, _, asked, rest, _⟩ := Router.of_serveAll_append run
  rw [List.map_map] at asked
  obtain ⟨cost, costs⟩ := askAll_of_serveAll reckoned asked
  obtain ⟨_, _, _, served, last, _⟩ := Router.of_serveAll_cons rest
  cases last
  obtain ⟨dropped, _, expired, finished⟩ := bind_eq_ok_iff.mp served
  cases finished
  refine ⟨⟨dropped, cost⟩, ?_⟩
  unfold playTick
  rw [bind_of_ok costs, bind_of_ok expired]
  rfl

theorem toNat_lt_of_mem_units {unit : UInt32} (member : unit ∈ units) :
    unit.toNat < unitCount := by
  obtain ⟨number, below, rfl⟩ := List.mem_map.mp member
  have small : number < unitCount := List.mem_range.mp below
  have fits : number < UInt32.size := Nat.lt_trans small (by decide)
  rwa [UInt32.toNat_ofNat_of_lt' fits]

/-- The induction is on the ticks, with the totals that each of them adds to. -/
theorem play_of_serveAll (positive : 0 < spread settings) (fits : spread settings < 2147483648)
    (early : first.toNat + ticks ≤ 38654704080)
    (run : serveAll search (requestsFrom settings first ticks) router = .ok replies after)
    (totals : Totals) : ∃ more, play search ticks first totals router = .ok more after := by
  induction ticks generalizing first router replies totals with
  | zero =>
    cases run
    exact ⟨totals, rfl⟩
  | succ ticks ih =>
    obtain ⟨_, between, _, here, later, _⟩ := Router.of_serveAll_append run
    obtain ⟨more, played⟩ := playTick_of_serveAll (fun unit member =>
      queryOf_eq (toNat_lt_of_mem_units member) (by omega) positive fits) here
    have next : (first + 1).toNat = first.toNat + 1 :=
      toNat_add_one (Nat.lt_of_le_of_lt (by omega) (by decide : 38654704080 < UInt64.size))
    obtain ⟨last, ended⟩ := ih (by omega) later
      ⟨totals.expired + more.expired, totals.cost + more.cost⟩
    refine ⟨last, ?_⟩
    unfold play
    rw [bind_of_ok played]
    exact ended

/-! ### The requests -/

theorem requestsFrom_succ (settings : Settings) (first : Tick) (ticks : Nat) :
    requestsFrom settings first (ticks + 1) =
      round false first (units.map (queryIn settings (phaseOf first))) ++
        requestsFrom settings (first + 1) ticks := rfl

/-- The requests of some ticks and then of more. -/
theorem requestsFrom_add (settings : Settings) (first : Tick) (ticks more : Nat) :
    requestsFrom settings first (ticks + more) =
      requestsFrom settings first ticks ++
        requestsFrom settings (first + UInt64.ofNat ticks) more := by
  induction ticks generalizing first with
  | zero =>
    rw [Nat.zero_add, show UInt64.ofNat 0 = 0 from rfl, UInt64.add_zero]
    rfl
  | succ ticks ih =>
    have shifted : first + UInt64.ofNat (ticks + 1) = first + 1 + UInt64.ofNat ticks := by
      rw [UInt64.ofNat_add, UInt64.add_comm (UInt64.ofNat ticks), UInt64.add_assoc]
      rfl
    rw [Nat.add_right_comm, requestsFrom_succ, requestsFrom_succ, ih, shifted, List.append_assoc]

theorem mem_requestsFrom_bounds {request : Request}
    (fits : first.toNat + ticks ≤ UInt64.size)
    (member : request ∈ requestsFrom settings first ticks) :
    2 * first.toNat ≤ request.moment false ∧ request.moment false < 2 * (first.toNat + ticks) := by
  have bounds := Router.moment_of_mem_rounds (by rwa [length_queriesFrom]) member
  rwa [length_queriesFrom] at bounds

theorem find_mem_bounds {query : Query} (fits : first.toNat + ticks ≤ UInt64.size)
    (member : .find query now ∈ requestsFrom settings first ticks) :
    first.toNat ≤ now.toNat ∧ now.toNat < first.toNat + ticks := by
  have bounds := mem_requestsFrom_bounds fits member
  simp only [Request.moment, Bool.false_eq_true, if_false] at bounds
  omega

theorem expire_mem_bounds (fits : first.toNat + ticks ≤ UInt64.size)
    (member : .expire now ∈ requestsFrom settings first ticks) :
    first.toNat ≤ now.toNat ∧ now.toNat < first.toNat + ticks := by
  have bounds := mem_requestsFrom_bounds fits member
  simp only [Request.moment, Bool.false_eq_true, if_false] at bounds
  omega

/-- A query of a simulation is one of the phase that its tick belongs to. -/
theorem of_find_mem {query : Query} (member : .find query now ∈ requestsFrom settings first ticks) :
    query ∈ units.map (queryIn settings (phaseOf now)) := by
  induction ticks generalizing first with
  | zero => cases member
  | succ ticks ih =>
    rcases List.mem_append.mp member with here | later
    · rcases Router.mem_round_iff.mp here with expired | ⟨other, there, same⟩
      · cases expired
      · cases same
        exact there
    · exact ih later

theorem length_requestsFrom (settings : Settings) (first : Tick) (ticks : Nat) :
    (requestsFrom settings first ticks).length = 13 * ticks := by
  induction ticks generalizing first with
  | zero => rfl
  | succ ticks ih =>
    have one : (round false first (units.map (queryIn settings (phaseOf first)))).length = 13 := rfl
    rw [requestsFrom_succ, List.length_append, one, ih]
    omega

theorem length_movers (settings : Settings) (first : Tick) (ticks : Nat) :
    ((requestsFrom settings first ticks).filterMap Request.mover?).length = 12 * ticks := by
  induction ticks generalizing first with
  | zero => rfl
  | succ ticks ih =>
    have one : ((round false first (units.map (queryIn settings (phaseOf first)))).filterMap
        Request.mover?).length = 12 := rfl
    rw [requestsFrom_succ, List.filterMap_append, List.length_append, one, ih]
    omega

theorem ordered_requestsFrom {clock : Tick} (fits : first.toNat + ticks ≤ UInt64.size)
    (passed : clock ≤ first) :
    (clock :: (requestsFrom settings first ticks).filterMap Request.findTick?).Pairwise
      (· ≤ ·) := by
  have sorted : (requestsFrom settings first ticks).Pairwise
      (·.moment false ≤ ·.moment false) :=
    Router.rounds_sorted (by rwa [length_queriesFrom])
  have find {request : Request} {tick : Tick} (asked : tick ∈ request.findTick?) :
      ∃ query, request = .find query tick := by
    cases request with
    | expire now => cases asked
    | find query now =>
      cases asked
      exact ⟨query, rfl⟩
  rw [UInt64.le_iff_toNat_le] at passed
  refine List.pairwise_cons.mpr ⟨?_, sorted.filterMap _ ?_⟩
  · intro tick member
    obtain ⟨request, coming, asked⟩ := List.mem_filterMap.mp member
    obtain ⟨query, rfl⟩ := find asked
    obtain ⟨low, _⟩ := find_mem_bounds fits coming
    exact UInt64.le_iff_toNat_le.mpr (Nat.le_trans passed low)
  · intro one other order tick here later there
    obtain ⟨_, rfl⟩ := find here
    obtain ⟨_, rfl⟩ := find there
    simp only [Request.moment, Bool.false_eq_true, if_false] at order
    exact UInt64.le_iff_toNat_le.mpr (by omega)

/-- The requests of some ticks end with the expiry of the last one. The other expiries are those
of the ticks before it. -/
theorem exists_requestsFrom_concat (settings : Settings) (first : Tick) (ticks : Nat) :
    ∃ before, requestsFrom settings first (ticks + 1) =
        before ++ [.expire (first + UInt64.ofNat ticks)] ∧
      ∀ now, .expire now ∈ before → .expire now ∈ requestsFrom settings first ticks := by
  refine ⟨requestsFrom settings first ticks ++
    (units.map (queryIn settings (phaseOf (first + UInt64.ofNat ticks)))).map
      (.find · (first + UInt64.ofNat ticks)), ?_, ?_⟩
  · rw [requestsFrom_add, List.append_assoc]
    rfl
  · intro now member
    rcases List.mem_append.mp member with before | last
    · exact before
    · simp at last

end Simulation

end RouteCache
