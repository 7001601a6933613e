import RouteCache.Proofs.Cache.Follows

/-!
A cache is a single bounded list. Run by run and request by request it answers as a
register does, although it prunes only at the front of its line and finds memos on a
shelf, while the register looks through one list.
-/

namespace RouteCache

namespace Cache

variable {policy : Policy}

/-- All that can be observed of a cache beside its answers agrees with a register. -/
structure Agrees (cache : Cache policy) (register : Register) : Prop where
  size : cache.size = register.size
  waiting : cache.deadlines.size = register.size
  counts : ∀ occasion, (cache.report.number occasion).toNat = register.counts occasion
  held : cache.report.held.toNat = register.size

theorem Agrees.of_describes {register : Register} {cache : Cache policy}
    (sound : register.Sound policy) (h : register.Describes cache) : cache.Agrees register := by
  have size : cache.size = register.size := h.size
  refine ⟨size, h.deadlines_size, ?_, ?_⟩
  · intro occasion
    rw [← h.counts occasion]
    cases occasion <;> rfl
  · unfold report Tally.withHeld
    rw [size]
    exact sound.toNat_size

/-- A run that does not fault gives the answers of the register, and after every part
of the run all that can be observed agrees with the register after that part. -/
theorem serveAll_refines (past future : List Request) (replies : List Reply)
    (last : Cache policy) (run : serveAll (past ++ future) empty = .ok replies last) :
    (Register.empty.serveAll policy (past ++ future)).1 = replies ∧
    ∃ cache : Cache policy,
      serveAll past empty = .ok (Register.empty.serveAll policy past).1 cache ∧
        cache.Agrees (Register.empty.serveAll policy past).2 := by
  obtain ⟨answers, _, _⟩ := Register.of_serveAll run
  obtain ⟨first, between, earlier⟩ := Register.ok_of_serveAll_append run
  obtain ⟨same, sound, describes⟩ := Register.of_serveAll earlier
  rw [← same] at earlier
  exact ⟨answers, between, earlier, .of_describes sound describes⟩

theorem serveAll_refines_eviction :
    let requests : List Request := [.insert ⟨eastward 5, ⟨{}, .reached⟩⟩ 0,
      .insert ⟨eastward 5, ⟨{}, .reached⟩⟩ 1, .insert ⟨eastward 6, ⟨{}, .reached⟩⟩ 2,
      .insert ⟨eastward 7, ⟨{}, .approached⟩⟩ 3, .lookup (eastward 7)]
    let policy := Policy.bounded (Grid.slot ⟨8, 8⟩) 2 10
    let replies : List Reply := [.inserted .stored, .inserted .duplicate, .inserted .stored,
      .inserted .stored, .found (some ⟨eastward 7, ⟨{}, .approached⟩⟩), .expired 1]
    ∃ last : Cache policy,
      serveAll (requests ++ [.expire 13]) empty = .ok replies last ∧
        (Register.empty.serveAll policy (requests ++ [.expire 13])).1 = replies ∧
        ∃ cache : Cache policy,
          serveAll requests empty = .ok (Register.empty.serveAll policy requests).1 cache ∧
            cache.Agrees (Register.empty.serveAll policy requests).2 := by
  intro requests policy replies
  have run : answer? (serveAll (requests ++ [.expire 13]) (empty : Cache policy)) =
      some replies := by
    decide +kernel
  obtain ⟨last, ended⟩ := answer?_eq_some_iff.mp run
  exact ⟨last, ended, serveAll_refines requests [.expire 13] replies last ended⟩

end Cache

end RouteCache
