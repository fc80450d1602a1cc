import ProductionOptimizer.SharedRuns

/-!
# The pass counter of the repair loop

`s03_revision_attempts` numbers the passes through S03 to S06. Only a fresh failing
`S04.90` and a fresh repair decision of `S06.80` move it, each by one: an intent that moved
it is out of reach of every later key.
-/

namespace ProductionOptimizer
open Runs NumberedLog
set_option autoImplicit false

def loopStages : List Stage := [.S03, .S04, .S05, .S06]

def Bumps (execution : NodeExecution) : Prop :=
  ∃ u ∈ execution.updates, u.field = .s03RevisionAttempts

theorem revisionPass_loop {stage : Stage} (h : stage ∈ loopStages) (s : OptimizationState) :
    revisionPass stage s = s.s03RevisionAttempts := by
  simp only [loopStages, List.mem_cons, List.not_mem_nil, or_false] at h
  rcases h with rfl | rfl | rfl | rfl <;> rfl

/-- What holds of the counter and the ledger along every run from a converged case. -/
structure PassInv (c : Config) : Prop where
  writes : WritesSound c.ledger
  revision_le : ∀ key execution, c.ledger.cached key = some execution →
    key.node.stage ∈ loopStages → key.revision ≤ c.state.s03RevisionAttempts
  bumped : ∀ key execution, c.ledger.cached key = some execution → key.node ∈ catalog →
    Bumps execution → key.revision < c.state.s03RevisionAttempts

theorem Converged.passInv {portfolio : SolutionPortfolio} {c : Config}
    (h : Converged portfolio c) : PassInv c where
  writes := h.writesSound
  revision_le key execution hcached hloop := by
    refine absurd ?_ (h.ledger key execution hcached)
    revert hloop
    cases key.node.stage <;> decide
  bumped key execution hcached hmem :=
    absurd (stage_of_mem_catalog _ hmem) (h.ledger key execution hcached)

/-- The two ways the counter moves. -/
inductive Moves (c : Config) (visit : Visit) (c' : Config) : Prop where
  | kept (heq : c'.state.s03RevisionAttempts = c.state.s03RevisionAttempts)
      (hbumps : ¬ Bumps visit.execution)
  | failed (hnode : visit.node = ⟨.S04, 90⟩) (hfresh : visit.replayed = false)
      (hchecks : checksPassed c.state.s04CheckResults = false)
      (heq : c'.state.s03RevisionAttempts = c.state.s03RevisionAttempts + 1)
  | repairs (hnode : visit.node = ⟨.S06, 80⟩) (hfresh : visit.replayed = false)
      (hdecision : c.state.s06Decision = some .fixOnePart)
      (heq : c'.state.s03RevisionAttempts = c.state.s03RevisionAttempts + 1)

section Step
variable {c c' : Config} {visit : Visit}

theorem key_revision (h : SharedSpec c visit c') (hloop : visit.node.stage ∈ loopStages) :
    visit.key.revision = c.state.s03RevisionAttempts := by
  rw [h.key]
  exact revisionPass_loop hloop c.state

theorem loop_of_bumps (h : SharedSpec c visit c') (hb : Bumps visit.execution) :
    visit.node = ⟨.S04, 90⟩ ∨ visit.node = ⟨.S06, 80⟩ := by
  obtain ⟨u, hu, hfield⟩ := hb
  refine s03RevisionAttempts_writers _ h.registered ?_
  rw [← hfield]
  exact h.writes.field_mem hu

/-- A replayed intent never moves the counter again. -/
theorem fresh_of_bumps (hinv : PassInv c) (h : SharedSpec c visit c')
    (hb : Bumps visit.execution) : visit.replayed = false := by
  cases hflag : visit.replayed with
  | false => rfl
  | true =>
    have hlt := hinv.bumped _ _ (h.replayed hflag) h.registered hb
    have hloop : visit.node.stage ∈ loopStages := by
      rcases loop_of_bumps h hb with hnode | hnode <;> rw [hnode] <;> decide
    rw [key_revision h hloop] at hlt
    exact absurd hlt (Nat.lt_irrefl _)

theorem moves_of_step (hinv : PassInv c) (h : SharedSpec c visit c') : Moves c visit c' := by
  by_cases hb : Bumps visit.execution
  · have hfresh := fresh_of_bumps hinv h hb
    obtain ⟨_, a, hhandler⟩ := h.fresh hfresh
    have hget := h.committed.get .s03RevisionAttempts
    rcases loop_of_bumps h hb with hnode | hnode
    · rw [hnode] at hhandler
      obtain ⟨_, _, _, _, _, _, _, _, ⟨_, hu⟩ | ⟨hchecks, hu⟩⟩ := handleS0490_ok hhandler
      · obtain ⟨u, hmem, hfield⟩ := hb
        rw [hu] at hmem
        cases List.mem_singleton.mp hmem
        cases hfield
      · rw [hu] at hget
        exact .failed hnode hfresh hchecks hget
    · rw [hnode] at hhandler
      obtain ⟨_, _, updates, _, _, _, _, hdecision, hu⟩ := handleS0680_ok hhandler
      rcases decisionUpdates_cases c.state hdecision with ⟨_, _, rfl⟩ | ⟨hfix, rfl⟩ | ⟨_, _, _, rfl⟩
      · obtain ⟨u, hmem, hfield⟩ := hb
        rw [hu] at hmem
        cases List.mem_singleton.mp hmem
        cases hfield
      · rw [hu] at hget
        refine .repairs hnode hfresh ?_ hget
        cases hd : c.state.s06Decision with
        | none =>
          rw [hd] at hfix
          cases hfix
        | some outcome =>
          rw [hd] at hfix
          exact congrArg some hfix
      · obtain ⟨u, hmem, hfield⟩ := hb
        rw [hu] at hmem
        rcases List.mem_cons.mp hmem with rfl | hmem
        · cases hfield
        · cases List.mem_singleton.mp hmem
          cases hfield
  · refine .kept (h.committed.get_of_untouched (f := .s03RevisionAttempts) ?_) hb
    exact fun u hu hfield => hb ⟨u, hu, hfield⟩

theorem Moves.le (h : Moves c visit c') :
    c.state.s03RevisionAttempts ≤ c'.state.s03RevisionAttempts := by
  cases h with
  | kept heq _ => exact heq.ge
  | failed _ _ _ heq => omega
  | repairs _ _ _ heq => omega

theorem Moves.lt_of_bumps (h : Moves c visit c') (hb : Bumps visit.execution) :
    c.state.s03RevisionAttempts < c'.state.s03RevisionAttempts := by
  cases h with
  | kept _ hnot => exact absurd hb hnot
  | failed _ _ _ heq => omega
  | repairs _ _ _ heq => omega

theorem PassInv.step (hinv : PassInv c) (h : SharedSpec c visit c') : PassInv c' where
  writes := h.writesSound hinv.writes
  revision_le key execution hcached hloop := by
    have hle := (moves_of_step hinv h).le
    rcases h.cached_cases key execution hcached with hold | ⟨rfl, _⟩
    · exact (hinv.revision_le key execution hold hloop).trans hle
    · rw [key_revision h hloop]
      exact hle
  bumped key execution hcached hmem hb := by
    have hmoves := moves_of_step hinv h
    rcases h.cached_cases key execution hcached with hold | ⟨rfl, rfl⟩
    · exact Nat.lt_of_lt_of_le (hinv.bumped key execution hold hmem hb) hmoves.le
    · have hloop : visit.node.stage ∈ loopStages := by
        rcases loop_of_bumps h hb with hnode | hnode <;> rw [hnode] <;> decide
      rw [key_revision h hloop]
      exact hmoves.lt_of_bumps hb

end Step

end ProductionOptimizer
