/-
This file proves that the refresh loop of a service is a sequence of plain rebuilds. The loop whose
clock moves in strides is one of its runs.
-/

import SchemaInference.Proofs.Service.Strides

namespace SchemaInference

namespace Upkeep

/-- A run of the loop is explained by plain calls. -/
structure Refines (service : Service) (start interval : Nat) (moves : List Move)
    (upkeep : Upkeep) : Prop where
  /-- The service is where the calls in the log lead without a loop. -/
  replayed : upkeep.service = replay service upkeep.effects
  ordered : (upkeep.acts.map Act.time).Pairwise (· ≤ ·)
  /-- What follows adds to the log at its end. -/
  grows : ∀ more, upkeep.acts <+: (upkeep.run more).acts
  /-- The log has the calls from outside in the order in which they came. -/
  outside : upkeep.outsideEffects = Move.calls moves
  /-- The loop has rebuilt once for each tick. -/
  ticks : upkeep.tickTimes =
    (List.range upkeep.tickTimes.length).map fun count => start + count * interval
  /-- The ticker has fired once for each rebuild of the loop and for the one in progress. -/
  fired : upkeep.ticker =
    ⟨interval, start + (upkeep.tickTimes.length + upkeep.inProgress) * interval⟩
  /-- Whatever the failure of a rebuild for a tick is, the loop goes on with the same ticker. -/
  survives : ∀ failure, upkeep.stage = .rebuilding → upkeep.service.attempt = .error failure →
    upkeep.step .work =
      { upkeep with stage := .waiting, acts := upkeep.acts ++ [⟨upkeep.now, .tick⟩] }
  /-- Nothing but the signal ends the loop. -/
  ended : upkeep.stage = .ended → .signal ∈ moves
  /-- Until the loop has ended, it has rebuilt for every tick before the present time. -/
  complete : upkeep.stage ≠ .ended →
    ∀ count, start + count * interval < upkeep.now → count < upkeep.tickTimes.length
  /-- Until the loop has ended, it gets to its next tick. -/
  continues : upkeep.stage ≠ .ended → ∃ more, (∀ move ∈ more, move.isInternal = true) ∧
    (upkeep.run more).tickTimes =
      upkeep.tickTimes ++ [start + upkeep.tickTimes.length * interval]
  /-- The call that stops the loop returns after a rebuild in progress. -/
  stops : (upkeep.run [.signal, .work, .leave, .finish]).returned = true
  /-- After the return nothing but the calls from outside reaches the service. -/
  quiet : upkeep.returned = true →
    ∀ more, (upkeep.run more).service = replay upkeep.service (Move.calls more)

/-- The refresh loop refines a sequence of plain rebuilds, whatever the schedule is and whatever the
rebuilds come to. The loop whose clock moves in strides is one of its runs, with the same calls from
outside. Each stride takes its time with one rebuild for each due tick, and a stop ends the loop. -/
theorem run_refines_rebuilds (service : Service) (start : Nat) {interval : Nat}
    (positive : 0 < interval) :
    (∀ moves, Refines service start interval moves ((spawn service start interval).run moves)) ∧
      ∀ commands, ∃ moves, Move.calls moves = Refresh.Command.calls commands ∧
        ((spawn service start interval).run moves).view =
          commands.foldl Refresh.perform (Refresh.spawn ⟨service, start, none⟩ interval) ∧
        (spawn service start interval).Follows start interval commands moves := by
  constructor
  · intro moves
    have sound := (Sound.spawn service start interval).run moves
    exact
      { replayed := sound.replayed
        ordered := sound.ordered
        grows := acts_prefix_run
        outside := outsideEffects_run moves
        ticks := sound.ticks
        fired := sound.ticker_eq
        survives := fun _ => step_work_of_error
        ended := fun ended => (signalled_run (sound.ended ended)).resolve_left Bool.false_ne_true
        complete := sound.lt_length_tickTimes
        continues := sound.exists_run_tick
        stops := returned_run_signal
        quiet := fun returned => service_run_of_ended (sound.joined returned) }
  · intro commands
    have apart : Stage.waiting ≠ .rebuilding := by decide
    obtain ⟨moves, follows⟩ :=
      (Sound.spawn service start interval).exists_follows positive apart commands
    exact ⟨moves, follows.calls, follows.view, follows⟩

/-- The source begins with a text that is no document. -/
def flakyService : Service :=
  .start (.ofBytes "[".toUTF8) (.ofOptions .standard)

/-- The first rebuild for a tick fails at the text and the second one because the source is not
available. A rebuild by hand comes between them and another one after the end of the loop. -/
def flakySchedule : List Move :=
  [.fire, .work, .elapse, .change (.ofValue (.object [])), .rebuild, .elapse, .fire,
    .change (.unavailable "down"), .work, .change (.ofValue (.object [])), .elapse, .elapse, .fire,
    .signal, .work, .leave, .finish, .elapse, .rebuild]

theorem run_refines_rebuilds_flaky :
    let upkeep := (spawn flakyService 5 2).run flakySchedule
    0 < 2 ∧ upkeep.tickTimes = [5, 7, 9] ∧ upkeep.service.generationNumber = 3 ∧
      upkeep.service = replay flakyService upkeep.effects ∧ upkeep.effects.length = 8 ∧
      ∀ more, (upkeep.run more).service = replay upkeep.service (Move.calls more) := by
  intro upkeep
  have positive : 0 < 2 := by decide
  have refines := (run_refines_rebuilds flakyService 5 positive).1 flakySchedule
  exact ⟨positive, rfl, by decide +kernel, refines.replayed, rfl, refines.quiet rfl⟩

end Upkeep

end SchemaInference
