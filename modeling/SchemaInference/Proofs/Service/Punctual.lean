/-
This file proves that the refresh loop of a service is never late and never leaves out a tick,
whatever the rebuilds come to.
-/

import SchemaInference.Proofs.Service.Upkeep

namespace SchemaInference

namespace Upkeep

/-- The loop is never late. It rebuilds at the time of its tick. -/
def Punctual (upkeep : Upkeep) : Prop :=
  match upkeep.stage with
  | .waiting => upkeep.now ≤ upkeep.ticker.due
  | .rebuilding => upkeep.now + upkeep.ticker.interval = upkeep.ticker.due
  | .ended => True

/-- The log explains the service and the ticker. -/
structure Sound (service : Service) (start interval : Nat) (upkeep : Upkeep) : Prop where
  replayed : upkeep.service = replay service upkeep.effects
  ordered : (upkeep.acts.map Act.time).Pairwise (· ≤ ·)
  past : ∀ act ∈ upkeep.acts, act.time ≤ upkeep.now
  spaced : upkeep.ticker.interval = interval
  due : upkeep.ticker.due = start + (upkeep.tickTimes.length + upkeep.inProgress) * interval
  ticks : upkeep.tickTimes =
    (List.range upkeep.tickTimes.length).map fun count => start + count * interval
  punctual : upkeep.Punctual
  ended : upkeep.stage = .ended → upkeep.signalled = true
  joined : upkeep.returned = true → upkeep.stage = .ended

namespace Sound

variable {service : Service} {start interval : Nat} {upkeep : Upkeep}

theorem spawn (service : Service) (start interval : Nat) :
    (spawn service start interval).Sound service start interval where
  replayed := rfl
  ordered := List.Pairwise.nil
  past := nofun
  spaced := rfl
  due := by simp [Upkeep.spawn, tickTimes, inProgress]
  ticks := rfl
  punctual := Nat.le_refl start
  ended := nofun
  joined := nofun

variable (sound : upkeep.Sound service start interval)

include sound

/-- A rebuild is in progress at the time of its tick. -/
theorem now_of_rebuilding (rebuilding : upkeep.stage = .rebuilding) :
    upkeep.now = start + upkeep.tickTimes.length * interval := by
  have due := sound.due
  have punctual := sound.punctual
  rw [Punctual, rebuilding] at punctual
  rw [inProgress, if_pos rebuilding, Nat.add_mul, Nat.one_mul] at due
  have spaced := sound.spaced
  omega

theorem due_of_waiting (waiting : upkeep.stage = .waiting) :
    upkeep.ticker.due = start + upkeep.tickTimes.length * interval := by
  have due := sound.due
  rwa [inProgress, if_neg (by rw [waiting]; decide), Nat.add_zero] at due

theorem ticker_eq : upkeep.ticker =
    ⟨interval, start + (upkeep.tickTimes.length + upkeep.inProgress) * interval⟩ := by
  rw [← sound.due]
  exact congrArg (Ticker.mk · upkeep.ticker.due) sound.spaced

/-- The clock has not passed a tick that the loop has not rebuilt for. -/
theorem lt_length_tickTimes (running : upkeep.stage ≠ .ended) (count : Nat)
    (before : start + count * interval < upkeep.now) : count < upkeep.tickTimes.length := by
  have reached : upkeep.now ≤ start + upkeep.tickTimes.length * interval := by
    cases stage : upkeep.stage with
    | ended => exact absurd stage running
    | rebuilding => exact Nat.le_of_eq (sound.now_of_rebuilding stage)
    | waiting =>
        have punctual := sound.punctual
        rw [Punctual, stage] at punctual
        exact sound.due_of_waiting stage ▸ punctual
  have less : count * interval < upkeep.tickTimes.length * interval := by omega
  exact Nat.lt_of_mul_lt_mul_right less

/-- The loop has not rebuilt for a tick that is not due. -/
theorem tick_le_now {count : Nat} (made : count < upkeep.tickTimes.length) :
    start + count * interval ≤ upkeep.now := by
  have listed : start + count * interval ∈ upkeep.tickTimes := by
    rw [sound.ticks]
    exact List.mem_map_of_mem (List.mem_range.mpr made)
  obtain ⟨act, inside, same⟩ := List.mem_filterMap.mp listed
  rw [Act.tickTime?] at same
  split at same
  · exact Option.some.inj same ▸ sound.past act inside
  · cases same

/-- The log keeps the order when an act is added at the present time. -/
theorem ordered_perform (effect : Effect) :
    ((upkeep.perform effect).acts.map Act.time).Pairwise (· ≤ ·) := by
  rw [perform, List.map_append, List.pairwise_append]
  refine ⟨sound.ordered, List.pairwise_singleton _ _, fun time listed last present => ?_⟩
  obtain ⟨act, inside, rfl⟩ := List.mem_map.mp listed
  obtain rfl := List.mem_singleton.mp present
  exact sound.past act inside

theorem past_perform (effect : Effect) :
    ∀ act ∈ (upkeep.perform effect).acts, act.time ≤ upkeep.now := by
  intro act listed
  rcases List.mem_append.mp listed with inside | present
  · exact sound.past act inside
  · obtain rfl := List.mem_singleton.mp present
    exact Nat.le_refl _

theorem replayed_perform (effect : Effect) :
    (upkeep.perform effect).service = replay service (upkeep.perform effect).effects := by
  rw [effects_perform, replay_append, ← sound.replayed]
  rfl

/-- A call from outside leaves the loop alone. -/
theorem perform {effect : Effect} (outside : effect.isTick = false) :
    (upkeep.perform effect).Sound service start interval where
  replayed := sound.replayed_perform effect
  ordered := sound.ordered_perform effect
  past := sound.past_perform effect
  spaced := sound.spaced
  due := by
    rw [tickTimes_perform_of_not_isTick outside]
    exact sound.due
  ticks := by
    rw [tickTimes_perform_of_not_isTick outside]
    exact sound.ticks
  punctual := sound.punctual
  ended := sound.ended
  joined := sound.joined

theorem elapse : (upkeep.step .elapse).Sound service start interval := by
  rw [step]
  split
  · exact sound
  · next idle =>
      refine { sound with
        past := fun act inside => Nat.le_succ_of_le (sound.past act inside)
        punctual := ?_ }
      unfold Punctual
      cases stage : upkeep.stage with
      | waiting =>
          -- A clock that may go on has not reached the next tick.
          have early : ¬ upkeep.ticker.due ≤ upkeep.now := fun due => idle (Or.inr ⟨stage, due⟩)
          exact Nat.not_le.mp early
      | rebuilding => exact absurd (Or.inl stage) idle
      | ended => trivial

/-- A tick fires on time, because the clock has not passed it. -/
theorem fire : (upkeep.step .fire).Sound service start interval := by
  rw [step]
  split
  · next possible =>
      obtain ⟨waiting, reached⟩ := possible
      have punctual := sound.punctual
      rw [Punctual, waiting] at punctual
      have due := sound.due_of_waiting waiting
      have spaced := sound.spaced
      have unended : Stage.rebuilding ≠ .ended ∧ Stage.waiting ≠ .ended := by decide
      refine { sound with due := ?_, punctual := ?_, ended := ?_, joined := ?_ }
      · show upkeep.ticker.due + 1 * upkeep.ticker.interval =
          start + (upkeep.tickTimes.length + 1) * interval
        rw [Nat.add_mul, due, spaced, Nat.add_assoc]
      · show upkeep.now + upkeep.ticker.interval =
          upkeep.ticker.due + 1 * upkeep.ticker.interval
        rw [Nat.one_mul, Nat.le_antisymm punctual reached]
      · exact fun ended => absurd ended unended.1
      · exact fun returned => absurd (waiting.symm.trans (sound.joined returned)) unended.2
  · exact sound

/-- The rebuild for a tick is made at the time of the tick. -/
theorem work : (upkeep.step .work).Sound service start interval := by
  rw [step]
  split
  · next rebuilding =>
      have now := sound.now_of_rebuilding rebuilding
      have due := sound.due
      have punctual := sound.punctual
      rw [inProgress, if_pos rebuilding] at due
      rw [Punctual, rebuilding] at punctual
      have unended : Stage.rebuilding ≠ .ended ∧ Stage.waiting ≠ .ended := by decide
      have ticks : (upkeep.perform .tick).tickTimes =
          (List.range (upkeep.tickTimes.length + 1)).map fun count => start + count * interval := by
        rw [tickTimes_perform_tick, List.range_succ, List.map_append, ← sound.ticks, now]
        rfl
      have length : (upkeep.perform .tick).tickTimes.length = upkeep.tickTimes.length + 1 := by
        rw [tickTimes_perform_tick, List.length_append, List.length_singleton]
      exact
        { replayed := sound.replayed_perform .tick
          ordered := sound.ordered_perform .tick
          past := sound.past_perform .tick
          spaced := sound.spaced
          due := by
            show upkeep.ticker.due =
              start + ((upkeep.perform .tick).tickTimes.length + 0) * interval
            rw [length]
            exact due
          ticks := by
            show (upkeep.perform .tick).tickTimes =
              (List.range (upkeep.perform .tick).tickTimes.length).map _
            rw [length]
            exact ticks
          punctual := Nat.le.intro punctual
          ended := fun ended => absurd ended unended.2
          joined := fun returned =>
            absurd (rebuilding.symm.trans (sound.joined returned)) unended.1 }
  · exact sound

theorem leave : (upkeep.step .leave).Sound service start interval := by
  rw [step]
  split
  · next possible =>
      obtain ⟨waiting, signalled⟩ := possible
      exact { sound with
        due := sound.due_of_waiting waiting
        punctual := trivial
        ended := fun _ => signalled
        joined := fun _ => rfl }
  · exact sound

theorem signal : (upkeep.step .signal).Sound service start interval :=
  { sound with ended := fun _ => rfl }

theorem finish : (upkeep.step .finish).Sound service start interval := by
  rw [step]
  split
  · next ended => exact { sound with joined := fun _ => ended }
  · exact sound

theorem step (move : Move) : (upkeep.step move).Sound service start interval := by
  cases move with
  | elapse => exact sound.elapse
  | change source => exact sound.perform rfl
  | rebuild => exact sound.perform rfl
  | signal => exact sound.signal
  | fire => exact sound.fire
  | work => exact sound.work
  | leave => exact sound.leave
  | finish => exact sound.finish

theorem run (moves : List Move) : (upkeep.run moves).Sound service start interval := by
  induction moves generalizing upkeep with
  | nil => exact sound
  | cons move moves inductionHypothesis => exact inductionHypothesis (sound.step move)

end Sound

/-! The next tick -/

variable {upkeep : Upkeep}

/-- The clock goes on as long as the loop has nothing to do. -/
theorem run_elapse {duration : Nat}
    (idle : ∀ passed < duration, ¬ Busy { upkeep with now := upkeep.now + passed }) :
    upkeep.run (List.replicate duration .elapse) =
      { upkeep with now := upkeep.now + duration } := by
  induction duration with
  | zero => rfl
  | succ duration inductionHypothesis =>
      rw [List.replicate_succ', run_append,
        inductionHypothesis fun passed less => idle passed (Nat.lt_succ_of_lt less)]
      exact if_neg (idle duration (Nat.lt_succ_self duration))

theorem run_elapse_of_waiting (waiting : upkeep.stage = .waiting) {duration : Nat}
    (early : upkeep.now + duration ≤ upkeep.ticker.due) :
    upkeep.run (List.replicate duration .elapse) =
      { upkeep with now := upkeep.now + duration } := by
  refine run_elapse fun passed less busy => ?_
  rcases busy with rebuilding | ⟨_, due⟩
  · exact absurd (waiting.symm.trans rebuilding) (by decide)
  · have due : upkeep.ticker.due ≤ upkeep.now + passed := due
    omega

/-- The moves of the clock and the loop up to the rebuild for the next tick. -/
def toTick (upkeep : Upkeep) : List Move :=
  List.replicate (upkeep.ticker.due - upkeep.now) .elapse ++ [.fire, .work]

theorem isInternal_of_mem_toTick : ∀ move ∈ upkeep.toTick, move.isInternal = true := by
  intro move listed
  rcases List.mem_append.mp listed with elapse | loop
  · rw [List.eq_of_mem_replicate elapse]
    rfl
  · simp only [List.mem_cons, List.not_mem_nil, or_false] at loop
    rcases loop with rfl | rfl <;> rfl

/-- The loop rebuilds at the time of its next tick. -/
theorem run_toTick (waiting : upkeep.stage = .waiting) (early : upkeep.now ≤ upkeep.ticker.due) :
    upkeep.run upkeep.toTick =
      { upkeep with
        service := upkeep.service.rebuild
        now := upkeep.ticker.due
        ticker := upkeep.ticker.after 1
        acts := upkeep.acts ++ [⟨upkeep.ticker.due, .tick⟩] } := by
  have reached : upkeep.now + (upkeep.ticker.due - upkeep.now) = upkeep.ticker.due :=
    Nat.add_sub_cancel' early
  rw [toTick, run_append, run_elapse_of_waiting waiting (Nat.le_of_eq reached), reached]
  simp [step, perform, waiting, Effect.apply]

/-- The loop gets to its next tick, when the clock and the loop go on. -/
theorem Sound.exists_run_tick {service : Service} {start interval : Nat}
    (sound : upkeep.Sound service start interval) (running : upkeep.stage ≠ .ended) :
    ∃ moves, (∀ move ∈ moves, move.isInternal = true) ∧
      (upkeep.run moves).tickTimes =
        upkeep.tickTimes ++ [start + upkeep.tickTimes.length * interval] := by
  cases stage : upkeep.stage with
  | ended => exact absurd stage running
  | rebuilding =>
      refine ⟨[.work], by simp [Move.isInternal], ?_⟩
      rw [run_cons, run_nil, Upkeep.step, if_pos stage, ← sound.now_of_rebuilding stage]
      exact tickTimes_perform_tick
  | waiting =>
      have early := sound.punctual
      rw [Punctual, stage] at early
      refine ⟨upkeep.toTick, isInternal_of_mem_toTick, ?_⟩
      rw [run_toTick stage early, ← sound.due_of_waiting stage]
      exact List.filterMap_append

end Upkeep

end SchemaInference
