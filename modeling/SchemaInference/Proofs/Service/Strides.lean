/-
This file carries out commands that move the clock in strides. Each command is a sequence of moves of
the refresh loop, the clock and the other callers.
-/

import SchemaInference.Proofs.Service.Punctual

namespace SchemaInference

theorem Ticker.ticksUntil_of_due_le {ticker : Ticker} {time : Nat} (positive : 0 < ticker.interval)
    (due : ticker.due ≤ time) :
    ticker.ticksUntil time = (ticker.after 1).ticksUntil time + 1 := by
  rw [ticksUntil, ticksUntil, after, if_pos due]
  dsimp only
  rw [Nat.one_mul]
  split
  · next again =>
      have stride : ticker.interval ≤ time - ticker.due := by omega
      rw [Nat.div_eq_sub_div positive stride, Nat.sub_sub]
  · next last => rw [Nat.div_eq_of_lt (by omega)]

/-- After the ticks up to a time the next one is due later. -/
theorem Ticker.lt_due_after_ticksUntil {ticker : Ticker} (positive : 0 < ticker.interval)
    (time : Nat) : time < (ticker.after (ticker.ticksUntil time)).due := by
  rw [ticksUntil, after]
  dsimp only
  split
  · next due =>
      have stride := Nat.lt_div_mul_add positive (a := time - ticker.due)
      rw [Nat.add_mul, Nat.one_mul]
      omega
  · next early => omega

theorem Ticker.after_after (ticker : Ticker) (first second : Nat) :
    (ticker.after first).after second = ticker.after (first + second) := by
  rw [after, after, after, Nat.add_mul, Nat.add_assoc]

namespace Refresh

/-- The commands for a spawned loop and for the service below it. -/
inductive Command where
  | advance (duration : Nat)
  | change (source : Source)
  | rebuild
  | stop

def perform (refresh : Refresh) : Command → Refresh
  | .advance duration => refresh.advance duration
  | .change source => refresh.update (·.withSource source)
  | .rebuild => refresh.update Service.rebuild
  | .stop => refresh.stop

/-- The commands make these calls besides those of the loop. -/
def Command.effect? : Command → Option Upkeep.Effect
  | change source => some (.change source)
  | rebuild => some .manual
  | _ => none

def Command.calls (commands : List Command) : List Upkeep.Effect :=
  commands.filterMap effect?

/-- The time that the clock moves by. -/
def Command.duration : Command → Nat
  | advance duration => duration
  | _ => 0

theorem Command.advance_ne_stop (duration : Nat) : advance duration ≠ stop := by
  intro same
  cases same

theorem Command.calls_cons (command : Command) (commands : List Command) :
    calls (command :: commands) = command.effect?.toList ++ calls commands := by
  rw [calls, List.filterMap_cons]
  cases command.effect? <;> rfl

theorem advance_of_running {refresh : Refresh} {ticker : Ticker}
    (running : refresh.loop = some (.running ticker)) (positive : 0 < ticker.interval)
    (duration : Nat) :
    refresh.advance duration =
      let ticks := ticker.ticksUntil (refresh.now + duration)
      ⟨Service.rebuildTimes ticks refresh.service, refresh.now + duration,
        some (.running (ticker.after ticks))⟩ := by
  rw [advance, running]
  exact if_neg (Nat.ne_of_gt positive)

end Refresh

namespace Upkeep

/-- What the loop in strides shows. A loop that has ended is gone. -/
def view (upkeep : Upkeep) : Refresh where
  service := upkeep.service
  now := upkeep.now
  loop := if upkeep.stage = .ended then none else some (.running upkeep.ticker)

theorem calls_of_internal {moves : List Move} (internal : ∀ move ∈ moves, move.isInternal = true) :
    Move.calls moves = [] := by
  refine List.filterMap_eq_nil_iff.mpr fun move listed => ?_
  have inside := internal move listed
  cases move <;> first | rfl | cases inside

theorem signal_not_mem_of_internal {moves : List Move}
    (internal : ∀ move ∈ moves, move.isInternal = true) : .signal ∉ moves := fun listed =>
  absurd (internal _ listed) (by decide)

variable {upkeep : Upkeep}

theorem view_of_waiting (waiting : upkeep.stage = .waiting) :
    upkeep.view = ⟨upkeep.service, upkeep.now, some (.running upkeep.ticker)⟩ := by
  rw [view, if_neg (by rw [waiting]; decide)]

/-- The loop reaches any time by its own moves, with one rebuild for each tick that falls due. -/
theorem exists_run_until {time : Nat} (positive : 0 < upkeep.ticker.interval)
    (waiting : upkeep.stage = .waiting) (early : upkeep.now ≤ upkeep.ticker.due)
    (later : upkeep.now ≤ time) :
    ∃ moves, (∀ move ∈ moves, move.isInternal = true) ∧
      (upkeep.run moves).stage = .waiting ∧
      (upkeep.run moves).view =
        ⟨Service.rebuildTimes (upkeep.ticker.ticksUntil time) upkeep.service, time,
          some (.running (upkeep.ticker.after (upkeep.ticker.ticksUntil time)))⟩ := by
  induction ticks : upkeep.ticker.ticksUntil time generalizing upkeep with
  | zero =>
      have notDue : time < upkeep.ticker.due := by
        refine Nat.not_le.mp fun due => ?_
        rw [Ticker.ticksUntil_of_due_le positive due] at ticks
        cases ticks
      have reached : upkeep.now + (time - upkeep.now) = time := Nat.add_sub_cancel' later
      refine ⟨List.replicate (time - upkeep.now) .elapse, ?_, ?_⟩
      · intro move listed
        rw [List.eq_of_mem_replicate listed]
        rfl
      · rw [run_elapse_of_waiting waiting (by omega), reached]
        refine ⟨waiting, (view_of_waiting ?_).trans ?_⟩
        · exact waiting
        · simp [Service.rebuildTimes, Ticker.after]
  | succ count inductionHypothesis =>
      have due : upkeep.ticker.due ≤ time := by
        refine Nat.not_lt.mp fun early => ?_
        rw [Ticker.ticksUntil, if_neg (Nat.not_le.mpr early)] at ticks
        cases ticks
      have rest : (upkeep.ticker.after 1).ticksUntil time = count :=
        Nat.succ.inj ((Ticker.ticksUntil_of_due_le positive due).symm.trans ticks)
      have rebuilt := run_toTick waiting early
      obtain ⟨moves, internal, settled, shown⟩ : ∃ moves,
          (∀ move ∈ moves, move.isInternal = true) ∧
            ((upkeep.run upkeep.toTick).run moves).stage = .waiting ∧
            ((upkeep.run upkeep.toTick).run moves).view =
              ⟨Service.rebuildTimes count upkeep.service.rebuild, time,
                some (.running ((upkeep.ticker.after 1).after count))⟩ := by
        rw [rebuilt]
        exact inductionHypothesis positive waiting (Nat.le_add_right _ _) due rest
      refine ⟨upkeep.toTick ++ moves, ?_, ?_, ?_⟩
      · exact List.forall_mem_append.mpr ⟨isInternal_of_mem_toTick, internal⟩
      · rw [run_append, settled]
      · rw [run_append, shown, Ticker.after_after, Nat.add_comm 1 count]
        rfl

/-- The moves carry out a command for a loop whose ticks are due from the start on. -/
structure CarriesOut (start interval : Nat) (upkeep : Upkeep) (command : Refresh.Command)
    (moves : List Move) : Prop where
  calls : Move.calls moves = command.effect?.toList
  shown : (upkeep.run moves).view = upkeep.view.perform command
  settled : (upkeep.run moves).stage ≠ .rebuilding
  /-- The clock moves by a stride and stands still for every other command. -/
  now : (upkeep.run moves).now = upkeep.now + command.duration
  /-- At the end of a stride the loop has rebuilt once for each tick that is due by then. -/
  ticks : ∀ duration, command = .advance duration → upkeep.stage ≠ .ended → ∀ count,
    count < (upkeep.run moves).tickTimes.length ↔
      start + count * interval ≤ (upkeep.run moves).now
  /-- The other commands wait for no tick, and a loop that has ended has none. -/
  still : (∀ duration, command ≠ .advance duration) ∨ upkeep.stage = .ended →
    (upkeep.run moves).tickTimes = upkeep.tickTimes
  /-- The signal is sent to stop the loop and for nothing else. -/
  signal : .signal ∈ moves ↔ command = .stop
  ended : (upkeep.run moves).stage = .ended ↔ upkeep.stage = .ended ∨ command = .stop
  /-- The call that stops the loop waits for its end. -/
  returned : command = .stop → (upkeep.run moves).returned = true

/-- The moves carry out one command after the other. -/
inductive Follows (start interval : Nat) : Upkeep → List Refresh.Command → List Move → Prop where
  | nil {upkeep : Upkeep} : Follows start interval upkeep [] []
  | cons {upkeep : Upkeep} {command : Refresh.Command} {commands : List Refresh.Command}
      {first rest : List Move} (carried : upkeep.CarriesOut start interval command first)
      (others : Follows start interval (upkeep.run first) commands rest) :
      Follows start interval upkeep (command :: commands) (first ++ rest)

/-- Before the next tick is due the loop has rebuilt for all the ticks up to the present time. -/
theorem Sound.lt_length_tickTimes_iff {service : Service} {start interval : Nat}
    (sound : upkeep.Sound service start interval) (waiting : upkeep.stage = .waiting)
    (early : upkeep.now < upkeep.ticker.due) (count : Nat) :
    count < upkeep.tickTimes.length ↔ start + count * interval ≤ upkeep.now := by
  constructor
  · exact sound.tick_le_now
  · intro reached
    have less : count * interval < upkeep.tickTimes.length * interval := by
      rw [sound.due_of_waiting waiting] at early
      omega
    exact Nat.lt_of_mul_lt_mul_right less

/-- A stride of a loop that waits takes it past the ticks that fall due. -/
theorem Sound.exists_carriesOut_advance {service : Service} {start interval : Nat}
    (sound : upkeep.Sound service start interval) (positive : 0 < interval)
    (waiting : upkeep.stage = .waiting) (duration : Nat) :
    ∃ moves, upkeep.CarriesOut start interval (.advance duration) moves := by
  have early := sound.punctual
  rw [Punctual, waiting] at early
  have spaced : 0 < upkeep.ticker.interval := sound.spaced ▸ positive
  obtain ⟨moves, internal, settled, shown⟩ :=
    exists_run_until spaced waiting early (Nat.le_add_right upkeep.now duration)
  have view := (view_of_waiting settled).symm.trans shown
  have now : (upkeep.run moves).now = upkeep.now + duration := congrArg Refresh.now view
  have ticker := Loop.running.inj (Option.some.inj (congrArg Refresh.loop view))
  have noStop := Refresh.Command.advance_ne_stop duration
  refine ⟨moves, ?_⟩
  constructor
  case calls => exact calls_of_internal internal
  case shown =>
    rw [shown, Refresh.perform, view_of_waiting waiting, Refresh.advance_of_running rfl spaced]
  case settled =>
    rw [settled]
    decide
  case now => exact now
  case ticks =>
    intro _ _ _ count
    refine (sound.run moves).lt_length_tickTimes_iff settled ?_ count
    rw [ticker, now]
    exact Ticker.lt_due_after_ticksUntil spaced _
  case still =>
    rintro (other | ended)
    · exact absurd rfl (other duration)
    · exact absurd (waiting.symm.trans ended) (by decide)
  case signal => exact iff_of_false (signal_not_mem_of_internal internal) noStop
  case ended => simp [settled, waiting]
  case returned => exact fun stop => absurd stop noStop

/-- The clock goes on after the end of the loop, and nothing else happens. -/
theorem carriesOut_advance_of_ended (start interval : Nat) (ended : upkeep.stage = .ended)
    (duration : Nat) :
    upkeep.CarriesOut start interval (.advance duration) (List.replicate duration .elapse) := by
  have passed : upkeep.run (List.replicate duration .elapse) =
      { upkeep with now := upkeep.now + duration } :=
    run_elapse fun _ _ => by simp [Busy, ended]
  have internal : ∀ move ∈ List.replicate duration Move.elapse, move.isInternal = true :=
    fun move listed => by rw [List.eq_of_mem_replicate listed]; rfl
  have noStop := Refresh.Command.advance_ne_stop duration
  constructor
  case calls => exact calls_of_internal internal
  case shown =>
    rw [passed]
    simp [view, Refresh.perform, Refresh.advance, ended]
  case ticks => exact fun _ _ running => absurd ended running
  case signal => exact iff_of_false (signal_not_mem_of_internal internal) noStop
  all_goals rw [passed]
  case settled => simp [ended]
  case now => rfl
  case still => exact fun _ => rfl
  case ended => simp
  case returned => exact fun stop => absurd stop noStop

/-- After the signal the loop leaves, and the call that sent the signal returns. -/
theorem carriesOut_stop (start interval : Nat) (settled : upkeep.stage ≠ .rebuilding) :
    upkeep.CarriesOut start interval .stop [.signal, .leave, .finish] := by
  have ended : upkeep.run [.signal, .leave, .finish] =
      { upkeep with signalled := true, stage := .ended, returned := true } := by
    cases stage : upkeep.stage with
    | rebuilding => exact absurd stage settled
    | waiting | ended => simp [step, stage]
  constructor
  case calls => rfl
  case ticks =>
    exact fun duration stride => absurd stride.symm (Refresh.Command.advance_ne_stop duration)
  case signal => simp
  all_goals rw [ended]
  case shown => rfl
  case settled => simp
  case now => rfl
  case still => exact fun _ => rfl
  case ended => simp
  case returned => exact fun _ => rfl

/-- A call from outside is made at once. -/
theorem carriesOut_perform (start interval : Nat) (settled : upkeep.stage ≠ .rebuilding)
    {command : Refresh.Command} {move : Move} {effect : Effect} (outside : effect.isTick = false)
    (commanded : command.effect? = some effect) (moved : move.effect? = some effect)
    (stepped : upkeep.step move = upkeep.perform effect)
    (shown : (upkeep.perform effect).view = upkeep.view.perform command) :
    upkeep.CarriesOut start interval command [move] := by
  have ran : upkeep.run [move] = upkeep.perform effect := stepped
  have noStride : ∀ duration, command ≠ .advance duration := by
    rintro duration rfl
    cases commanded
  have noStop : command ≠ .stop := by
    rintro rfl
    cases commanded
  constructor
  case calls => rw [Move.calls_cons, moved, commanded]; rfl
  case ticks => exact fun duration stride => absurd stride (noStride duration)
  case signal =>
    refine iff_of_false (fun listed => ?_) noStop
    obtain rfl := List.mem_singleton.mp listed
    cases moved
  all_goals rw [ran]
  case shown => exact shown
  case settled => exact settled
  case now =>
    cases command with
    | advance duration => exact absurd rfl (noStride duration)
    | _ => rfl
  case still => exact fun _ => tickTimes_perform_of_not_isTick outside
  case ended => exact ⟨Or.inl, fun ended => ended.resolve_right noStop⟩
  case returned => exact fun stop => absurd stop noStop

/-- Every command is a sequence of moves. -/
theorem Sound.exists_carriesOut {service : Service} {start interval : Nat}
    (sound : upkeep.Sound service start interval) (positive : 0 < interval)
    (settled : upkeep.stage ≠ .rebuilding) (command : Refresh.Command) :
    ∃ moves, upkeep.CarriesOut start interval command moves := by
  cases command with
  | advance duration =>
      cases stage : upkeep.stage with
      | rebuilding => exact absurd stage settled
      | waiting => exact sound.exists_carriesOut_advance positive stage duration
      | ended => exact ⟨_, carriesOut_advance_of_ended start interval stage duration⟩
  | change source =>
      exact ⟨[.change source], carriesOut_perform start interval settled rfl rfl rfl rfl rfl⟩
  | rebuild => exact ⟨[.rebuild], carriesOut_perform start interval settled rfl rfl rfl rfl rfl⟩
  | stop => exact ⟨_, carriesOut_stop start interval settled⟩

theorem Sound.exists_follows {service : Service} {start interval : Nat}
    (sound : upkeep.Sound service start interval) (positive : 0 < interval)
    (settled : upkeep.stage ≠ .rebuilding) (commands : List Refresh.Command) :
    ∃ moves, upkeep.Follows start interval commands moves := by
  induction commands generalizing upkeep with
  | nil => exact ⟨[], .nil⟩
  | cons command commands inductionHypothesis =>
      obtain ⟨first, carried⟩ := sound.exists_carriesOut positive settled command
      obtain ⟨rest, others⟩ := inductionHypothesis (sound.run first) carried.settled
      exact ⟨first ++ rest, .cons carried others⟩

namespace Follows

variable {start interval : Nat} {commands : List Refresh.Command} {moves : List Move}

theorem calls (follows : upkeep.Follows start interval commands moves) :
    Move.calls moves = Refresh.Command.calls commands := by
  induction follows with
  | nil => rfl
  | cons carried _ inductionHypothesis =>
      rw [Move.calls_append, carried.calls, inductionHypothesis, Refresh.Command.calls_cons]

theorem view (follows : upkeep.Follows start interval commands moves) :
    (upkeep.run moves).view = commands.foldl Refresh.perform upkeep.view := by
  induction follows with
  | nil => rfl
  | cons carried _ inductionHypothesis =>
      rw [run_append, inductionHypothesis, carried.shown]
      rfl

end Follows

end Upkeep

end SchemaInference
