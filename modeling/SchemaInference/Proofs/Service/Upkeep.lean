/-
This file cuts the refresh loop of a service into the steps between which the clock, changes of the
source, other rebuilds and the signal to stop may come.
-/

import SchemaInference.Service.Refresh

namespace SchemaInference

namespace Upkeep

/-- The loop waits for its ticker and for the signal, it rebuilds because a tick has fired, or it
has ended. -/
inductive Stage where
  | waiting
  | rebuilding
  | ended
deriving DecidableEq

/-- A plain call changes the source of a service or rebuilds it, for a tick or by hand. -/
inductive Effect where
  | change (source : Source)
  | tick
  | manual

/-- An act is a call at a time of the clock. -/
structure Act where
  time : Nat
  effect : Effect

/-- Each move is one step of one party. The loop can `fire` a due tick, `work` on a fired one and
`leave` after the signal. The call that sent the signal can `finish` after that. -/
inductive Move where
  | elapse
  | change (source : Source)
  | rebuild
  | signal
  | fire
  | work
  | leave
  | finish

end Upkeep

/-- The loop and other callers share a service. The acts are a log in the order in which they
came. -/
structure Upkeep where
  service : Service
  now : Nat
  ticker : Ticker
  stage : Upkeep.Stage
  signalled : Bool
  returned : Bool
  acts : List Upkeep.Act

namespace Upkeep

/-! Plain calls -/

/-- The call on a service. The answer of a rebuild is not kept. -/
def Effect.apply (service : Service) : Effect → Service
  | change source => service.withSource source
  | tick | manual => service.rebuild

/-- The calls one after the other, without a loop. -/
def replay (service : Service) (effects : List Effect) : Service :=
  effects.foldl Effect.apply service

theorem replay_append (service : Service) (first second : List Effect) :
    replay service (first ++ second) = replay (replay service first) second :=
  List.foldl_append ..

def Effect.isTick : Effect → Bool
  | tick => true
  | _ => false

def Act.tickTime? (act : Act) : Option Nat :=
  if act.effect.isTick then some act.time else none

/-- The plain call that a move makes at once, whatever the loop does. -/
def Move.effect? : Move → Option Effect
  | change source => some (.change source)
  | rebuild => some .manual
  | _ => none

/-- The plain calls that come from outside the loop. -/
def Move.calls (moves : List Move) : List Effect :=
  moves.filterMap effect?

theorem Move.calls_cons (move : Move) (moves : List Move) :
    calls (move :: moves) = move.effect?.toList ++ calls moves := by
  rw [calls, List.filterMap_cons]
  cases move.effect? <;> rfl

theorem Move.calls_append (before after : List Move) :
    calls (before ++ after) = calls before ++ calls after :=
  List.filterMap_append

/-- The clock and the loop need no other party for these moves. -/
def Move.isInternal : Move → Bool
  | elapse | fire | work => true
  | _ => false

/-! The loop -/

/-- A loop starts with a tick that is due at once. -/
def spawn (service : Service) (start interval : Nat) : Upkeep :=
  ⟨service, start, ⟨interval, start⟩, .waiting, false, false, []⟩

/-- The loop has something to do at this time. -/
def Busy (upkeep : Upkeep) : Prop :=
  upkeep.stage = .rebuilding ∨ upkeep.stage = .waiting ∧ upkeep.ticker.due ≤ upkeep.now

instance (upkeep : Upkeep) : Decidable upkeep.Busy :=
  inferInstanceAs (Decidable (_ ∨ _ ∧ _))

def perform (upkeep : Upkeep) (effect : Effect) : Upkeep :=
  { upkeep with
    service := effect.apply upkeep.service
    acts := upkeep.acts ++ [⟨upkeep.now, effect⟩] }

/-- A rebuild takes no time, so the clock stands still while the loop has something to do. A move
that is not possible changes nothing. -/
def step (upkeep : Upkeep) : Move → Upkeep
  | .elapse => if upkeep.Busy then upkeep else { upkeep with now := upkeep.now + 1 }
  | .change source => upkeep.perform (.change source)
  | .rebuild => upkeep.perform .manual
  | .signal => { upkeep with signalled := true }
  | .fire =>
      if upkeep.stage = .waiting ∧ upkeep.ticker.due ≤ upkeep.now then
        { upkeep with stage := .rebuilding, ticker := upkeep.ticker.after 1 }
      else upkeep
  | .work =>
      if upkeep.stage = .rebuilding then { upkeep.perform .tick with stage := .waiting }
      else upkeep
  | .leave =>
      if upkeep.stage = .waiting ∧ upkeep.signalled = true then { upkeep with stage := .ended }
      else upkeep
  | .finish => if upkeep.stage = .ended then { upkeep with returned := true } else upkeep

def run (upkeep : Upkeep) (moves : List Move) : Upkeep :=
  moves.foldl step upkeep

def effects (upkeep : Upkeep) : List Effect :=
  upkeep.acts.map Act.effect

/-- The calls that the loop has not made. -/
def outsideEffects (upkeep : Upkeep) : List Effect :=
  upkeep.effects.filter fun effect => !effect.isTick

/-- The times at which the loop has rebuilt. -/
def tickTimes (upkeep : Upkeep) : List Nat :=
  upkeep.acts.filterMap Act.tickTime?

/-- A tick that has fired is in progress until the loop has rebuilt. -/
def inProgress (upkeep : Upkeep) : Nat :=
  if upkeep.stage = .rebuilding then 1 else 0

variable {upkeep : Upkeep}

@[simp] theorem run_nil : upkeep.run [] = upkeep := rfl

@[simp] theorem run_cons (move : Move) (moves : List Move) :
    upkeep.run (move :: moves) = (upkeep.step move).run moves := rfl

theorem run_append (before after : List Move) :
    upkeep.run (before ++ after) = (upkeep.run before).run after :=
  List.foldl_append ..

@[simp] theorem effects_perform (effect : Effect) :
    (upkeep.perform effect).effects = upkeep.effects ++ [effect] :=
  List.map_append

@[simp] theorem tickTimes_perform_tick :
    (upkeep.perform .tick).tickTimes = upkeep.tickTimes ++ [upkeep.now] :=
  List.filterMap_append

theorem tickTimes_perform_of_not_isTick {effect : Effect} (outside : effect.isTick = false) :
    (upkeep.perform effect).tickTimes = upkeep.tickTimes := by
  have none : Act.tickTime? ⟨upkeep.now, effect⟩ = none := by
    rw [Act.tickTime?, outside]
    rfl
  show (upkeep.acts ++ [_]).filterMap Act.tickTime? = _
  rw [List.filterMap_append, List.filterMap_cons_none none, List.filterMap_nil, List.append_nil]
  rfl

/-- Calls of other parties are made when they come, and nothing else but a tick is. -/
theorem outsideEffects_step (move : Move) :
    (upkeep.step move).outsideEffects = upkeep.outsideEffects ++ move.effect?.toList := by
  have performed : ∀ effect : Effect, (upkeep.perform effect).outsideEffects =
      upkeep.outsideEffects ++ [effect].filter fun effect => !effect.isTick := fun effect => by
    rw [outsideEffects, effects_perform, List.filter_append]
    rfl
  cases move with
  | change source => exact performed (.change source)
  | rebuild => exact performed .manual
  | work =>
      rw [step]
      split
      · exact performed .tick
      · exact (List.append_nil _).symm
  | signal => exact (List.append_nil _).symm
  | elapse | fire | leave | finish =>
      rw [step]
      split <;> exact (List.append_nil _).symm

theorem outsideEffects_run (moves : List Move) :
    (upkeep.run moves).outsideEffects = upkeep.outsideEffects ++ Move.calls moves := by
  induction moves generalizing upkeep with
  | nil => exact (List.append_nil _).symm
  | cons move moves inductionHypothesis =>
      rw [run_cons, inductionHypothesis, outsideEffects_step, List.append_assoc, Move.calls_cons]

/-- No act is taken back. -/
theorem acts_prefix_step (move : Move) : upkeep.acts <+: (upkeep.step move).acts := by
  cases move with
  | change source => exact List.prefix_append _ _
  | rebuild => exact List.prefix_append _ _
  | work =>
      rw [step]
      split
      · exact List.prefix_append _ _
      · exact List.prefix_refl _
  | signal => exact List.prefix_refl _
  | elapse | fire | leave | finish =>
      rw [step]
      split <;> exact List.prefix_refl _

theorem acts_prefix_run (moves : List Move) : upkeep.acts <+: (upkeep.run moves).acts := by
  induction moves generalizing upkeep with
  | nil => exact List.prefix_refl _
  | cons move moves inductionHypothesis =>
      exact (acts_prefix_step move).trans inductionHypothesis

/-- A rebuild that fails for a tick is only noted, and the loop waits for the next tick. -/
theorem step_work_of_error {failure : Failure} (rebuilding : upkeep.stage = .rebuilding)
    (failed : upkeep.service.attempt = .error failure) :
    upkeep.step .work =
      { upkeep with stage := .waiting, acts := upkeep.acts ++ [⟨upkeep.now, .tick⟩] } := by
  have unchanged : Effect.apply upkeep.service .tick = upkeep.service :=
    Service.rebuild_of_error failed
  rw [step, if_pos rebuilding, perform, unchanged]

/-- Only the signal sets the mark that the loop looks for. -/
theorem signalled_step (move : Move) (signalled : (upkeep.step move).signalled = true) :
    upkeep.signalled = true ∨ move = .signal := by
  cases move with
  | signal => exact Or.inr rfl
  | change source => exact Or.inl signalled
  | rebuild => exact Or.inl signalled
  | elapse | fire | work | leave | finish =>
      rw [step] at signalled
      split at signalled <;> exact Or.inl signalled

theorem signalled_run {moves : List Move} (signalled : (upkeep.run moves).signalled = true) :
    upkeep.signalled = true ∨ .signal ∈ moves := by
  induction moves generalizing upkeep with
  | nil => exact Or.inl signalled
  | cons move moves inductionHypothesis =>
      rcases inductionHypothesis signalled with earlier | later
      · rcases signalled_step move earlier with before | rfl
        · exact Or.inl before
        · exact Or.inr List.mem_cons_self
      · exact Or.inr (List.mem_cons_of_mem _ later)

/-! After the end -/

theorem stage_step_of_ended (ended : upkeep.stage = .ended) (move : Move) :
    (upkeep.step move).stage = .ended := by
  cases move <;> simp [step, perform, Busy, ended]

/-- A loop that has ended makes no call. -/
theorem service_step_of_ended (ended : upkeep.stage = .ended) (move : Move) :
    (upkeep.step move).service = replay upkeep.service move.effect?.toList := by
  cases move <;> simp [step, perform, Busy, ended, replay, Move.effect?]

theorem service_run_of_ended (ended : upkeep.stage = .ended) (moves : List Move) :
    (upkeep.run moves).service = replay upkeep.service (Move.calls moves) := by
  induction moves generalizing upkeep with
  | nil => rfl
  | cons move moves inductionHypothesis =>
      rw [run_cons, inductionHypothesis (stage_step_of_ended ended move),
        service_step_of_ended ended, Move.calls_cons, replay_append]

/-- After the signal the loop finishes its rebuild, leaves and lets the caller return. -/
theorem returned_run_signal :
    (upkeep.run [.signal, .work, .leave, .finish]).returned = true := by
  cases stage : upkeep.stage <;> simp [step, perform, stage]

end Upkeep

end SchemaInference
