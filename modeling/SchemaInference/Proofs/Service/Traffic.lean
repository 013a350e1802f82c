/-
This file cuts rebuilds into the steps between which other calls, readers and changes of the source
may come.
-/

import Mathlib.Logic.Function.Basic
import SchemaInference.Proofs.Service.Attempt

namespace SchemaInference

namespace Traffic

/-- A call for a rebuild holds the lock from `locked` to `leaving`. A call that is dropped ends
without an answer. -/
inductive Phase where
  | idle
  | waiting
  | locked
  | loaded (number : Nat)
  | fetched (number : Nat) (document : Document)
  | assembled (generation : Generation)
  | published (generation : Generation)
  | leaving (answer : Outcome Generation)
  | finished (answer : Option (Outcome Generation))

inductive Event where
  | fetched (call : Nat) (document : Document)
  | published (call : Nat) (generation : Generation)
  | read (reader : Nat) (seen : Option Generation)

/-- Each move is one step of one party. -/
inductive Move where
  | change (source : Source)
  | advance (call : Nat)
  | drop (call : Nat)
  | read (reader : Nat)

end Traffic

/-- Any number of calls share a service and a lock. The log has its latest event first. -/
structure Traffic where
  service : Service
  lock : Option Nat
  calls : Nat → Traffic.Phase
  log : List Traffic.Event

namespace Traffic

def start (source : Source) (assembler : Assembler) : Traffic :=
  ⟨.start source assembler, none, fun _ => .idle, []⟩

def enter (traffic : Traffic) (call : Nat) (phase : Phase) : Traffic :=
  { traffic with calls := Function.update traffic.calls call phase }

def record (traffic : Traffic) (event : Event) : Traffic :=
  { traffic with log := event :: traffic.log }

def free (traffic : Traffic) (call : Nat) : Traffic :=
  { traffic with lock := if traffic.lock = some call then none else traffic.lock }

/-- The next step of a call. A call that waits stays where it is while the lock is taken. -/
def advance (traffic : Traffic) (call : Nat) : Traffic :=
  match traffic.calls call with
  | .idle => traffic.enter call .waiting
  | .waiting =>
      match traffic.lock with
      | none => { traffic.enter call .locked with lock := some call }
      | some _ => traffic
  | .locked => traffic.enter call (.loaded traffic.service.nextNumber)
  | .loaded number =>
      match traffic.service.source.fetch with
      | .ok document =>
          (traffic.enter call (.fetched number document)).record (.fetched call document)
      | .error failure => traffic.enter call (.leaving (.error failure))
  | .fetched number document =>
      match traffic.service.assembler.assemble document.value with
      | .ok schema => traffic.enter call (.assembled ⟨number, schema, document⟩)
      | .error failure => traffic.enter call (.leaving (.error failure))
  | .assembled generation =>
      { traffic.enter call (.published generation) with
        service := traffic.service.publish generation }.record (.published call generation)
  | .published generation =>
      { traffic.enter call (.leaving (.ok generation)) with
        service := { traffic.service with nextNumber := generation.number + 1 } }
  | .leaving answer => (traffic.enter call (.finished (some answer))).free call
  | .finished _ => traffic

/-- A call can only be dropped where it waits for something. From the publication on it waits for
nothing. -/
def drop (traffic : Traffic) (call : Nat) : Traffic :=
  match traffic.calls call with
  | .published _ | .leaving _ | .finished _ => traffic
  | _ => (traffic.enter call (.finished none)).free call

def step (traffic : Traffic) : Move → Traffic
  | .change source => { traffic with service := traffic.service.withSource source }
  | .advance call => traffic.advance call
  | .drop call => traffic.drop call
  | .read reader => traffic.record (.read reader traffic.service.published)

def run (traffic : Traffic) (moves : List Move) : Traffic :=
  moves.foldl step traffic

variable {traffic : Traffic} {call : Nat}

theorem calls_enter_self (phase : Phase) : (traffic.enter call phase).calls call = phase :=
  Function.update_self ..

theorem calls_enter_of_ne {other : Nat} (different : other ≠ call) (phase : Phase) :
    (traffic.enter call phase).calls other = traffic.calls other :=
  Function.update_of_ne different ..

/-- A call that nothing disturbs is a rebuild. It answers with the generation that it published or
with the failure. -/
theorem run_undisturbed (unlocked : traffic.lock = none) (idle : traffic.calls call = .idle) :
    let after := traffic.run (List.replicate 8 (.advance call))
    after.service = traffic.service.rebuild ∧ after.lock = none ∧
      after.calls call = .finished (some traffic.service.attempt) := by
  intro after
  rw [Service.rebuild, Service.attempt, Generation.build]
  cases fetched : traffic.service.source.fetch with
  | error failure =>
      simp [after, run, List.replicate, step, advance, enter, free, unlocked, idle, fetched, bind,
        Except.bind]
  | ok document =>
      cases assembled : traffic.service.assembler.assemble document.value with
      | error failure =>
          simp [after, run, List.replicate, step, advance, enter, free, record, unlocked, idle,
            fetched, assembled, bind, Except.bind]
      | ok schema =>
          simp [after, run, List.replicate, step, advance, enter, free, record, unlocked, idle,
            fetched, assembled, bind, Except.bind, pure, Except.pure, Service.publish]

end Traffic

end SchemaInference
