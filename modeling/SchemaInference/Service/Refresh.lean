/-
This file runs the refresh loop of a service on a clock that only moves when it is told to.
-/

import SchemaInference.Service.Basic

namespace SchemaInference

/-- A ticker knows the time of its next tick. -/
structure Ticker where
  interval : Nat
  due : Nat
deriving DecidableEq

namespace Ticker

/-- The ticks that fall due up to a time, both ends included. -/
def ticksUntil (ticker : Ticker) (time : Nat) : Nat :=
  if ticker.due ≤ time then (time - ticker.due) / ticker.interval + 1 else 0

def after (ticker : Ticker) (ticks : Nat) : Ticker :=
  { ticker with due := ticker.due + ticks * ticker.interval }

end Ticker

/-- A loop follows its ticker until it ends by itself. -/
inductive Loop where
  | running (ticker : Ticker)
  | ended
deriving DecidableEq

/-- A refreshed service has a clock and, after it is spawned and before it is stopped, a loop. -/
structure Refresh where
  service : Service
  now : Nat
  loop : Option Loop

namespace Refresh

def ofService (service : Service) : Refresh :=
  ⟨service, 0, none⟩

/-- The first tick of a loop is due at once. -/
def spawn (refresh : Refresh) (interval : Nat) : Refresh :=
  { refresh with loop := some (.running ⟨interval, refresh.now⟩) }

def stop (refresh : Refresh) : Refresh :=
  { refresh with loop := none }

/-- Each tick that falls due rebuilds once. A failed rebuild does not end the loop, but a loop
without an interval ends before its first rebuild. -/
def advance (refresh : Refresh) (duration : Nat) : Refresh :=
  let now := refresh.now + duration
  match refresh.loop with
  | none => { refresh with now := now }
  | some .ended => { refresh with now := now }
  | some (.running ticker) =>
      if ticker.interval = 0 then { refresh with now := now, loop := some .ended }
      else
        let ticks := ticker.ticksUntil now
        ⟨Service.rebuildTimes ticks refresh.service, now, some (.running (ticker.after ticks))⟩

def update (refresh : Refresh) (change : Service → Service) : Refresh :=
  { refresh with service := change refresh.service }

/-- Only a spawned loop has ended or has not. -/
def hasEnded? (refresh : Refresh) : Option Bool :=
  refresh.loop.map (· = .ended)

end Refresh

end SchemaInference
