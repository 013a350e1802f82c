/-
This file defines the service that rebuilds and publishes generations.
-/

import SchemaInference.Service.Generation

namespace SchemaInference

/-- Readers see the published generation. The next number belongs to the next successful rebuild. It
has no bound here. A counter of 64 bits has the same number until `2 ^ 64 - 1` rebuilds have
succeeded. -/
structure Service where
  source : Source
  assembler : Assembler
  nextNumber : Nat
  published : Option Generation

namespace Service

def start (source : Source) (assembler : Assembler) : Service :=
  ⟨source, assembler, 1, none⟩

def withSource (service : Service) (source : Source) : Service :=
  { service with source := source }

/-- The generation that a rebuild would publish. -/
def attempt (service : Service) : Outcome Generation :=
  Generation.build service.assembler service.source service.nextNumber

/-- A rebuild that fails changes nothing. -/
def rebuild (service : Service) : Service :=
  match service.attempt with
  | .ok generation =>
      { service with nextNumber := service.nextNumber + 1, published := some generation }
  | .error _ => service

def rebuildTimes : Nat → Service → Service
  | 0, service => service
  | times + 1, service => rebuildTimes times service.rebuild

/-- A generation can be published again. The next number stays. -/
def publish (service : Service) (generation : Generation) : Service :=
  { service with published := some generation }

/-- Before the first publication there is nothing to read. -/
def require (service : Service) : Outcome Generation :=
  match service.published with
  | some generation => .ok generation
  | none => .error .notPublished

def generationNumber (service : Service) : Nat :=
  match service.published with
  | some generation => generation.number
  | none => 0

theorem rebuild_of_error {service : Service} {failure : Failure}
    (failed : service.attempt = .error failure) : service.rebuild = service := by
  rw [rebuild, failed]

theorem rebuild_of_ok {service : Service} {generation : Generation}
    (built : service.attempt = .ok generation) :
    service.rebuild = { service with
      nextNumber := service.nextNumber + 1, published := some generation } := by
  rw [rebuild, built]

end Service

end SchemaInference
