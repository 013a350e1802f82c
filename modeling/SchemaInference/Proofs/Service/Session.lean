/-
This file follows a service over a document in memory through any sequence of operations. What is
published is always the work of the last rebuild that succeeded.
-/

import SchemaInference.Proofs.Service.Attempt

namespace SchemaInference

/-- The next number in a counter of 64 bits, which starts over at zero after its last number. -/
def Service.nextWord (service : Service) : UInt64 :=
  .ofNat service.nextNumber

/-- The source can be changed at any time, and a reader takes the published generation. -/
inductive Operation where
  | serve (raw : ByteArray)
  | serveValue (value : Json)
  | withhold (message : String)
  | rebuild
  | read

/-- A session keeps every generation that a reader took, the latest at the end. -/
structure Session where
  service : Service
  held : List Generation

namespace Session

def start (raw : ByteArray) (assembler : Assembler) : Session :=
  ⟨.start (.ofBytes raw) assembler, []⟩

def update (session : Session) (change : Service → Service) : Session :=
  { session with service := change session.service }

def hold : Session → Outcome Generation → Session
  | session, .ok generation => { session with held := session.held ++ [generation] }
  | session, .error _ => session

def step (session : Session) : Operation → Session
  | .serve raw => session.update (·.withSource (.ofBytes raw))
  | .serveValue value => session.update (·.withSource (.ofValue value))
  | .withhold message => session.update (·.withSource (.unavailable message))
  | .rebuild => session.update (·.rebuild)
  | .read => session.hold session.service.require

def run (session : Session) (operations : List Operation) : Session :=
  operations.foldl step session

/-- Only a rebuild that has a generation to publish is a success. -/
def succeeds (session : Session) : Operation → Bool
  | .rebuild => session.service.attempt.toBool
  | _ => false

/-- The number of successes while the operations run. -/
def successes : Session → List Operation → Nat
  | _, [] => 0
  | session, operation :: rest =>
      (session.succeeds operation).toNat + (session.step operation).successes rest

variable {session : Session}

@[simp] theorem service_hold (taken : Outcome Generation) :
    (session.hold taken).service = session.service := by
  cases taken <;> rfl

@[simp] theorem run_nil : session.run [] = session := rfl

@[simp] theorem run_cons (operation : Operation) (rest : List Operation) :
    session.run (operation :: rest) = (session.step operation).run rest := rfl

theorem run_append (before after : List Operation) :
    session.run (before ++ after) = (session.run before).run after :=
  List.foldl_append ..

/-! One operation -/

theorem assembler_step (operation : Operation) :
    (session.step operation).service.assembler = session.service.assembler := by
  cases operation with
  | rebuild =>
      show session.service.rebuild.assembler = _
      rw [Service.rebuild]
      split <;> rfl
  | read => exact congrArg Service.assembler (service_hold _)
  | _ => rfl

theorem exists_of_succeeds {operation : Operation} (success : session.succeeds operation = true) :
    operation = .rebuild ∧ ∃ generation, session.service.attempt = .ok generation := by
  cases operation with
  | rebuild =>
      cases attempted : session.service.attempt with
      | ok generation => exact ⟨rfl, generation, rfl⟩
      | error failure => simp [succeeds, attempted, Except.toBool] at success
  | _ => cases success

/-- A rebuild either succeeds or fails in one of the three ways. -/
theorem succeeds_eq_false_iff :
    session.succeeds .rebuild = false ↔ ∃ failure, session.service.Fails failure := by
  simp only [← Service.attempt_eq_error_iff]
  cases attempted : session.service.attempt <;> simp [succeeds, attempted, Except.toBool]

theorem step_rebuild_of_fails {failure : Failure} (fails : session.service.Fails failure) :
    session.step .rebuild = session := by
  show session.update (·.rebuild) = session
  rw [update, Service.rebuild_of_error (Service.attempt_eq_error_iff.mpr fails)]

/-- Every operation but a success keeps what is published and the next number. -/
theorem step_of_not_succeeds {operation : Operation} (idle : session.succeeds operation = false) :
    (session.step operation).service.published = session.service.published ∧
      (session.step operation).service.nextNumber = session.service.nextNumber := by
  cases operation with
  | rebuild =>
      obtain ⟨failure, fails⟩ := succeeds_eq_false_iff.mp idle
      rw [step_rebuild_of_fails fails]
      exact ⟨rfl, rfl⟩
  | read =>
      show (session.hold session.service.require).service.published = _ ∧
        (session.hold session.service.require).service.nextNumber = _
      rw [service_hold]
      exact ⟨rfl, rfl⟩
  | _ => exact ⟨rfl, rfl⟩

theorem step_rebuild_of_ok {generation : Generation}
    (built : session.service.attempt = .ok generation) :
    (session.step .rebuild).service.published = some generation ∧
      (session.step .rebuild).service.nextNumber = session.service.nextNumber + 1 := by
  show (session.service.rebuild.published = _ ∧ session.service.rebuild.nextNumber = _)
  rw [Service.rebuild_of_ok built]
  exact ⟨rfl, rfl⟩

theorem nextNumber_step (operation : Operation) :
    (session.step operation).service.nextNumber =
      session.service.nextNumber + (session.succeeds operation).toNat := by
  cases success : session.succeeds operation with
  | false => exact (step_of_not_succeeds success).2
  | true =>
      obtain ⟨rfl, generation, built⟩ := exists_of_succeeds success
      exact (step_rebuild_of_ok built).2

/-- A reader adds a generation behind the earlier ones, and no operation takes one away. -/
theorem exists_held_step (session : Session) (operation : Operation) :
    ∃ later, (session.step operation).held = session.held ++ later := by
  cases operation with
  | read =>
      show ∃ later, (session.hold session.service.require).held = _
      cases session.service.require with
      | ok generation => exact ⟨[generation], rfl⟩
      | error failure => exact ⟨[], (List.append_nil _).symm⟩
  | _ => exact ⟨[], (List.append_nil _).symm⟩

/-! Whole runs -/

theorem assembler_run (operations : List Operation) :
    (session.run operations).service.assembler = session.service.assembler := by
  induction operations generalizing session with
  | nil => rfl
  | cons operation rest inductionHypothesis =>
      rw [run_cons, inductionHypothesis, assembler_step]

theorem nextNumber_run (operations : List Operation) :
    (session.run operations).service.nextNumber =
      session.service.nextNumber + session.successes operations := by
  induction operations generalizing session with
  | nil => rfl
  | cons operation rest inductionHypothesis =>
      rw [run_cons, inductionHypothesis, nextNumber_step, successes, Nat.add_assoc]

/-- Every success adds one to the counter of 64 bits. -/
theorem nextWord_run (operations : List Operation) :
    (session.run operations).service.nextWord =
      session.service.nextWord + .ofNat (session.successes operations) := by
  rw [Service.nextWord, nextNumber_run, UInt64.ofNat_add]
  rfl

/-- The counter of 64 bits has the next number as long as fewer than `2 ^ 64 - 1` rebuilds have
succeeded. -/
theorem toNat_nextWord_run (raw : ByteArray) (assembler : Assembler)
    (operations : List Operation)
    (few : 1 + (start raw assembler).successes operations < UInt64.size) :
    ((start raw assembler).run operations).service.nextWord.toNat =
      1 + (start raw assembler).successes operations := by
  have counted : ((start raw assembler).run operations).service.nextWord =
      .ofNat (1 + (start raw assembler).successes operations) := by
    rw [nextWord_run, UInt64.ofNat_add]
    rfl
  rw [counted, UInt64.toNat_ofNat', Nat.mod_eq_of_lt few]

/-- Operations without a success keep what is published. -/
theorem published_run_of_no_success {operations : List Operation}
    (idle : session.successes operations = 0) :
    (session.run operations).service.published = session.service.published := by
  induction operations generalizing session with
  | nil => rfl
  | cons operation rest inductionHypothesis =>
      obtain ⟨first, later⟩ := Nat.add_eq_zero_iff.mp idle
      rw [run_cons, inductionHypothesis later]
      exact (step_of_not_succeeds (Bool.toNat_eq_zero.mp first)).1

/-- Operations with a success have a last one. -/
theorem exists_last_success {operations : List Operation}
    (succeeded : session.successes operations ≠ 0) :
    ∃ before after generation, operations = before ++ .rebuild :: after ∧
      (session.run before).service.attempt = .ok generation ∧
      ((session.run before).step .rebuild).successes after = 0 := by
  induction operations generalizing session with
  | nil => exact absurd rfl succeeded
  | cons operation rest inductionHypothesis =>
      by_cases later : (session.step operation).successes rest = 0
      · have first : session.succeeds operation = true := by
          rw [successes, later, Nat.add_zero] at succeeded
          exact Bool.of_not_eq_false fun idle => succeeded (by rw [idle]; rfl)
        obtain ⟨rfl, generation, built⟩ := exists_of_succeeds first
        exact ⟨[], rest, generation, rfl, built, later⟩
      · obtain ⟨before, after, generation, rfl, built, idle⟩ := inductionHypothesis later
        exact ⟨operation :: before, after, generation, rfl, built, idle⟩

/-- The work of the last success stays published under the number before the next one. -/
theorem exists_published_of_success {operations : List Operation}
    (succeeded : session.successes operations ≠ 0) :
    ∃ generation before after,
      (session.run operations).service.published = some generation ∧
        generation.number + 1 = (session.run operations).service.nextNumber ∧
        operations = before ++ .rebuild :: after ∧
        (session.run (before ++ [.rebuild])).successes after = 0 ∧
        (session.run before).service.attempt = .ok generation := by
  obtain ⟨before, after, generation, rfl, built, idle⟩ := exists_last_success succeeded
  obtain ⟨published, next⟩ := step_rebuild_of_ok built
  have number := (Service.attempt_eq_ok_iff.mp built).1
  refine ⟨generation, before, after, ?_, ?_, rfl, ?_, built⟩
  · rw [run_append, run_cons, published_run_of_no_success idle, published]
  · rw [run_append, run_cons, nextNumber_run, idle, next, number, Nat.add_zero]
  · rw [run_append]
    exact idle

theorem exists_held_run (session : Session) (operations : List Operation) :
    ∃ later, (session.run operations).held = session.held ++ later := by
  induction operations generalizing session with
  | nil => exact ⟨[], (List.append_nil _).symm⟩
  | cons operation rest inductionHypothesis =>
      obtain ⟨first, stepped⟩ := exists_held_step session operation
      obtain ⟨later, ran⟩ := inductionHypothesis (session.step operation)
      exact ⟨first ++ later, by rw [run_cons, ran, stepped, List.append_assoc]⟩

/-- What a reader took stays in its place through all later operations. -/
theorem held_run_of_published {generation : Generation}
    (published : session.service.published = some generation) (later : List Operation) :
    ((session.step .read).run later).held[session.held.length]? = some generation := by
  have taken : (session.step .read).held = session.held ++ [generation] := by
    show (session.hold session.service.require).held = _
    rw [Service.require, published]
    rfl
  obtain ⟨more, ran⟩ := exists_held_run (session.step .read) later
  rw [ran, taken, List.append_assoc, List.getElem?_append_right (Nat.le_refl _), Nat.sub_self]
  rfl

/-- Publication is atomic. After any operations nothing is published under the first number, or
the published generation is whole, comes from the bytes that the last successful rebuild was served
and has the number of successes. A failed rebuild keeps it, and what a reader took from the service
resolves every path the same after any later operations. -/
theorem published_run (raw : ByteArray) (assembler : Assembler) (operations : List Operation) :
    let first := start raw assembler
    let session := first.run operations
    ((session.service.published = none ∧ session.service.nextNumber = 1 ∧
        first.successes operations = 0) ∨
      ∃ generation before after, session.service.published = some generation ∧
        generation.number + 1 = session.service.nextNumber ∧
        generation.number = first.successes operations ∧
        operations = before ++ .rebuild :: after ∧
        (first.run (before ++ [.rebuild])).successes after = 0 ∧
        (first.run before).service.source.answer = .ok generation.document.raw ∧
        Document.decode generation.document.raw = .ok generation.document ∧
        assembler.assemble generation.document.value = .ok generation.schema) ∧
    (∀ failure, session.service.Fails failure →
      (session.step .rebuild).service.published = session.service.published ∧
        (session.step .rebuild).service.nextNumber = session.service.nextNumber) ∧
    ∀ generation, session.service.published = some generation → ∀ later path, ∃ held,
      ((session.step .read).run later).held[session.held.length]? = some held ∧
        held.resolve path = generation.resolve path := by
  intro first session
  have counted : session.service.nextNumber = 1 + first.successes operations :=
    nextNumber_run operations
  refine ⟨?_, ?_, ?_⟩
  · by_cases succeeded : first.successes operations = 0
    · refine Or.inl ⟨published_run_of_no_success succeeded, ?_, succeeded⟩
      rw [counted, succeeded]
    · obtain ⟨generation, before, after, published, next, split, idle, built⟩ :=
        exists_published_of_success succeeded
      obtain ⟨_, served, decoded, assembled⟩ := Service.attempt_eq_ok_iff.mp built
      rw [assembler_run] at assembled
      have count : generation.number = first.successes operations := by
        have next : generation.number + 1 = session.service.nextNumber := next
        omega
      exact Or.inr ⟨generation, before, after, published, next, count, split, idle, served, decoded,
        assembled⟩
  · intro failure fails
    rw [step_rebuild_of_fails fails]
    exact ⟨rfl, rfl⟩
  · intro generation published later path
    exact ⟨generation, held_run_of_published published later, rfl⟩

def eventfulStart : Session :=
  start "\x7b\"a\":null\x7d".toUTF8 (.ofOptions .standard)

/-- The bytes are no document at the second rebuild, nothing is served at the third and a name is
refused at the fourth. -/
def eventful : List Operation :=
  [.rebuild, .read, .serve "\x7b".toUTF8, .rebuild, .withhold "gone", .rebuild,
    .serveValue (.object [("bad-key", .null)]), .rebuild, .serveValue (.object [("b", .null)]),
    .rebuild]

theorem successes_eventful : eventfulStart.successes eventful = 2 := by decide +kernel

/-- The last rebuild gets the second number, and the first generation is still held. -/
theorem published_run_eventful :
    (∃ generation, (eventfulStart.run eventful).service.published = some generation ∧
      generation.number = 2) ∧
    (∃ failure, (eventfulStart.run (eventful.take 7)).service.Fails failure ∧
      ((eventfulStart.run (eventful.take 7)).step .rebuild).service.nextNumber = 2) ∧
    ∃ generation, (eventfulStart.run [.rebuild]).service.published = some generation ∧
      ∀ path, ∃ held, (eventfulStart.run eventful).held[0]? = some held ∧
        held.resolve path = generation.resolve path := by
  refine ⟨?_, ?_, ?_⟩
  · rcases (published_run _ _ eventful).1 with
      ⟨_, _, idle⟩ | ⟨generation, _, _, published, _, count, _⟩
    · exact absurd (successes_eventful.symm.trans idle) (by decide)
    · exact ⟨generation, published, count.trans successes_eventful⟩
  · obtain ⟨failure, fails⟩ := succeeds_eq_false_iff.mp
      (show (eventfulStart.run (eventful.take 7)).succeeds .rebuild = false by decide +kernel)
    have kept := ((published_run _ _ (eventful.take 7)).2.1 failure fails).2
    exact ⟨failure, fails, kept.trans (by decide +kernel)⟩
  · obtain ⟨generation, published⟩ := Option.isSome_iff_exists.mp
      (show (eventfulStart.run [.rebuild]).service.published.isSome by decide +kernel)
    have kept := (published_run _ _ [.rebuild]).2.2 generation published (eventful.drop 2)
    exact ⟨generation, published, kept⟩

end Session

end SchemaInference
