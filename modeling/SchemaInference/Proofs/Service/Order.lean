/-
This file proves that concurrent rebuilds publish in order. The lock spans a call from its fetch to
the store of the next number, so no other call publishes in between.
-/

import SchemaInference.Proofs.Service.Log

namespace SchemaInference

namespace Traffic

section Kept

variable {call : Nat} {document : Document} {event : Event} {log : List Event}

theorem Unfetched.cons (unfetched : Unfetched call log)
    (foreign : ∀ document, event ≠ .fetched call document) : Unfetched call (event :: log) := by
  intro document inside
  rcases List.mem_cons.mp inside with same | inside
  · exact foreign document same.symm
  · exact unfetched document inside

theorem FetchedLast.cons (fetched : FetchedLast call document log)
    (quiet : event.published? = none) : FetchedLast call document (event :: log) := by
  obtain ⟨recent, earlier, rfl, recentQuiet, unfetched⟩ := fetched
  exact ⟨event :: recent, earlier, rfl, (publications_cons_of_none quiet).trans recentQuiet,
    unfetched⟩

theorem Unfetched.fetchedLast (unfetched : Unfetched call log) (document : Document) :
    FetchedLast call document (.fetched call document :: log) :=
  ⟨[], log, rfl, rfl, unfetched⟩

end Kept

namespace Phase

/-- The phases in which a call has the lock. -/
def holds : Phase → Bool
  | .locked | .loaded _ | .fetched _ _ | .assembled _ | .published _ | .leaving _ => true
  | .idle | .waiting | .finished _ => false

/-- What a call knows in its phase fits the log. -/
def Fits (assembler : Assembler) (call : Nat) (log : List Event) : Phase → Prop
  | .idle | .waiting | .locked => Unfetched call log
  | .loaded number => number = (publications log).length + 1 ∧ Unfetched call log
  | .fetched number document =>
      number = (publications log).length + 1 ∧
        Document.decode document.raw = .ok document ∧ FetchedLast call document log
  | .assembled generation =>
      generation.number = (publications log).length + 1 ∧ generation.Whole assembler ∧
        FetchedLast call generation.document log
  | .published generation => generation.number = (publications log).length
  | .leaving _ | .finished _ => True

variable {assembler : Assembler} {call : Nat} {event : Event} {log : List Event} {phase : Phase}

/-- A phase fits on after an event that is no publication and no fetch of the call. -/
theorem Fits.cons (fits : phase.Fits assembler call log) (quiet : event.published? = none)
    (foreign : ∀ document, event ≠ .fetched call document) :
    phase.Fits assembler call (event :: log) := by
  have same : publications (event :: log) = publications log := publications_cons_of_none quiet
  cases phase with
  | idle | waiting | locked => exact Unfetched.cons fits foreign
  | loaded number => exact ⟨by rw [same]; exact fits.1, fits.2.cons foreign⟩
  | fetched number document =>
      exact ⟨by rw [same]; exact fits.1, fits.2.1, fits.2.2.cons quiet⟩
  | assembled generation =>
      exact ⟨by rw [same]; exact fits.1, fits.2.1, fits.2.2.cons quiet⟩
  | published generation => exact (show _ = _ from fits).trans (by rw [same])
  | leaving | finished => trivial

/-- A call without the lock can bear any publication. -/
theorem Fits.cons_published (fits : phase.Fits assembler call log) (outside : phase.holds = false)
    (other : Nat) (generation : Generation) :
    phase.Fits assembler call (.published other generation :: log) := by
  have foreign : ∀ document, Event.published other generation ≠ .fetched call document := nofun
  cases phase with
  | idle | waiting => exact Unfetched.cons fits foreign
  | finished => trivial
  | locked | loaded | fetched | assembled | published | leaving => cases outside

end Phase

/-- The log is orderly, the service stands where the log ends and only one call has the lock. -/
structure Sound (assembler : Assembler) (traffic : Traffic) : Prop where
  unchanged : traffic.service.assembler = assembler
  orderly : Orderly assembler traffic.log
  current : traffic.service.published = (publications traffic.log).head?
  next : (∀ call generation, traffic.calls call ≠ .published generation) →
    traffic.service.nextNumber = (publications traffic.log).length + 1
  exclusive : ∀ call, (traffic.calls call).holds = true → traffic.lock = some call
  fits : ∀ call, (traffic.calls call).Fits assembler call traffic.log

namespace Sound

variable {assembler : Assembler} {traffic : Traffic}

theorem start (source : Source) (assembler : Assembler) :
    (Traffic.start source assembler).Sound assembler where
  unchanged := rfl
  orderly := trivial
  current := rfl
  next _ := rfl
  exclusive _ holds := nomatch holds
  fits _ _ inside := nomatch inside

theorem fits_enter {call : Nat} {phase : Phase} {log : List Event}
    (fits : phase.Fits assembler call log)
    (others : ∀ other, other ≠ call → (traffic.calls other).Fits assembler other log) :
    ∀ other, ((traffic.enter call phase).calls other).Fits assembler other log :=
  (Function.forall_update_iff traffic.calls fun other phase =>
    phase.Fits assembler other log).mpr ⟨fits, others⟩

variable (sound : traffic.Sound assembler)

include sound

/-- Two calls never have the lock at once. -/
theorem eq_of_holds {first second : Nat} (firstHolds : (traffic.calls first).holds = true)
    (secondHolds : (traffic.calls second).holds = true) : first = second :=
  Option.some.inj
    ((sound.exclusive first firstHolds).symm.trans (sound.exclusive second secondHolds))

/-- A call that has the lock and has not published finds the next number. -/
theorem nextNumber_eq {call : Nat} (holds : (traffic.calls call).holds = true)
    (unpublished : ∀ generation, traffic.calls call ≠ .published generation) :
    traffic.service.nextNumber = (publications traffic.log).length + 1 := by
  refine sound.next fun other generation published => ?_
  have same : other = call := sound.eq_of_holds (by rw [published]; rfl) holds
  exact unpublished generation (same ▸ published)

theorem next_enter {call : Nat} {phase : Phase}
    (unpublished : ∀ generation, traffic.calls call ≠ .published generation)
    (none : ∀ other generation, (traffic.enter call phase).calls other ≠ .published generation) :
    traffic.service.nextNumber = (publications traffic.log).length + 1 := by
  refine sound.next fun other generation published => ?_
  by_cases same : other = call
  · exact unpublished generation (same ▸ published)
  · exact none other generation ((calls_enter_of_ne same _).trans published)

theorem exclusive_enter {call : Nat} {phase : Phase}
    (exclusive : phase.holds = true → traffic.lock = some call) :
    ∀ other, ((traffic.enter call phase).calls other).holds = true → traffic.lock = some other :=
  (Function.forall_update_iff traffic.calls
    fun other phase => phase.holds = true → traffic.lock = some other).mpr
      ⟨exclusive, fun other _ => sound.exclusive other⟩

/-- A call goes to another phase without an event. -/
theorem enter {call : Nat} {phase : Phase}
    (unpublished : ∀ generation, traffic.calls call ≠ .published generation)
    (exclusive : phase.holds = true → traffic.lock = some call)
    (fits : phase.Fits assembler call traffic.log) :
    (traffic.enter call phase).Sound assembler where
  unchanged := sound.unchanged
  orderly := sound.orderly
  current := sound.current
  next := sound.next_enter unpublished
  exclusive := sound.exclusive_enter exclusive
  fits := fits_enter fits fun other _ => sound.fits other

theorem acquire {call : Nat} (waiting : traffic.calls call = .waiting)
    (unlocked : traffic.lock = none) :
    ({ traffic.enter call .locked with lock := some call } : Traffic).Sound assembler := by
  have locked : ({ traffic with lock := some call } : Traffic).Sound assembler :=
    { sound with
      exclusive := fun other holds => by
        have taken := sound.exclusive other holds
        rw [unlocked] at taken
        cases taken }
  show (Traffic.enter { traffic with lock := some call } call .locked).Sound assembler
  refine locked.enter ?_ (fun _ => rfl) ?_
  · intro generation published
    exact nomatch waiting.symm.trans published
  · have fits := sound.fits call
    rw [waiting] at fits
    exact fits

theorem free {call : Nat} (outside : (traffic.calls call).holds = false) :
    (traffic.free call).Sound assembler :=
  { sound with
    exclusive := fun other holds => by
      have taken := sound.exclusive other holds
      have different : traffic.lock ≠ some call := by
        intro same
        cases taken.symm.trans same
        exact nomatch outside.symm.trans holds
      exact (if_neg different).trans taken }

theorem fetch {call number : Nat} {document : Document}
    (loaded : traffic.calls call = .loaded number)
    (fetched : traffic.service.source.fetch = .ok document) :
    ((traffic.enter call (.fetched number document)).record (.fetched call document)).Sound
      assembler where
  unchanged := sound.unchanged
  orderly := ⟨trivial, sound.orderly⟩
  current := sound.current
  next := sound.next_enter fun generation published => nomatch loaded.symm.trans published
  exclusive := sound.exclusive_enter fun _ => sound.exclusive call (by rw [loaded]; rfl)
  fits := by
    refine fits_enter ?_ ?_
    · have fits := sound.fits call
      rw [loaded] at fits
      exact ⟨fits.1, (Source.fetch_eq_ok_iff.mp fetched).2, fits.2.fetchedLast document⟩
    · intro other different
      refine (sound.fits other).cons rfl fun fetchedDocument same => ?_
      cases same
      exact different rfl

theorem publish {call : Nat} {generation : Generation}
    (assembled : traffic.calls call = .assembled generation) :
    ({ traffic.enter call (.published generation) with
      service := traffic.service.publish generation }.record
        (.published call generation)).Sound assembler := by
  have fits := sound.fits call
  rw [assembled] at fits
  have holds : (traffic.calls call).holds = true := by rw [assembled]; rfl
  -- The publication disturbs no other call, because no other call has the lock.
  have outside : ∀ other, other ≠ call → (traffic.calls other).holds = false :=
    fun other different => Bool.eq_false_iff.mpr fun otherHolds =>
      different (sound.eq_of_holds otherHolds holds)
  exact
    { unchanged := sound.unchanged
      orderly := ⟨fits, sound.orderly⟩
      current := rfl
      next := fun none => absurd (calls_enter_self _) (none call generation)
      exclusive := sound.exclusive_enter fun _ => sound.exclusive call holds
      fits := fits_enter fits.1 fun other different =>
        (sound.fits other).cons_published (outside other different) call generation }

theorem store {call : Nat} {generation : Generation}
    (published : traffic.calls call = .published generation) :
    ({ traffic.enter call (.leaving (.ok generation)) with
      service := { traffic.service with
        nextNumber := generation.number + 1 } } : Traffic).Sound assembler := by
  have fits := sound.fits call
  rw [published] at fits
  exact
    { unchanged := sound.unchanged
      orderly := sound.orderly
      current := sound.current
      next := fun _ => congrArg (· + 1) fits
      exclusive := sound.exclusive_enter fun _ => sound.exclusive call (by rw [published]; rfl)
      fits := fits_enter trivial fun other _ => sound.fits other }

theorem read (reader : Nat) :
    (traffic.record (.read reader traffic.service.published)).Sound assembler where
  unchanged := sound.unchanged
  orderly := ⟨sound.current, sound.orderly⟩
  current := sound.current
  next := sound.next
  exclusive := sound.exclusive
  fits call := (sound.fits call).cons rfl nofun

/-- A call leaves the lock and ends. -/
theorem finish {call : Nat} (unpublished : ∀ generation, traffic.calls call ≠ .published generation)
    (answer : Option (Outcome Generation)) :
    ((traffic.enter call (.finished answer)).free call).Sound assembler := by
  have finished : (traffic.enter call (.finished answer)).Sound assembler :=
    sound.enter unpublished nofun trivial
  exact finished.free (by rw [calls_enter_self]; rfl)

theorem advance (call : Nat) : (traffic.advance call).Sound assembler := by
  have fits := sound.fits call
  cases phase : traffic.calls call with
  | idle =>
      rw [phase] at fits
      simp only [Traffic.advance, phase]
      exact sound.enter (by simp [phase]) (fun holds => absurd holds Bool.false_ne_true) fits
  | waiting =>
      cases lock : traffic.lock with
      | none =>
          simp only [Traffic.advance, phase, lock]
          exact sound.acquire phase lock
      | some holder =>
          simp only [Traffic.advance, phase, lock]
          exact sound
  | locked =>
      rw [phase] at fits
      have holds : (traffic.calls call).holds = true := by rw [phase]; rfl
      have unpublished : ∀ generation, traffic.calls call ≠ .published generation := by simp [phase]
      simp only [Traffic.advance, phase]
      exact sound.enter unpublished (fun _ => sound.exclusive call holds)
        ⟨sound.nextNumber_eq holds unpublished, fits⟩
  | loaded number =>
      have holds : (traffic.calls call).holds = true := by rw [phase]; rfl
      cases fetched : traffic.service.source.fetch with
      | ok document =>
          simp only [Traffic.advance, phase, fetched]
          exact sound.fetch phase fetched
      | error failure =>
          simp only [Traffic.advance, phase, fetched]
          exact sound.enter (by simp [phase]) (fun _ => sound.exclusive call holds) trivial
  | fetched number document =>
      rw [phase] at fits
      have holds : (traffic.calls call).holds = true := by rw [phase]; rfl
      cases assembled : assembler.assemble document.value with
      | ok schema =>
          simp only [Traffic.advance, phase, sound.unchanged, assembled]
          exact sound.enter (by simp [phase]) (fun _ => sound.exclusive call holds)
            ⟨fits.1, ⟨fits.2.1, assembled⟩, fits.2.2⟩
      | error failure =>
          simp only [Traffic.advance, phase, sound.unchanged, assembled]
          exact sound.enter (by simp [phase]) (fun _ => sound.exclusive call holds) trivial
  | assembled generation =>
      simp only [Traffic.advance, phase]
      exact sound.publish phase
  | published generation =>
      simp only [Traffic.advance, phase]
      exact sound.store phase
  | leaving answer =>
      simp only [Traffic.advance, phase]
      exact sound.finish (by simp [phase]) (some answer)
  | finished answer =>
      simp only [Traffic.advance, phase]
      exact sound

theorem drop (call : Nat) : (traffic.drop call).Sound assembler := by
  rw [Traffic.drop]
  split
  · exact sound
  · exact sound
  · exact sound
  · exact sound.finish ‹_› none

theorem step (move : Move) : (traffic.step move).Sound assembler := by
  cases move with
  | change source => exact { sound with }
  | advance call => exact sound.advance call
  | drop call => exact sound.drop call
  | read reader => exact sound.read reader

theorem run (moves : List Move) : (traffic.run moves).Sound assembler := by
  induction moves generalizing traffic with
  | nil => exact sound
  | cons move moves inductionHypothesis => exact inductionHypothesis (sound.step move)

end Sound

/-- Concurrent rebuilds publish in order. Whatever the moves are, the published numbers have no gap
and no duplicate, and no reader goes back. The call of a later generation fetched its document after
the earlier generation was published and nothing before, and what a reader sees is whole. -/
theorem published_in_order (source : Source) (assembler : Assembler) (moves : List Move) :
    let history := ((start source assembler).run moves).log.reverse
    (publications history).map (·.number) = List.range' 1 (publications history).length ∧
    (∀ reader, (observations reader history).Pairwise (· ≤ ·)) ∧
    (∀ first second older newer, .published first older ∈ history →
      .published second newer ∈ history → older.number < newer.number →
      ∃ before between after, history =
          before ++ .published first older :: (between ++ .published second newer :: after) ∧
        .fetched second newer.document ∈ between ∧ Unfetched second before) ∧
    ∀ reader generation, .read reader (some generation) ∈ history →
      Document.decode generation.document.raw = .ok generation.document ∧
        assembler.assemble generation.document.value = .ok generation.schema := by
  intro history
  have orderly := ((Sound.start source assembler).run moves).orderly
  refine ⟨?_, ?_, ?_, ?_⟩
  · rw [publications, List.filterMap_reverse, List.map_reverse, List.length_reverse]
    exact (congrArg List.reverse orderly.map_number_publications).trans (List.reverse_reverse _)
  · intro reader
    rw [observations, List.filterMap_reverse, List.pairwise_reverse]
    exact orderly.pairwise_observations reader
  · intro first second older newer olderPublished newerPublished larger
    obtain ⟨later, between, earlier, split, fetched, unfetched⟩ := orderly.exists_fetched_between
      (List.mem_reverse.mp olderPublished) (List.mem_reverse.mp newerPublished) larger
    refine ⟨earlier.reverse, between.reverse, later.reverse, ?_, List.mem_reverse.mpr fetched, ?_⟩
    · show List.reverse _ = _
      rw [split]
      simp
    · exact fun document inside => unfetched document (List.mem_reverse.mp inside)
  · intro reader generation seen
    have whole := orderly.whole_of_read (List.mem_reverse.mp seen)
    exact ⟨whole.decoded, whole.assembled⟩

def crowdedStart : Traffic :=
  start (.ofBytes "\x7b\"a\":null\x7d".toUTF8) (.ofOptions .standard)

/-- The call 0 is dropped after its fetch, the call 1 publishes between two readings, and the call 2
waits for it while the source changes. -/
def crowded : List Move :=
  [.advance 0, .advance 0, .advance 0, .advance 0, .advance 1, .advance 1, .drop 0, .read 7,
    .advance 1, .advance 1, .advance 1, .advance 1, .advance 1, .advance 2, .read 7, .advance 2,
    .change (.ofBytes "\x7b\"b\":null\x7d".toUTF8), .advance 1, .advance 1, .advance 2,
    .advance 2, .advance 2, .advance 2, .advance 2, .read 7]

theorem published_in_order_crowded :
    ∃ first second older newer before between after, older.number = 1 ∧ newer.number = 2 ∧
      (crowdedStart.run crowded).log.reverse =
        before ++ .published first older :: (between ++ .published second newer :: after) ∧
      .fetched second newer.document ∈ between ∧ Unfetched second before := by
  have numbers : (publications (crowdedStart.run crowded).log.reverse).map (·.number) = [1, 2] := by
    decide +kernel
  obtain ⟨older, rest, published, one, numbers⟩ := List.map_eq_cons_iff.mp numbers
  obtain ⟨newer, rest, rfl, two, _⟩ := List.map_eq_cons_iff.mp numbers
  have inside : ∀ generation ∈ older :: newer :: rest,
      generation ∈ publications (crowdedStart.run crowded).log.reverse := by
    rw [published]
    exact fun _ listed => listed
  obtain ⟨first, olderPublished⟩ := mem_publications_iff.mp (inside older List.mem_cons_self)
  obtain ⟨second, newerPublished⟩ := mem_publications_iff.mp
    (inside newer (List.mem_cons_of_mem _ List.mem_cons_self))
  obtain ⟨before, between, after, split, fetched, unfetched⟩ :=
    (published_in_order _ _ crowded).2.2.1 first second older newer olderPublished newerPublished
      (by rw [one, two]; decide)
  exact ⟨first, second, older, newer, before, between, after, one, two, split, fetched, unfetched⟩

example : observations 7 (crowdedStart.run crowded).log.reverse = [0, 1, 2] := by
  decide +kernel

end Traffic

end SchemaInference
