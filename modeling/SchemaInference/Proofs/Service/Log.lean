/-
This file says when the log of concurrent rebuilds is orderly, and what follows for its generations
and readers.
-/

import SchemaInference.Proofs.Service.Traffic

namespace SchemaInference

namespace Traffic

def Event.published? : Event → Option Generation
  | .published _ generation => some generation
  | _ => none

/-- A reader that sees nothing sees the number 0. -/
def Event.observed? (reader : Nat) : Event → Option Nat
  | .read other seen => if other = reader then some (seen.elim 0 (·.number)) else none
  | _ => none

/-- The published generations in the order of the log. -/
def publications (log : List Event) : List Generation :=
  log.filterMap Event.published?

/-- The numbers that a reader observed in the order of the log. -/
def observations (reader : Nat) (log : List Event) : List Nat :=
  log.filterMap (Event.observed? reader)

def Unfetched (call : Nat) (log : List Event) : Prop :=
  ∀ document, Event.fetched call document ∉ log

/-- A call fetched the document after the latest publication, and it fetched nothing before. -/
def FetchedLast (call : Nat) (document : Document) (log : List Event) : Prop :=
  ∃ recent earlier, log = recent ++ .fetched call document :: earlier ∧
    publications recent = [] ∧ Unfetched call earlier

/-- An event follows a log when it continues the numbers, the fetches and the readings in it. -/
def Event.Follows (assembler : Assembler) : Event → List Event → Prop
  | .fetched _ _, _ => True
  | .published call generation, log =>
      generation.number = (publications log).length + 1 ∧ generation.Whole assembler ∧
        FetchedLast call generation.document log
  | .read _ seen, log => seen = (publications log).head?

def Orderly (assembler : Assembler) : List Event → Prop
  | [] => True
  | event :: log => event.Follows assembler log ∧ Orderly assembler log

theorem publications_cons_of_none {event : Event} {log : List Event}
    (quiet : event.published? = none) : publications (event :: log) = publications log :=
  List.filterMap_cons_none quiet

@[simp] theorem publications_cons_published {call : Nat} {generation : Generation}
    {log : List Event} :
    publications (.published call generation :: log) = generation :: publications log := rfl

theorem mem_publications_iff {generation : Generation} {log : List Event} :
    generation ∈ publications log ↔ ∃ call, .published call generation ∈ log := by
  rw [publications, List.mem_filterMap]
  constructor
  · rintro ⟨event, inside, published⟩
    cases event with
    | published call other => exact ⟨call, Option.some.inj published ▸ inside⟩
    | fetched => cases published
    | read => cases published
  · rintro ⟨call, inside⟩
    exact ⟨_, inside, rfl⟩

/-! What an orderly log says -/

namespace Orderly

variable {assembler : Assembler} {log : List Event}

/-- The numbers count the publications. -/
theorem map_number_publications (orderly : Orderly assembler log) :
    (publications log).map (·.number) = (List.range' 1 (publications log).length).reverse := by
  induction log with
  | nil => rfl
  | cons event log inductionHypothesis =>
      obtain ⟨follows, orderly⟩ := orderly
      cases event with
      | published call generation =>
          rw [publications_cons_published, List.map_cons, inductionHypothesis orderly, follows.1,
            List.length_cons, List.range'_1_concat, List.reverse_append, Nat.add_comm 1]
          rfl
      | fetched => exact inductionHypothesis orderly
      | read => exact inductionHypothesis orderly

theorem number_le_of_mem (orderly : Orderly assembler log) {generation : Generation}
    (published : generation ∈ publications log) :
    generation.number ≤ (publications log).length := by
  have numbered : generation.number ∈ (publications log).map (·.number) :=
    List.mem_map_of_mem published
  rw [orderly.map_number_publications, List.mem_reverse, List.mem_range'_1] at numbered
  omega

/-- A counter of 64 bits has every number as long as fewer generations are published than it has
numbers. -/
theorem toNat_number (orderly : Orderly assembler log)
    (few : (publications log).length < UInt64.size) {generation : Generation}
    (published : generation ∈ publications log) :
    (UInt64.ofNat generation.number).toNat = generation.number := by
  have small := Nat.lt_of_le_of_lt (orderly.number_le_of_mem published) few
  rw [UInt64.toNat_ofNat', Nat.mod_eq_of_lt small]

/-- The latest publication has the largest number. -/
theorem number_head? (orderly : Orderly assembler log) :
    (publications log).head?.elim 0 (·.number) = (publications log).length := by
  have numbers := orderly.map_number_publications
  cases published : publications log with
  | nil => rfl
  | cons generation earlier =>
      rw [published, List.length_cons, List.range'_1_concat, List.reverse_append] at numbers
      exact (List.cons.inj numbers).1.trans (Nat.add_comm ..)

theorem whole_of_mem (orderly : Orderly assembler log) {generation : Generation}
    (published : generation ∈ publications log) : generation.Whole assembler := by
  induction log with
  | nil => cases published
  | cons event log inductionHypothesis =>
      obtain ⟨follows, orderly⟩ := orderly
      cases event with
      | published call other =>
          rcases List.mem_cons.mp published with rfl | published
          · exact follows.2.1
          · exact inductionHypothesis orderly published
      | fetched => exact inductionHypothesis orderly published
      | read => exact inductionHypothesis orderly published

/-- A reader observes the number of the latest publication. -/
theorem observation_cons (orderly : Orderly assembler log) {event : Event}
    (follows : event.Follows assembler log) {reader number : Nat}
    (observed : event.observed? reader = some number) : number = (publications log).length := by
  cases event with
  | read other seen =>
      obtain ⟨_, same⟩ := Option.ite_none_right_eq_some.mp observed
      rw [← orderly.number_head?, ← show seen = _ from follows]
      exact (Option.some.inj same).symm
  | fetched => cases observed
  | published => cases observed

theorem length_publications_le (event : Event) (log : List Event) :
    (publications log).length ≤ (publications (event :: log)).length := by
  cases event with
  | published => exact Nat.le_succ _
  | fetched => exact Nat.le_refl _
  | read => exact Nat.le_refl _

theorem observation_le (orderly : Orderly assembler log) {reader number : Nat}
    (observed : number ∈ observations reader log) : number ≤ (publications log).length := by
  induction log with
  | nil => cases observed
  | cons event log inductionHypothesis =>
      obtain ⟨follows, orderly⟩ := orderly
      refine Nat.le_trans ?_ (length_publications_le event log)
      obtain ⟨reading, inside, seen⟩ := List.mem_filterMap.mp observed
      rcases List.mem_cons.mp inside with rfl | inside
      · exact Nat.le_of_eq (orderly.observation_cons follows seen)
      · exact inductionHypothesis orderly (List.mem_filterMap.mpr ⟨reading, inside, seen⟩)

/-- No reader goes back to an earlier number. -/
theorem pairwise_observations (orderly : Orderly assembler log) (reader : Nat) :
    (observations reader log).Pairwise (· ≥ ·) := by
  induction log with
  | nil => exact .nil
  | cons event log inductionHypothesis =>
      obtain ⟨follows, orderly⟩ := orderly
      cases observed : event.observed? reader with
      | none =>
          rw [observations, List.filterMap_cons_none observed]
          exact inductionHypothesis orderly
      | some number =>
          rw [observations, List.filterMap_cons_some observed]
          refine .cons (fun earlier inside => ?_) (inductionHypothesis orderly)
          rw [orderly.observation_cons follows observed]
          exact orderly.observation_le inside

theorem whole_of_read (orderly : Orderly assembler log) {reader : Nat} {generation : Generation}
    (seen : .read reader (some generation) ∈ log) : generation.Whole assembler := by
  induction log with
  | nil => cases seen
  | cons event log inductionHypothesis =>
      obtain ⟨follows, orderly⟩ := orderly
      rcases List.mem_cons.mp seen with rfl | seen
      · exact orderly.whole_of_mem (List.mem_of_mem_head? follows.symm)
      · exact inductionHypothesis orderly seen

/-- The call that publishes the larger number fetched its document after the publication of the
smaller one, and it fetched nothing before. -/
theorem exists_fetched_between (orderly : Orderly assembler log) {first second : Nat}
    {older newer : Generation} (olderPublished : .published first older ∈ log)
    (newerPublished : .published second newer ∈ log) (larger : older.number < newer.number) :
    ∃ later between earlier,
      log = later ++ .published second newer :: (between ++ .published first older :: earlier) ∧
        .fetched second newer.document ∈ between ∧ Unfetched second earlier := by
  induction log with
  | nil => cases newerPublished
  | cons event log inductionHypothesis =>
      obtain ⟨follows, orderly⟩ := orderly
      rcases List.mem_cons.mp newerPublished with rfl | newerInside
      · have olderPublished : .published first older ∈ log := by
          rcases List.mem_cons.mp olderPublished with same | olderPublished
          · cases same
            exact absurd larger (Nat.lt_irrefl _)
          · exact olderPublished
        obtain ⟨recent, earlier, split, quiet, unfetched⟩ := follows.2.2
        -- The fetch came after the latest publication, so the older one is before the fetch.
        have before : .published first older ∈ earlier := by
          rw [split, List.mem_append, List.mem_cons] at olderPublished
          rcases olderPublished with inside | same | before
          · have published := mem_publications_iff.mpr ⟨_, inside⟩
            rw [quiet] at published
            cases published
          · cases same
          · exact before
        obtain ⟨middle, earliest, rfl⟩ := List.append_of_mem before
        refine ⟨[], recent ++ .fetched second newer.document :: middle, earliest, ?_, ?_, ?_⟩
        · rw [split, List.nil_append, List.append_assoc, List.cons_append]
        · exact List.mem_append_right _ List.mem_cons_self
        · intro document inside
          exact unfetched document (List.mem_append_right _ (List.mem_cons_of_mem _ inside))
      · have olderPublished : .published first older ∈ log := by
          rcases List.mem_cons.mp olderPublished with rfl | olderPublished
          · have bound := orderly.number_le_of_mem (mem_publications_iff.mpr ⟨_, newerInside⟩)
            have number := follows.1
            omega
          · exact olderPublished
        obtain ⟨later, between, earlier, rfl, fetched, unfetched⟩ :=
          inductionHypothesis orderly olderPublished newerInside
        exact ⟨event :: later, between, earlier, rfl, fetched, unfetched⟩

end Orderly

end Traffic

end SchemaInference
