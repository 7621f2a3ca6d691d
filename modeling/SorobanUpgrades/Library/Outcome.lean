/-
Module: SorobanUpgrades.Library.Outcome
Purpose: What the success of a computation that may fail says about its parts.
Trusted boundary: none
Main exports: Outcome.bind_eq_ok_iff, Outcome.bind_eq_error_iff, Outcome.seq_eq_ok_iff,
  Outcome.forM_eq_ok_iff, Outcome.mapM_eq_ok_iff, Outcome.mapM_eq_ok_map,
  Outcome.mapM_eq_some_iff, Outcome.mapM_eq_some_map
-/
import Mathlib

namespace SorobanUpgrades.Outcome

variable {ε α β : Type}

theorem ok_bind {value : α} {next : α → Except ε β} :
    ((.ok value : Except ε α) >>= next) = next value := rfl

theorem error_bind {failure : ε} {next : α → Except ε β} :
    ((.error failure : Except ε α) >>= next) = .error failure := rfl

/-- A computation that is seen to succeed has a value. -/
theorem exists_of_isOk {outcome : Except ε α} (read : outcome.isOk = true) :
    ∃ value, outcome = .ok value := by
  cases outcome with
  | ok value => exact ⟨value, rfl⟩
  | error failure => cases read

/-- A sequence succeeds when its parts succeed in turn. -/
theorem bind_eq_ok_iff {first : Except ε α} {next : α → Except ε β} {result : β} :
    (first >>= next) = .ok result ↔ ∃ value, first = .ok value ∧ next value = .ok result := by
  cases first with
  | error failure => simp [bind, Except.bind]
  | ok value => simp [bind, Except.bind]

/-- A sequence fails in its first part, or in the second after the first. -/
theorem bind_eq_error_iff {first : Except ε α} {next : α → Except ε β} {failure : ε} :
    (first >>= next) = .error failure ↔
      first = .error failure ∨ ∃ value, first = .ok value ∧ next value = .error failure := by
  cases first with
  | error _ => simp [bind, Except.bind]
  | ok _ => simp [bind, Except.bind]

/-- A check that returns nothing only gates what follows. -/
theorem seq_eq_ok_iff {check : Except ε Unit} {next : Unit → Except ε β} {result : β} :
    (check >>= next) = .ok result ↔ check = .ok () ∧ next () = .ok result := by
  rw [bind_eq_ok_iff]
  exact ⟨fun ⟨(), passed, done⟩ => ⟨passed, done⟩, fun ⟨passed, done⟩ => ⟨(), passed, done⟩⟩

/-- A check of every item succeeds when each check does. -/
theorem forM_eq_ok_iff {items : List α} {check : α → Except ε Unit} :
    items.forM check = .ok () ↔ ∀ item ∈ items, check item = .ok () := by
  induction items with
  | nil => simp [pure, Except.pure]
  | cons item items inductionHypothesis =>
      change (check item >>= fun _ => items.forM check) = .ok () ↔ _
      rw [seq_eq_ok_iff, inductionHypothesis, List.forall_mem_cons]

/-- A map over a list succeeds with the results of the items in order. -/
theorem mapM_eq_ok_iff {items : List α} {visit : α → Except ε β} {results : List β} :
    items.mapM visit = .ok results ↔
      List.Forall₂ (fun item result => visit item = .ok result) items results := by
  induction items generalizing results with
  | nil =>
      rw [List.mapM_nil, List.forall₂_nil_left_iff]
      exact ⟨fun same => (Except.ok.inj same).symm, fun same => congrArg Except.ok same.symm⟩
  | cons item items inductionHypothesis =>
      rw [List.mapM_cons, bind_eq_ok_iff, List.forall₂_cons_left_iff]
      refine exists_congr fun result => ?_
      rw [bind_eq_ok_iff]
      simp only [inductionHypothesis]
      constructor
      · rintro ⟨first, rest, done, same⟩
        exact ⟨rest, first, done, (Except.ok.inj same).symm⟩
      · rintro ⟨rest, first, done, same⟩
        exact ⟨first, rest, done, congrArg Except.ok same.symm⟩

/-- Every item of a successful map has a result. -/
theorem exists_result_of_mapM {items : List α} {visit : α → Except ε β} {results : List β}
    (mapped : items.mapM visit = .ok results) {item : α} (listed : item ∈ items) :
    ∃ result ∈ results, visit item = .ok result := by
  rw [mapM_eq_ok_iff] at mapped
  induction mapped with
  | nil => cases listed
  | cons visited _ inductionHypothesis =>
      rcases List.mem_cons.1 listed with rfl | listed
      · exact ⟨_, List.mem_cons_self, visited⟩
      · obtain ⟨result, member, done⟩ := inductionHypothesis listed
        exact ⟨result, List.mem_cons_of_mem _ member, done⟩

/-- Every result of a successful map is the result of an item. -/
theorem exists_item_of_mapM {items : List α} {visit : α → Except ε β} {results : List β}
    (mapped : items.mapM visit = .ok results) {result : β} (listed : result ∈ results) :
    ∃ item ∈ items, visit item = .ok result := by
  rw [mapM_eq_ok_iff] at mapped
  induction mapped with
  | nil => cases listed
  | cons visited _ inductionHypothesis =>
      rcases List.mem_cons.1 listed with rfl | listed
      · exact ⟨_, List.mem_cons_self, visited⟩
      · obtain ⟨item, member, done⟩ := inductionHypothesis listed
        exact ⟨item, List.mem_cons_of_mem _ member, done⟩

/-- A map whose visits all succeed collects their results. -/
theorem mapM_eq_ok_map {items : List α} {visit : α → Except ε β} {result : α → β}
    (each : ∀ item ∈ items, visit item = .ok (result item)) :
    items.mapM visit = .ok (items.map result) := by
  rw [mapM_eq_ok_iff, List.forall₂_map_right_iff, List.forall₂_same]
  exact each

/-- A map over a list has a result when every visit has one. -/
theorem mapM_eq_some_iff {items : List α} {visit : α → Option β} {results : List β} :
    items.mapM visit = some results ↔
      List.Forall₂ (fun item result => visit item = some result) items results := by
  induction items generalizing results with
  | nil => simp [eq_comm]
  | cons item items inductionHypothesis =>
      rw [List.mapM_cons, List.forall₂_cons_left_iff]
      simp only [Option.bind_eq_bind, Option.bind_eq_some_iff, inductionHypothesis]
      refine exists_congr fun result => ?_
      constructor
      · rintro ⟨first, rest, done, same⟩
        exact ⟨rest, first, done, (Option.some.inj same).symm⟩
      · rintro ⟨rest, first, done, same⟩
        exact ⟨first, rest, done, congrArg some same.symm⟩

theorem mapM_eq_some_map {items : List α} {visit : α → Option β} {result : α → β}
    (each : ∀ item ∈ items, visit item = some (result item)) :
    items.mapM visit = some (items.map result) := by
  rw [mapM_eq_some_iff, List.forall₂_map_right_iff, List.forall₂_same]
  exact each

/-- A guarded map has a result when every item passes the guard. -/
theorem mapM_guard_eq_some_iff {items : List α} {keep : α → Bool} {result : α → β}
    {results : List β} :
    (items.mapM fun item => if keep item then some (result item) else none) = some results ↔
      (∀ item ∈ items, keep item = true) ∧ items.map result = results := by
  rw [mapM_eq_some_iff, ← List.forall₂_eq_eq_eq, List.forall₂_map_left_iff,
    ← List.forall₂_and_left]
  simp

/-- A loop that first visits each item and then takes a step with the result is a
loop over all the results. -/
theorem foldlM_visit_eq_ok_iff {σ : Type} {items : List α} {visit : α → Except ε β}
    {step : σ → β → Except ε σ} {start result : σ} :
    items.foldlM (fun state item => visit item >>= step state) start = .ok result ↔
      ∃ values, items.mapM visit = .ok values ∧ values.foldlM step start = .ok result := by
  simp only [mapM_eq_ok_iff]
  induction items generalizing start with
  | nil => simp [List.forall₂_nil_left_iff]
  | cons item items inductionHypothesis =>
      simp only [List.foldlM_cons, bind_eq_ok_iff, inductionHypothesis,
        List.forall₂_cons_left_iff]
      constructor
      · intro finished
        obtain ⟨state, ⟨value, visited, stepped⟩, values, rest, done⟩ := finished
        refine ⟨value :: values, ⟨value, values, visited, rest, rfl⟩, ?_⟩
        rw [List.foldlM_cons, bind_eq_ok_iff]
        exact ⟨state, stepped, done⟩
      · intro finished
        obtain ⟨_, ⟨value, values, visited, rest, rfl⟩, done⟩ := finished
        rw [List.foldlM_cons, bind_eq_ok_iff] at done
        obtain ⟨state, stepped, done⟩ := done
        exact ⟨state, ⟨value, visited, stepped⟩, values, rest, done⟩

end SorobanUpgrades.Outcome
