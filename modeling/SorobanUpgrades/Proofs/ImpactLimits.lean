/-
Module: SorobanUpgrades.Proofs.ImpactLimits
Purpose: The limits of the impact tracing: every route search keeps to them, and the
  searches of one analysis together keep to them only when their sums do.
Trusted boundary: none
Main exports: RouteSearch.Bounded, RouteSearch.Moment, routesToType_bounded,
  RouteSearch.visitedSteps_final, WithinTotals, impactLimits_iff
-/
import SorobanUpgrades.Proofs.PublicImpacts
import SorobanUpgrades.Core.Plan

namespace SorobanUpgrades

namespace RouteSearch

variable {artifact : Artifact} {root goal : String}

/-! ### Limits of one search -/

/-- The limits that every state of a search keeps to. -/
structure Bounded (search : RouteSearch) : Prop where
  work : search.pending.length + search.visitedSteps ≤ maxPublicImpactSteps
  paths : search.result.size ≤ maxPublicImpactPaths
  depth : ∀ route ∈ search.result, route.length ≤ maxPublicImpactDepth

/-- An entry is pushed only while there is room for it. -/
theorem work_expand {frame : Frame} {edges : List TypeReference} {search : RouteSearch}
    (work : search.pending.length + search.visitedSteps ≤ maxPublicImpactSteps) :
    (expand frame edges search).pending.length + (expand frame edges search).visitedSteps ≤
      maxPublicImpactSteps := by
  induction edges generalizing search with
  | nil => exact work
  | cons edge edges inductionHypothesis =>
      rw [expand]
      split
      · exact work
      · rename_i room
        apply inductionHypothesis
        simp only [List.length_cons]
        omega

theorem Bounded.expand {frame : Frame} {edges : List TypeReference} {search : RouteSearch}
    (bounded : search.Bounded) : (RouteSearch.expand frame edges search).Bounded where
  work := work_expand bounded.work
  paths := by
    rw [result_expand]
    exact bounded.paths
  depth := by
    rw [result_expand]
    exact bounded.depth

/-- The search after it takes an entry from the stack and counts it. -/
def pop (search : RouteSearch) (pending : List Frame) : RouteSearch :=
  { search with pending := pending, visitedSteps := search.visitedSteps + 1 }

/-- Taking an entry moves it from the pending to the processed ones. -/
theorem Bounded.pop {search : RouteSearch} {frame : Frame} {pending : List Frame}
    (bounded : search.Bounded) (top : search.pending = frame :: pending) :
    (search.pop pending).Bounded where
  work := by
    have work := bounded.work
    rw [top, List.length_cons] at work
    simp only [RouteSearch.pop]
    omega
  paths := bounded.paths
  depth := bounded.depth

theorem Bounded.step {search : RouteSearch} (bounded : search.Bounded) :
    (search.step artifact goal).Bounded := by
  unfold RouteSearch.step
  cases top : search.pending with
  | nil => exact bounded
  | cons frame pending =>
      have popped := bounded.pop top
      dsimp only
      split
      · exact ⟨popped.work, popped.paths, popped.depth⟩
      rename_i withinLimits
      simp only [not_or, Nat.not_lt, Nat.not_le] at withinLimits
      obtain ⟨_, shallow, room⟩ := withinLimits
      split
      · -- The new path is short, and there was room for it.
        refine ⟨popped.work, ?_, fun route listed => ?_⟩
        · have grown := Std.ExtTreeSet.size_insert_le (t := search.result) (k := frame.steps)
          exact grown.trans room
        · rw [Std.ExtTreeSet.mem_insert, Std.LawfulEqOrd.compare_eq_iff_eq] at listed
          rcases listed with rfl | earlier
          · exact shallow
          · exact popped.depth route earlier
      split
      · exact popped
      · exact popped.expand

theorem bounded_initial : (initial artifact root).Bounded := by
  refine ⟨?_, Nat.zero_le _, fun route listed => absurd listed Std.ExtTreeSet.not_mem_empty⟩
  simp only [initial]
  split <;> simp [maxPublicImpactSteps]

/-- The states at the head of the loop, with the number of turns before each. -/
def Reached (artifact : Artifact) (root goal : String) : Nat → RouteSearch → Prop :=
  LoopRun halted (step artifact goal) (initial artifact root)

/-- Every state of a search: at the head of the loop, after an entry is taken, and
between the entries that an expansion pushes. -/
inductive Moment (artifact : Artifact) (root goal : String) : RouteSearch → Prop where
  | head {turns : Nat} {search : RouteSearch} (reached : Reached artifact root goal turns search) :
      Moment artifact root goal search
  | popped {turns : Nat} {search : RouteSearch} {frame : Frame} {pending : List Frame}
      (reached : Reached artifact root goal turns search) (running : search.halted = false)
      (top : search.pending = frame :: pending) : Moment artifact root goal (search.pop pending)
  | pushed {turns : Nat} {search : RouteSearch} {frame : Frame} {pending : List Frame}
      {seen unseen : List TypeReference} (reached : Reached artifact root goal turns search)
      (running : search.halted = false) (top : search.pending = frame :: pending)
      (edges : artifact.typeReferences.reverse.filter (·.ownerType = frame.current) =
        seen ++ unseen) : Moment artifact root goal (expand frame seen (search.pop pending))

theorem Reached.bounded {turns : Nat} {search : RouteSearch}
    (reached : Reached artifact root goal turns search) : search.Bounded :=
  LoopRun.preserves (fun _ bounded _ => bounded.step) bounded_initial reached

theorem Moment.bounded {search : RouteSearch} (moment : Moment artifact root goal search) :
    search.Bounded := by
  cases moment with
  | head reached => exact reached.bounded
  | popped reached _ top => exact reached.bounded.pop top
  | pushed reached _ top _ => exact (reached.bounded.pop top).expand

/-- Every turn takes one entry. -/
theorem Reached.visitedSteps_eq {turns : Nat} {search : RouteSearch}
    (reached : Reached artifact root goal turns search) : search.visitedSteps = turns := by
  induction reached with
  | start => rfl
  | turn _ running inductionHypothesis => rw [visitedSteps_step running, inductionHypothesis]

end RouteSearch

open RouteSearch in
/-- A route search ends by itself within the step limit. In every state the pending and
the processed entries keep to the step limit, and the result to the limits on paths
and on depth. -/
theorem routesToType_bounded (artifact : Artifact) (root goal : String) :
    (∃ turns ≤ 10000, Reached artifact root goal turns (final artifact root goal) ∧
      (final artifact root goal).halted = true) ∧
    (∀ turns search, Reached artifact root goal turns search →
      turns ≤ 10000 ∧ search.visitedSteps = turns) ∧
    (∀ search, Moment artifact root goal search →
      search.pending.length + search.visitedSteps ≤ 10000) ∧
    (routesToType artifact root goal).1.size ≤ 256 ∧
    ∀ route ∈ (routesToType artifact root goal).1, route.length ≤ 64 := by
  have within : ∀ turns search, Reached artifact root goal turns search →
      turns ≤ 10000 ∧ search.visitedSteps = turns := by
    intro turns search reached
    have work := reached.bounded.work
    have counted := reached.visitedSteps_eq
    rw [maxPublicImpactSteps] at work
    omega
  obtain ⟨turns, reached⟩ : ∃ turns, Reached artifact root goal turns (final artifact root goal) :=
    loopRun_runLoop _ .start
  have bounded := reached.bounded
  exact ⟨⟨turns, (within turns _ reached).1, reached, halted_final artifact root goal⟩, within,
    fun search moment => moment.bounded.work, bounded.paths, bounded.depth⟩

/-! ### Walks -/

/-- The walks of at most `depth` references from a node. A walk stops at the goal and
at a node it has visited before. -/
def walkCount (artifact : Artifact) (goal : String) : Nat → StringSet → String → Nat
  | 0, _, _ => 1
  | depth + 1, active, node =>
      if node = goal ∨ active.contains node = true then 1
      else 1 + ((artifact.typeReferences.filter (·.ownerType = node)).map fun reference =>
        walkCount artifact goal depth (active.insert node) reference.targetType).sum

/-- The walks from a root type, if the artifact has it. -/
def walks (artifact : Artifact) (root goal : String) : Nat :=
  if artifact.userTypes.contains root then
    walkCount artifact goal maxPublicImpactDepth ∅ root
  else 0

namespace RouteSearch

variable {artifact : Artifact} {goal : String}

/-- The walks that go on from a pending entry. -/
def onward (artifact : Artifact) (goal : String) (frame : Frame) : Nat :=
  walkCount artifact goal (maxPublicImpactDepth - frame.steps.length) frame.activeTypes
    frame.current

/-- An entry that is not expanded is a walk of its own. -/
theorem onward_stopped {frame : Frame}
    (stopped : frame.current = goal ∨ frame.activeTypes.contains frame.current = true) :
    onward artifact goal frame = 1 := by
  rw [onward]
  cases maxPublicImpactDepth - frame.steps.length with
  | zero => rfl
  | succ depth => rw [walkCount, if_pos stopped]

/-- An expanded entry goes on along its references, which are within the depth limit. -/
theorem onward_expanded {frame : Frame}
    (expanded : ¬ (frame.current = goal ∨ frame.activeTypes.contains frame.current = true))
    (shallow : ∀ edge ∈ artifact.typeReferences.filter (·.ownerType = frame.current),
      (frame.extend edge).steps.length ≤ maxPublicImpactDepth) :
    onward artifact goal frame =
      1 + (((artifact.typeReferences.filter (·.ownerType = frame.current)).map frame.extend).map
        (onward artifact goal)).sum := by
  cases edges : artifact.typeReferences.filter (·.ownerType = frame.current) with
  | nil =>
      rw [onward]
      cases maxPublicImpactDepth - frame.steps.length with
      | zero => rfl
      | succ depth => rw [walkCount, if_neg expanded, edges]; rfl
  | cons edge others =>
      have within : frame.steps.length + 1 ≤ maxPublicImpactDepth := by
        have first := shallow edge (edges ▸ List.mem_cons_self)
        rwa [Frame.extend, List.length_append, List.length_singleton] at first
      have deeper : maxPublicImpactDepth - frame.steps.length =
          (maxPublicImpactDepth - (frame.steps.length + 1)) + 1 := by omega
      rw [onward, deeper, walkCount, if_neg expanded, ← edges, List.map_map]
      congr 3
      funext reference
      simp [onward, Frame.extend]

/-- An expansion that is not cut off pushes the extensions in front. -/
theorem pending_expand {frame : Frame} {edges : List TypeReference} {search : RouteSearch}
    (uncut : (expand frame edges search).limitExceeded = false) :
    (expand frame edges search).pending = (edges.map frame.extend).reverse ++ search.pending := by
  induction edges generalizing search with
  | nil => rfl
  | cons edge edges inductionHypothesis =>
      rw [expand] at uncut ⊢
      split
      · rename_i full
        rw [if_pos full] at uncut
        cases uncut
      · rename_i room
        rw [if_neg room] at uncut
        rw [inductionHypothesis uncut, List.map_cons, List.reverse_cons, List.append_assoc]
        rfl

/-- A turn that is not cut off drops an entry that is not expanded, and replaces any
other entry by its extensions. -/
theorem uncut_step_cases {search : RouteSearch} (running : search.halted = false)
    (uncut : (search.step artifact goal).limitExceeded = false) :
    ∃ frame pending, search.pending = frame :: pending ∧
      frame.steps.length ≤ maxPublicImpactDepth ∧
      (((frame.current = goal ∨ frame.activeTypes.contains frame.current = true) ∧
          (search.step artifact goal).pending = pending) ∨
        (¬ (frame.current = goal ∨ frame.activeTypes.contains frame.current = true) ∧
          (search.step artifact goal).pending =
            (artifact.typeReferences.filter (·.ownerType = frame.current)).map frame.extend ++
              pending)) := by
  cases top : search.pending with
  | nil => simp [halted, top] at running
  | cons frame pending =>
      refine ⟨frame, pending, rfl, ?_⟩
      unfold step at uncut ⊢
      rw [top] at uncut ⊢
      dsimp only at uncut ⊢
      split at uncut
      · cases uncut
      rename_i withinLimits
      rw [if_neg withinLimits]
      simp only [not_or, Nat.not_lt, Nat.not_le] at withinLimits
      refine ⟨withinLimits.2.1, ?_⟩
      split at uncut
      · rename_i arrived
        rw [if_pos arrived]
        exact Or.inl ⟨Or.inl arrived, rfl⟩
      rename_i away
      rw [if_neg away]
      split at uncut
      · rename_i visited
        rw [if_pos visited]
        exact Or.inl ⟨Or.inr visited, rfl⟩
      · rename_i unvisited
        rw [if_neg unvisited]
        refine Or.inr ⟨not_or.2 ⟨away, unvisited⟩, ?_⟩
        rw [pending_expand uncut, List.filter_reverse, List.map_reverse, List.reverse_reverse]

/-- Up to an uncut end of the run no entry is too deep, and the search takes one step
for each walk that goes on from the pending entries. -/
structure CountsWalks (artifact : Artifact) (goal : String) (search last : RouteSearch) : Prop where
  uncut : search.limitExceeded = false
  shallow : ∀ frame ∈ search.pending, frame.steps.length ≤ maxPublicImpactDepth
  steps : last.visitedSteps =
    search.visitedSteps + (search.pending.map (onward artifact goal)).sum

theorem countsWalks_of_step {search last : RouteSearch} (running : search.halted = false)
    (rest : CountsWalks artifact goal (search.step artifact goal) last) :
    CountsWalks artifact goal search last := by
  obtain ⟨uncut, shallow, steps⟩ := rest
  obtain ⟨frame, pending, top, short, turn⟩ := uncut_step_cases running uncut
  rw [visitedSteps_step running] at steps
  refine ⟨(Bool.or_eq_false_iff.1 running).1, ?_, ?_⟩
  · rw [top, List.forall_mem_cons]
    refine ⟨short, fun entry listed => shallow entry ?_⟩
    rcases turn with ⟨_, popped⟩ | ⟨_, pushed⟩
    · rwa [popped]
    · rw [pushed]
      exact List.mem_append_right _ listed
  · rw [steps, top, List.map_cons, List.sum_cons]
    rcases turn with ⟨stopped, popped⟩ | ⟨expanded, pushed⟩
    · rw [popped, onward_stopped stopped]
      omega
    · rw [pushed] at shallow ⊢
      rw [List.map_append, List.sum_append, onward_expanded expanded fun edge listed =>
        shallow _ (List.mem_append_left _ (List.mem_map_of_mem listed))]
      omega

/-- A search that is not cut off takes one step for each walk from its root. -/
theorem visitedSteps_final {root : String}
    (uncut : (final artifact root goal).limitExceeded = false) :
    (final artifact root goal).visitedSteps = walks artifact root goal := by
  have counts : (final artifact root goal).limitExceeded = false →
      CountsWalks artifact goal (initial artifact root) (final artifact root goal) := by
    refine runLoop_backwards (fun search last =>
      last.limitExceeded = false → CountsWalks artifact goal search last) ?_ ?_ _
      (halted_final artifact root goal)
    · intro search stopped unlimited
      rw [halted, unlimited, Bool.false_or, List.isEmpty_iff] at stopped
      refine ⟨unlimited, ?_, ?_⟩ <;> simp [stopped]
    · exact fun search last running rest unlimited => countsWalks_of_step running (rest unlimited)
  have steps := (counts uncut).steps
  rw [steps, walks]
  simp only [initial]
  split
  · simp [onward]
  · rfl

end RouteSearch

/-! ### Limits of the whole analysis -/

section Analysis

variable (source target : Artifact)

/-- The boundaries and changed types that an analysis searches routes between. -/
def searchPairs : List (PublicTypeBoundary × String) :=
  (retainedBoundaries source target).flatMap fun boundary =>
    (changedTypes source target).map (boundary, ·)

/-- The traversal steps of all route searches of an analysis. -/
def traversalSteps : Nat :=
  ((searchPairs source target).map fun (boundary, changedType) =>
    (RouteSearch.final source boundary.rootType changedType).visitedSteps +
      (RouteSearch.final target boundary.rootType changedType).visitedSteps).sum

/-- The routes from a root to a changed type that both artifacts have. -/
def sharedRoutes (root changedType : String) : Set (List ImpactStep) :=
  { route | (root ∈ source.userTypes ∧ (typeGraph source).IsRoute root changedType route) ∧
    root ∈ target.userTypes ∧ (typeGraph target).IsRoute root changedType route }

/-- All shared routes together and all walks together keep to the limits. -/
structure WithinTotals : Prop where
  paths : ((searchPairs source target).map fun (boundary, changedType) =>
    (sharedRoutes source target boundary.rootType changedType).ncard).sum ≤ maxPublicImpactPaths
  steps : ((searchPairs source target).map fun (boundary, changedType) =>
    walks source boundary.rootType changedType + walks target boundary.rootType changedType).sum ≤
      maxPublicImpactSteps

end Analysis

section Totals

variable {source target : Artifact}

theorem traced_eq :
    ((retainedBoundaries source target).flatMap fun boundary =>
      (changedTypes source target).map (traceImpact source target boundary)) =
    (searchPairs source target).map fun (boundary, changedType) =>
      traceImpact source target boundary changedType := by
  rw [searchPairs, List.map_flatMap]
  simp [Function.comp_def]

/-- An analysis is cut off when one of its searches is. -/
theorem tracePublicImpacts_uncut_iff : (tracePublicImpacts source target).2 = false ↔
    ∀ pair ∈ searchPairs source target,
      (RouteSearch.final source pair.1.rootType pair.2).limitExceeded = false ∧
        (RouteSearch.final target pair.1.rootType pair.2).limitExceeded = false := by
  rw [tracePublicImpacts, traced_eq, List.any_map, List.any_eq_false]
  refine forall_congr' fun pair => forall_congr' fun _ => ?_
  rw [Bool.not_eq_true, ← Bool.or_eq_false_iff]
  rfl

/-- The steps of an uncut analysis are the walks of its searches. -/
theorem traversalSteps_eq (uncut : (tracePublicImpacts source target).2 = false) :
    traversalSteps source target = ((searchPairs source target).map fun (boundary, changedType) =>
      walks source boundary.rootType changedType +
        walks target boundary.rootType changedType).sum := by
  rw [traversalSteps]
  congr 1
  refine List.map_congr_left ?_
  rintro ⟨boundary, changedType⟩ listed
  obtain ⟨here, there⟩ := tracePublicImpacts_uncut_iff.1 uncut _ listed
  dsimp only
  rw [RouteSearch.visitedSteps_final here, RouteSearch.visitedSteps_final there]

theorem mem_routesToType_iff {artifact : Artifact} {root goal : String} {route : List ImpactStep}
    (uncut : (RouteSearch.final artifact root goal).limitExceeded = false) :
    route ∈ (routesToType artifact root goal).1 ↔
      root ∈ artifact.userTypes ∧ (typeGraph artifact).IsRoute root goal route :=
  ⟨isRoute_of_mem_routesToType, fun ⟨known, isRoute⟩ =>
    mem_routesToType_of_isRoute uncut known isRoute⟩

/-- The impacts of one search are the shared routes. -/
theorem length_traceImpact (uncut : (tracePublicImpacts source target).2 = false)
    {boundary : PublicTypeBoundary} {changedType : String}
    (listed : (boundary, changedType) ∈ searchPairs source target) :
    (traceImpact source target boundary changedType).1.length =
      (sharedRoutes source target boundary.rootType changedType).ncard := by
  obtain ⟨here, there⟩ := tracePublicImpacts_uncut_iff.1 uncut _ listed
  let routes := (routesToType source boundary.rootType changedType).1.toList.filter
    ((routesToType target boundary.rootType changedType).1.contains ·)
  have distinct : routes.Nodup := (OrderedSet.nodup_toList _).filter _
  have shared : sharedRoutes source target boundary.rootType changedType =
      (routes.toFinset : Set (List ImpactStep)) := by
    ext route
    rw [Finset.mem_coe, List.mem_toFinset, List.mem_filter, Std.ExtTreeSet.mem_toList,
      ← Std.ExtTreeSet.mem_iff_contains, mem_routesToType_iff here, mem_routesToType_iff there]
    rfl
  rw [shared, Set.ncard_coe_finset, List.toFinset_card_of_nodup distinct, traceImpact]
  exact List.length_map _

theorem nodup_changedTypes : (changedTypes source target).Nodup := by
  have names := OrderedMap.nodup_keysOf_toList source.userTypes
  rw [keysOf, List.nodup_iff_pairwise_ne, List.pairwise_map] at names
  rw [changedTypes, List.nodup_iff_pairwise_ne, List.pairwise_filterMap]
  refine names.imp ?_
  rintro ⟨left, _⟩ ⟨right, _⟩ differ _ here _ there
  simp only [Option.ite_none_right_eq_some, Option.some.injEq] at here there
  obtain ⟨_, rfl⟩ := here
  obtain ⟨_, rfl⟩ := there
  exact differ

theorem nodup_traceImpact {boundary : PublicTypeBoundary} {changedType : String} :
    (traceImpact source target boundary changedType).1.Nodup := by
  refine List.Nodup.map (fun left right same => ?_) ((OrderedSet.nodup_toList _).filter _)
  exact congrArg PublicImpact.steps same

/-- The impacts of an analysis are those of its searches, each listed once. -/
theorem length_tracePublicImpacts :
    (tracePublicImpacts source target).1.length =
      ((searchPairs source target).map fun (boundary, changedType) =>
        (traceImpact source target boundary changedType).1.length).sum := by
  have pairs : (searchPairs source target).Nodup := by
    have boundaries : (retainedBoundaries source target).Nodup :=
      ((OrderedSet.nodup_toList _).filter _).filter _
    have types : (changedTypes source target).Nodup := nodup_changedTypes
    exact boundaries.product types
  have impacts : ((searchPairs source target).flatMap fun (boundary, changedType) =>
      (traceImpact source target boundary changedType).1).Nodup := by
    refine List.nodup_flatMap.2 ⟨?_, pairs.pairwise_of_forall_ne ?_⟩
    · rintro ⟨boundary, changedType⟩ _
      exact nodup_traceImpact
    · rintro ⟨boundary, changedType⟩ _ ⟨other, otherType⟩ _ differ impact here there
      obtain ⟨_, _, rfl, rfl, _⟩ := mem_traceImpact_iff.1 here
      obtain ⟨_, _, rfl, rfl, _⟩ := mem_traceImpact_iff.1 there
      exact differ rfl
  rw [tracePublicImpacts, traced_eq, List.flatMap_map, OrderedSet.length_toList_ofList impacts,
    List.length_flatMap]

end Totals

/-- The limits bound an analysis that is not cut off exactly when the shared routes of
all its searches, and the walks of all its searches, keep to them together. -/
theorem impactLimits_iff (source target : Artifact)
    (uncut : (tracePublicImpacts source target).2 = false) :
    ((tracePublicImpacts source target).1.length ≤ 256 ∧ traversalSteps source target ≤ 10000) ↔
      WithinTotals source target := by
  have paths : (tracePublicImpacts source target).1.length =
      ((searchPairs source target).map fun (boundary, changedType) =>
        (sharedRoutes source target boundary.rootType changedType).ncard).sum := by
    rw [length_tracePublicImpacts]
    congr 1
    refine List.map_congr_left ?_
    rintro ⟨boundary, changedType⟩ listed
    exact length_traceImpact uncut listed
  rw [paths, traversalSteps_eq uncut]
  exact ⟨fun ⟨within, work⟩ => ⟨within, work⟩, fun ⟨within, work⟩ => ⟨within, work⟩⟩

namespace Sample

/-- A contract that settles one book a day. A book reaches its price type in 42 ways. -/
def bookArtifact (binver price : String) (days : List String) : Artifact :=
  { artifact binver ["upgrade", "settle"] with
    userTypes := Std.ExtTreeMap.ofList [("Book", structEntry "Book" []),
      ("Side", structEntry "Side" []),
      ("Price", structEntry "Price" [("amount", .string price)])] compare
    publicTypeBoundaries := days.zipIdx.map fun (day, index) => {
      function := "settle"
      position := .input
      index := UInt64.ofNat index
      label := some day
      rootType := "Book" }
    typeReferences :=
      (["bids", "asks", "stops", "limits", "halts", "opens", "closes"].map fun side =>
        ⟨"Book", side, "Side"⟩) ++
      ["best", "worst", "first", "last", "mean", "median"].map fun level =>
        ⟨"Side", level, "Price"⟩ }

def week : List String :=
  ["monday", "tuesday", "wednesday", "thursday", "friday", "saturday", "sunday"]

def oldBook : Artifact := bookArtifact "1.0.0" "u32" week

def newBook : Artifact := bookArtifact "2.0.0" "u64" week

theorem book_searchPairs : (searchPairs oldBook newBook).map (fun pair => (pair.1.rootType, pair.2)) =
    List.replicate 7 ("Book", "Price") := by
  decide +kernel

theorem book_uncut : (tracePublicImpacts oldBook newBook).2 = false := by
  rw [tracePublicImpacts_uncut_iff]
  intro pair listed
  have roots := List.mem_map_of_mem (f := fun pair => (pair.1.rootType, pair.2)) listed
  rw [book_searchPairs, List.mem_replicate, Prod.mk.injEq] at roots
  rw [roots.2.1, roots.2.2]
  decide +kernel

/-- The shared routes of one search. -/
theorem book_routes : ((routesToType oldBook "Book" "Price").1.toList.filter
    ((routesToType newBook "Book" "Price").1.contains ·)).length = 42 := by
  decide +kernel

theorem book_length : (tracePublicImpacts oldBook newBook).1.length = 294 := by
  have lengths : ((searchPairs oldBook newBook).map fun (boundary, changedType) =>
      (traceImpact oldBook newBook boundary changedType).1.length) =
      ((searchPairs oldBook newBook).map fun pair => (pair.1.rootType, pair.2)).map
        fun ends => ((routesToType oldBook ends.1 ends.2).1.toList.filter
          ((routesToType newBook ends.1 ends.2).1.contains ·)).length := by
    rw [List.map_map]
    exact List.map_congr_left fun pair _ => List.length_map _
  rw [length_tracePublicImpacts, lengths, book_searchPairs, List.map_replicate]
  dsimp only
  rw [book_routes]
  rfl

end Sample

/-- One book keeps to the limits. Seven books have 294 impacts, and no search stops. -/
theorem sampleBook_totals :
    WithinTotals (Sample.bookArtifact "1.0.0" "u32" ["monday"])
        (Sample.bookArtifact "2.0.0" "u64" ["monday"]) ∧
      ¬ WithinTotals Sample.oldBook Sample.newBook := by
  constructor
  · exact (impactLimits_iff _ _ (by decide +kernel)).1 ⟨by decide +kernel, by decide +kernel⟩
  · intro within
    have few := ((impactLimits_iff _ _ Sample.book_uncut).2 within).1
    rw [Sample.book_length] at few
    omega

/-- An analysis that reports no limit lists more than 256 impacts. -/
theorem impactLimits_exceeded :
    ¬ ∀ source target, (tracePublicImpacts source target).2 = false →
      (tracePublicImpacts source target).1.length ≤ 256 ∧ traversalSteps source target ≤ 10000 := by
  intro bounded
  have few := (bounded Sample.oldBook Sample.newBook Sample.book_uncut).1
  rw [Sample.book_length] at few
  omega

end SorobanUpgrades
