/-
Module: SorobanUpgrades.Proofs.PublicImpacts
Purpose: The impact tracing lists exactly the simple paths from retained
  boundaries to changed types, unless it reports that a limit was reached.
Trusted boundary: none
Main exports: typeGraph, mem_routesToType_iff, IsPublicImpact,
  publicImpacts_exact
-/
import SorobanUpgrades.Library.Routes
import SorobanUpgrades.Core.Validate

namespace SorobanUpgrades

/-! ### The type graph -/

/-- The references between types, as edges that a step records in full. -/
def typeGraph (artifact : Artifact) : EdgeGraph String ImpactStep where
  edges := { step | ∃ reference ∈ artifact.typeReferences, reference.step = step }
  origin := ImpactStep.ownerType
  destination := ImpactStep.targetType

/-- The routes a pending entry still leads to. -/
def Frame.routes (artifact : Artifact) (goal : String) (frame : Frame) :
    Set (List ImpactStep) :=
  (typeGraph artifact).routesFrom goal frame.current frame.steps
    { name | name ∈ frame.activeTypes }

theorem Frame.routes_extend (artifact : Artifact) (goal : String) (frame : Frame)
    (edge : TypeReference) :
    (frame.extend edge).routes artifact goal =
      (typeGraph artifact).routesFrom goal edge.targetType (frame.steps ++ [edge.step])
        (insert frame.current { name | name ∈ frame.activeTypes }) := by
  have active : { name | name ∈ (frame.extend edge).activeTypes } =
      insert frame.current { name | name ∈ frame.activeTypes } := by
    ext name
    change name ∈ frame.activeTypes.insert frame.current ↔ _
    rw [Std.ExtTreeSet.mem_insert, Std.LawfulEqOrd.compare_eq_iff_eq]
    exact or_congr_left eq_comm
  rw [Frame.routes, active]
  rfl

/-- An entry at the goal leads to its own steps only. -/
theorem Frame.routes_arrived {artifact : Artifact} {goal : String} {frame : Frame}
    (arrived : frame.current = goal) (fresh : goal ∉ frame.activeTypes) :
    frame.routes artifact goal = {frame.steps} := by
  rw [Frame.routes, arrived]
  exact EdgeGraph.routesFrom_goal fresh

/-- An entry at a type on its own path leads nowhere. -/
theorem Frame.routes_visited {artifact : Artifact} {goal : String} {frame : Frame}
    (visited : frame.current ∈ frame.activeTypes) : frame.routes artifact goal = ∅ :=
  EdgeGraph.routesFrom_visited visited

/-- Any other entry leads where its extensions lead. -/
theorem Frame.mem_routes_expanded {artifact : Artifact} {goal : String} {frame : Frame}
    (fresh : frame.current ∉ frame.activeTypes) (away : frame.current ≠ goal)
    {route : List ImpactStep} :
    route ∈ frame.routes artifact goal ↔
      ∃ edge, edge ∈ artifact.typeReferences ∧ edge.ownerType = frame.current ∧
        route ∈ (frame.extend edge).routes artifact goal := by
  have outside : frame.current ∉ { name | name ∈ frame.activeTypes } := fresh
  rw [Frame.routes, EdgeGraph.routesFrom_expand outside away]
  constructor
  · rintro ⟨_, ⟨edge, listed, rfl⟩, origin, onward⟩
    exact ⟨edge, listed, origin, by rw [Frame.routes_extend]; exact onward⟩
  · rintro ⟨edge, listed, origin, onward⟩
    rw [Frame.routes_extend] at onward
    exact ⟨edge.step, ⟨edge, listed, rfl⟩, origin, onward⟩

namespace RouteSearch

/-! ### The inner loop -/

section Expand

variable {frame : Frame} {edges : List TypeReference} {search : RouteSearch}

theorem result_expand : (expand frame edges search).result = search.result := by
  induction edges generalizing search with
  | nil => rfl
  | cons edge edges inductionHypothesis =>
      rw [expand]
      split
      · rfl
      · exact inductionHypothesis

theorem visitedSteps_expand :
    (expand frame edges search).visitedSteps = search.visitedSteps := by
  induction edges generalizing search with
  | nil => rfl
  | cons edge edges inductionHypothesis =>
      rw [expand]
      split
      · rfl
      · exact inductionHypothesis

/-- Every entry was pending before or extends the frame by an edge. -/
theorem mem_pending_of_mem_expand {entry : Frame}
    (listed : entry ∈ (expand frame edges search).pending) :
    entry ∈ search.pending ∨ ∃ edge ∈ edges, entry = frame.extend edge := by
  induction edges generalizing search with
  | nil => exact Or.inl listed
  | cons edge edges inductionHypothesis =>
      rw [expand] at listed
      split at listed
      · exact Or.inl listed
      · rcases inductionHypothesis listed with earlier | ⟨other, member, equal⟩
        · rcases List.mem_cons.1 earlier with equal | earlier
          · exact Or.inr ⟨edge, List.mem_cons_self, equal⟩
          · exact Or.inl earlier
        · exact Or.inr ⟨other, List.mem_cons_of_mem _ member, equal⟩

theorem mem_expand_of_mem_pending {entry : Frame} (listed : entry ∈ search.pending) :
    entry ∈ (expand frame edges search).pending := by
  induction edges generalizing search with
  | nil => exact listed
  | cons edge edges inductionHypothesis =>
      rw [expand]
      split
      · exact listed
      · exact inductionHypothesis (List.mem_cons_of_mem _ listed)

/-- Without a cut-off every edge gets its entry. -/
theorem mem_expand_of_mem_edges (uncut : (expand frame edges search).limitExceeded = false)
    {edge : TypeReference} (listed : edge ∈ edges) :
    frame.extend edge ∈ (expand frame edges search).pending := by
  induction edges generalizing search with
  | nil => cases listed
  | cons head edges inductionHypothesis =>
      rw [expand] at uncut ⊢
      split
      · rename_i full
        rw [if_pos full] at uncut
        cases uncut
      · rename_i room
        rw [if_neg room] at uncut
        rcases List.mem_cons.1 listed with rfl | later
        · exact mem_expand_of_mem_pending List.mem_cons_self
        · exact inductionHypothesis uncut later

theorem limitExceeded_of_expand (uncut : (expand frame edges search).limitExceeded = false) :
    search.limitExceeded = false := by
  induction edges generalizing search with
  | nil => exact uncut
  | cons edge edges inductionHypothesis =>
      rw [expand] at uncut
      split at uncut
      · cases uncut
      · have earlier := inductionHypothesis uncut
        exact earlier

end Expand

/-! ### The outer loop -/

variable {artifact : Artifact} {goal : String}

/-- A route that is found, or that a pending entry leads to. -/
def Covers (artifact : Artifact) (goal : String) (search : RouteSearch)
    (route : List ImpactStep) : Prop :=
  route ∈ search.result ∨ ∃ frame ∈ search.pending, route ∈ frame.routes artifact goal

/-- The search covers only the wanted routes, and all of them while no cut-off
has fired. -/
structure Tracks (artifact : Artifact) (goal : String) (wanted : Set (List ImpactStep))
    (search : RouteSearch) : Prop where
  goalFresh : ∀ frame ∈ search.pending, goal ∉ frame.activeTypes
  sound : ∀ route, search.Covers artifact goal route → route ∈ wanted
  complete : search.limitExceeded = false → ∀ route ∈ wanted, search.Covers artifact goal route
  withinSteps : search.limitExceeded = false → search.visitedSteps ≤ maxPublicImpactSteps

/-- The edges an expansion follows are the edges that leave the current type. -/
theorem mem_edges_iff {frame : Frame} {edge : TypeReference} :
    edge ∈ artifact.typeReferences.reverse.filter (·.ownerType = frame.current) ↔
      edge ∈ artifact.typeReferences ∧ edge.ownerType = frame.current := by
  simp

/-- Popping the top entry and covering its routes otherwise keeps the coverage. -/
theorem covers_iff_of_cons {search : RouteSearch} {frame : Frame} {pending : List Frame}
    (top : search.pending = frame :: pending) {route : List ImpactStep} :
    search.Covers artifact goal route ↔
      route ∈ frame.routes artifact goal ∨ Covers artifact goal
        { search with pending := pending, visitedSteps := search.visitedSteps + 1 } route := by
  simp only [Covers, top, List.mem_cons, exists_eq_or_imp]
  exact or_left_comm

theorem covers_insert_iff {search : RouteSearch} {steps route : List ImpactStep} :
    Covers artifact goal { search with result := search.result.insert steps } route ↔
      route = steps ∨ search.Covers artifact goal route := by
  have inserted : route ∈ search.result.insert steps ↔ route = steps ∨ route ∈ search.result := by
    rw [Std.ExtTreeSet.mem_insert, Std.LawfulEqOrd.compare_eq_iff_eq]
    exact or_congr_left eq_comm
  rw [Covers, inserted, or_assoc, Covers]

section Expand

variable {frame : Frame} {edges : List TypeReference} {search : RouteSearch}
  {route : List ImpactStep}

/-- An expansion covers nothing but the routes along its edges and the old ones. -/
theorem covers_of_expand (covered : (expand frame edges search).Covers artifact goal route) :
    (∃ edge ∈ edges, route ∈ (frame.extend edge).routes artifact goal) ∨
      search.Covers artifact goal route := by
  rcases covered with found | ⟨entry, listed, onward⟩
  · rw [result_expand] at found
    exact Or.inr (Or.inl found)
  · rcases mem_pending_of_mem_expand listed with earlier | ⟨edge, member, rfl⟩
    · exact Or.inr (Or.inr ⟨entry, earlier, onward⟩)
    · exact Or.inl ⟨edge, member, onward⟩

theorem covers_expand_of_covers (covered : search.Covers artifact goal route) :
    (expand frame edges search).Covers artifact goal route := by
  rcases covered with found | ⟨entry, listed, onward⟩
  · exact Or.inl (by rw [result_expand]; exact found)
  · exact Or.inr ⟨entry, mem_expand_of_mem_pending listed, onward⟩

theorem covers_expand_of_edge (uncut : (expand frame edges search).limitExceeded = false)
    {edge : TypeReference} (member : edge ∈ edges)
    (onward : route ∈ (frame.extend edge).routes artifact goal) :
    (expand frame edges search).Covers artifact goal route :=
  Or.inr ⟨frame.extend edge, mem_expand_of_mem_edges uncut member, onward⟩

/-- An expansion away from the goal puts no path through the goal on the stack. -/
theorem goalFresh_expand (away : frame.current ≠ goal) (frameFresh : goal ∉ frame.activeTypes)
    (restFresh : ∀ entry ∈ search.pending, goal ∉ entry.activeTypes) :
    ∀ entry ∈ (expand frame edges search).pending, goal ∉ entry.activeTypes := by
  intro entry listed
  rcases mem_pending_of_mem_expand listed with earlier | ⟨edge, _, rfl⟩
  · exact restFresh entry earlier
  · rw [Frame.extend, Std.ExtTreeSet.mem_insert, Std.LawfulEqOrd.compare_eq_iff_eq]
    exact not_or.2 ⟨away, frameFresh⟩

end Expand

theorem tracks_step {wanted : Set (List ImpactStep)} {search : RouteSearch}
    (tracks : search.Tracks artifact goal wanted) :
    (search.step artifact goal).Tracks artifact goal wanted := by
  obtain ⟨goalFresh, sound, complete, withinSteps⟩ := tracks
  unfold step
  cases top : search.pending with
  | nil => exact ⟨goalFresh, sound, complete, withinSteps⟩
  | cons frame pending =>
      have restFresh : ∀ entry ∈ pending, goal ∉ entry.activeTypes := fun entry listed =>
        goalFresh entry (top ▸ List.mem_cons_of_mem _ listed)
      have frameFresh : goal ∉ frame.activeTypes := goalFresh frame (top ▸ List.mem_cons_self)
      simp only [covers_iff_of_cons top] at sound complete
      dsimp only
      split
      · -- A cut-off fires and drops the entry.
        exact ⟨restFresh, fun route covered => sound route (Or.inr covered), nofun, nofun⟩
      rename_i withinLimits
      simp only [not_or, Nat.not_lt, Nat.not_le] at withinLimits
      split
      · -- The entry has arrived.
        rename_i arrived
        have only : frame.routes artifact goal = {frame.steps} :=
          Frame.routes_arrived arrived frameFresh
        simp only [only, Set.mem_singleton_iff] at sound complete
        exact ⟨restFresh, fun route covered => sound route (covers_insert_iff.1 covered),
          fun uncut route isWanted => covers_insert_iff.2 (complete uncut route isWanted),
          fun _ => withinLimits.1⟩
      rename_i away
      split
      · -- The type is already on the path.
        rename_i visited
        have nowhere : frame.routes artifact goal = ∅ :=
          Frame.routes_visited (Std.ExtTreeSet.mem_iff_contains.2 visited)
        refine ⟨restFresh, fun route covered => sound route (Or.inr covered),
          fun uncut route isWanted => ?_, fun _ => withinLimits.1⟩
        rcases complete uncut route isWanted with here | covered
        · rw [nowhere] at here
          exact absurd here (Set.notMem_empty route)
        · exact covered
      · -- The type is expanded.
        rename_i unvisited
        have fresh : frame.current ∉ frame.activeTypes :=
          fun visited => unvisited (Std.ExtTreeSet.mem_iff_contains.1 visited)
        have expanded := @Frame.mem_routes_expanded artifact goal frame fresh away
        refine ⟨goalFresh_expand away frameFresh restFresh, fun route covered => ?_,
          fun uncut route isWanted => ?_, fun _ => ?_⟩
        · rcases covers_of_expand covered with ⟨edge, member, onward⟩ | earlier
          · obtain ⟨member, origin⟩ := mem_edges_iff.1 member
            exact sound route (Or.inl (expanded.2 ⟨edge, member, origin, onward⟩))
          · exact sound route (Or.inr earlier)
        · have running := limitExceeded_of_expand uncut
          rcases complete running route isWanted with here | earlier
          · obtain ⟨edge, member, origin, onward⟩ := expanded.1 here
            exact covers_expand_of_edge uncut (mem_edges_iff.2 ⟨member, origin⟩) onward
          · exact covers_expand_of_covers earlier
        · rw [visitedSteps_expand]
          exact withinLimits.1

theorem tracks_initial (artifact : Artifact) (goal root : String) :
    (initial artifact root).Tracks artifact goal
      { route | root ∈ artifact.userTypes ∧ (typeGraph artifact).IsRoute root goal route } := by
  have covers : ∀ route, (initial artifact root).Covers artifact goal route ↔
      root ∈ artifact.userTypes ∧ (typeGraph artifact).IsRoute root goal route := by
    intro route
    have started : ∀ route,
        route ∈ Frame.routes artifact goal { current := root, steps := [], activeTypes := ∅ } ↔
        (typeGraph artifact).IsRoute root goal route := by
      intro route
      have empty : { name : String | name ∈ (∅ : StringSet) } = ∅ := by
        ext name
        simp
      rw [Frame.routes, empty]
      exact EdgeGraph.mem_routesFrom_empty
    simp only [Covers, initial, Std.ExtTreeSet.not_mem_empty, false_or]
    by_cases known : root ∈ artifact.userTypes
    · simp [known, Std.ExtTreeMap.mem_iff_contains.1 known, started]
    · simp [known]
  refine ⟨?_, fun route => (covers route).1, fun _ route => (covers route).2,
    fun _ => Nat.zero_le _⟩
  intro frame listed
  simp only [initial] at listed
  split at listed
  · rw [List.mem_singleton.1 listed]
    exact Std.ExtTreeSet.not_mem_empty
  · cases listed

/-- A search that runs on uses one of its steps. -/
theorem visitedSteps_step {search : RouteSearch} (running : search.halted = false) :
    (search.step artifact goal).visitedSteps = search.visitedSteps + 1 := by
  rw [halted, Bool.or_eq_false_iff] at running
  unfold step
  cases top : search.pending with
  | nil => simp [top] at running
  | cons frame pending =>
      dsimp only
      split
      · rfl
      split
      · rfl
      split
      · rfl
      · exact visitedSteps_expand

theorem tracks_final (artifact : Artifact) (root goal : String) :
    (final artifact root goal).Tracks artifact goal
      { route | root ∈ artifact.userTypes ∧ (typeGraph artifact).IsRoute root goal route } :=
  runLoop_invariant (fun _ tracks _ => tracks_step tracks) _ (tracks_initial artifact goal root)

/-- The loop ends by itself: the step limit leaves no turn to the fuel. -/
theorem halted_final (artifact : Artifact) (root goal : String) :
    (final artifact root goal).halted = true := by
  refine halted_runLoop (fun search => maxPublicImpactSteps + 1 - search.visitedSteps)
    (fun _ tracks _ => tracks_step tracks) (fun search tracks running => ?_) _
    (tracks_initial artifact goal root) (Nat.lt_succ_self _)
  have within := tracks.withinSteps (Bool.or_eq_false_iff.1 running).1
  have used : (search.step artifact goal).visitedSteps = search.visitedSteps + 1 :=
    visitedSteps_step running
  omega

end RouteSearch

/-! ### Routes -/

/-- Every returned route is a simple path of type references. -/
theorem isRoute_of_mem_routesToType {artifact : Artifact} {root goal : String}
    {route : List ImpactStep} (found : route ∈ (routesToType artifact root goal).1) :
    root ∈ artifact.userTypes ∧ (typeGraph artifact).IsRoute root goal route :=
  (RouteSearch.tracks_final artifact root goal).sound route (Or.inl found)

/-- Without a cut-off every simple path is returned. -/
theorem mem_routesToType_of_isRoute {artifact : Artifact} {root goal : String}
    (uncut : (routesToType artifact root goal).2 = false) {route : List ImpactStep}
    (known : root ∈ artifact.userTypes)
    (isRoute : (typeGraph artifact).IsRoute root goal route) :
    route ∈ (routesToType artifact root goal).1 := by
  have unlimited : (RouteSearch.final artifact root goal).limitExceeded = false := uncut
  have stopped := RouteSearch.halted_final artifact root goal
  rw [RouteSearch.halted, unlimited, Bool.false_or, List.isEmpty_iff] at stopped
  rcases (RouteSearch.tracks_final artifact root goal).complete unlimited route
    ⟨known, isRoute⟩ with found | ⟨frame, listed, _⟩
  · exact found
  · rw [stopped] at listed
    cases listed

/-! ### Impacts -/

/-- A changed type, a boundary that both artifacts keep, and a path of type
references that both artifacts have from the boundary to the type. -/
structure IsPublicImpact (source target : Artifact) (impact : PublicImpact) : Prop where
  changed : ∃ before after, source.userTypes[impact.changedType]? = some before ∧
    target.userTypes[impact.changedType]? = some after ∧ after.canonical ≠ before.canonical
  sourceBoundary : impact.boundary ∈ source.publicTypeBoundaries
  targetBoundary : impact.boundary ∈ target.publicTypeBoundaries
  sameFunction : source.functions[impact.boundary.function]?.map (·.canonical) =
    target.functions[impact.boundary.function]?.map (·.canonical)
  sourceRoot : impact.boundary.rootType ∈ source.userTypes
  targetRoot : impact.boundary.rootType ∈ target.userTypes
  sourcePath : (typeGraph source).IsRoute impact.boundary.rootType impact.changedType impact.steps
  targetPath : (typeGraph target).IsRoute impact.boundary.rootType impact.changedType impact.steps
  structuralFact : impact.structuralReachability = .fact
  runtimeUnknown : impact.runtimeCompatibility = .unknown

section Tracing

variable {source target : Artifact}

theorem mem_changedTypes_iff {name : String} :
    name ∈ changedTypes source target ↔
      ∃ before after, source.userTypes[name]? = some before ∧
        target.userTypes[name]? = some after ∧ after.canonical ≠ before.canonical := by
  simp only [changedTypes, List.mem_filterMap, Prod.exists, OrderedMap.mem_toList_iff,
    Option.ite_none_right_eq_some, Option.some.injEq, Option.any_eq_true, decide_eq_true_eq]
  constructor
  · rintro ⟨_, before, here, ⟨after, there, differ⟩, rfl⟩
    exact ⟨before, after, here, there, differ⟩
  · rintro ⟨before, after, here, there, differ⟩
    exact ⟨name, before, here, ⟨after, there, differ⟩, rfl⟩

theorem mem_retainedBoundaries_iff {boundary : PublicTypeBoundary} :
    boundary ∈ retainedBoundaries source target ↔
      (boundary ∈ source.publicTypeBoundaries ∧ boundary ∈ target.publicTypeBoundaries) ∧
        source.functions[boundary.function]?.map (·.canonical) =
          target.functions[boundary.function]?.map (·.canonical) := by
  simp only [retainedBoundaries, List.mem_filter, Std.ExtTreeSet.mem_toList,
    ← Std.ExtTreeSet.mem_iff_contains, OrderedSet.mem_ofList_iff, decide_eq_true_eq]

theorem mem_traceImpact_iff {boundary : PublicTypeBoundary} {changedType : String}
    {impact : PublicImpact} :
    impact ∈ (traceImpact source target boundary changedType).1 ↔
      impact.steps ∈ (routesToType source boundary.rootType changedType).1 ∧
      impact.steps ∈ (routesToType target boundary.rootType changedType).1 ∧
      impact.changedType = changedType ∧ impact.boundary = boundary ∧
      impact.structuralReachability = .fact ∧ impact.runtimeCompatibility = .unknown := by
  simp only [traceImpact, List.mem_map, List.mem_filter, Std.ExtTreeSet.mem_toList,
    ← Std.ExtTreeSet.mem_iff_contains]
  constructor
  · rintro ⟨steps, ⟨here, there⟩, rfl⟩
    exact ⟨here, there, rfl, rfl, rfl, rfl⟩
  · rintro ⟨here, there, rfl, rfl, structural, runtime⟩
    refine ⟨impact.steps, ⟨here, there⟩, ?_⟩
    rw [← structural, ← runtime]

theorem mem_tracePublicImpacts_iff {impact : PublicImpact} :
    impact ∈ (tracePublicImpacts source target).1 ↔
      impact.boundary ∈ retainedBoundaries source target ∧
      impact.changedType ∈ changedTypes source target ∧
      impact ∈ (traceImpact source target impact.boundary impact.changedType).1 := by
  simp only [tracePublicImpacts, Std.ExtTreeSet.mem_toList, OrderedSet.mem_ofList_iff,
    List.mem_flatMap, List.mem_map]
  constructor
  · rintro ⟨_, ⟨boundary, retained, changedType, changed, rfl⟩, listed⟩
    obtain ⟨_, _, rfl, rfl, _, _⟩ := mem_traceImpact_iff.1 listed
    exact ⟨retained, changed, listed⟩
  · rintro ⟨retained, changed, listed⟩
    exact ⟨_, ⟨_, retained, _, changed, rfl⟩, listed⟩

/-- Every listed impact is one. -/
theorem isPublicImpact_of_mem {impact : PublicImpact}
    (listed : impact ∈ (tracePublicImpacts source target).1) :
    IsPublicImpact source target impact := by
  obtain ⟨retained, changed, traced⟩ := mem_tracePublicImpacts_iff.1 listed
  obtain ⟨here, there, _, _, structural, runtime⟩ := mem_traceImpact_iff.1 traced
  obtain ⟨⟨sourceBoundary, targetBoundary⟩, sameFunction⟩ := mem_retainedBoundaries_iff.1 retained
  obtain ⟨sourceRoot, sourcePath⟩ := isRoute_of_mem_routesToType here
  obtain ⟨targetRoot, targetPath⟩ := isRoute_of_mem_routesToType there
  exact ⟨mem_changedTypes_iff.1 changed, sourceBoundary, targetBoundary, sameFunction, sourceRoot,
    targetRoot, sourcePath, targetPath, structural, runtime⟩

/-- Without a cut-off every impact is listed. -/
theorem mem_of_isPublicImpact (uncut : (tracePublicImpacts source target).2 = false)
    {impact : PublicImpact} (isImpact : IsPublicImpact source target impact) :
    impact ∈ (tracePublicImpacts source target).1 := by
  have retained : impact.boundary ∈ retainedBoundaries source target :=
    mem_retainedBoundaries_iff.2
      ⟨⟨isImpact.sourceBoundary, isImpact.targetBoundary⟩, isImpact.sameFunction⟩
  have changed := mem_changedTypes_iff.2 isImpact.changed
  have unlimited : (traceImpact source target impact.boundary impact.changedType).2 = false := by
    simp only [tracePublicImpacts, List.any_eq_false, List.mem_flatMap, List.mem_map] at uncut
    exact Bool.eq_false_iff.2 (uncut _ ⟨_, retained, _, changed, rfl⟩)
  rw [traceImpact, Bool.or_eq_false_iff] at unlimited
  rw [mem_tracePublicImpacts_iff]
  refine ⟨retained, changed, mem_traceImpact_iff.2 ⟨?_, ?_, rfl, rfl, isImpact.structuralFact,
    isImpact.runtimeUnknown⟩⟩
  · exact mem_routesToType_of_isRoute unlimited.1 isImpact.sourceRoot isImpact.sourcePath
  · exact mem_routesToType_of_isRoute unlimited.2 isImpact.targetRoot isImpact.targetPath

/-- An impact has no steps exactly when the boundary uses the changed type itself. -/
theorem IsPublicImpact.steps_eq_nil_iff {impact : PublicImpact}
    (isImpact : IsPublicImpact source target impact) :
    impact.steps = [] ↔ impact.boundary.rootType = impact.changedType := by
  obtain ⟨walk, simple⟩ := isImpact.sourcePath
  cases steps : impact.steps with
  | nil =>
      rw [steps] at walk
      exact iff_of_true rfl walk
  | cons step rest =>
      rw [steps] at walk simple
      refine iff_of_false (List.cons_ne_nil _ _) fun same => ?_
      rw [EdgeGraph.visits, List.nodup_cons] at simple
      rw [same] at simple
      exact simple.1 (EdgeGraph.goal_mem_visits walk.2.2)

end Tracing

/-- The impacts of a report are impacts, and unless the report says that a limit
was reached they are all of them. -/
theorem publicImpacts_exact (primitives : Primitives) (source target : Artifact)
    (sourceSchema targetSchema : Option StorageSchema) (policy : Policy)
    (context : ValidationContext) (schemaHistory : Option SchemaHistory) :
    let report := validateWithHistory primitives source target sourceSchema targetSchema policy
      context schemaHistory
    (∀ impact ∈ report.publicImpacts, IsPublicImpact source target impact ∧
      (impact.steps = [] ↔ impact.boundary.rootType = impact.changedType)) ∧
    ((∀ finding ∈ report.findings, finding.code ≠ "RES001") →
      ∀ impact, impact ∈ report.publicImpacts ↔ IsPublicImpact source target impact) := by
  intro report
  refine ⟨fun impact listed => ?_, fun noLimit impact => ⟨isPublicImpact_of_mem, fun isImpact => ?_⟩⟩
  · have isImpact := isPublicImpact_of_mem listed
    exact ⟨isImpact, isImpact.steps_eq_nil_iff⟩
  · refine mem_of_isPublicImpact ?_ isImpact
    cases limited : (tracePublicImpacts source target).2 with
    | false => rfl
    | true =>
        have flagged : ∃ finding ∈ checkImpactLimit true, finding.code = "RES001" :=
          ⟨_, List.mem_singleton_self _, rfl⟩
        obtain ⟨finding, pushed, code⟩ := flagged
        have listed : finding ∈ report.findings := by
          rw [mem_findings_iff, pushedFindings, limited]
          exact List.mem_append_right _ pushed
        exact absurd code (noLimit finding listed)

end SorobanUpgrades
