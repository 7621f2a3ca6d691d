/-
Module: SorobanUpgrades.Proofs.CallReachability
Purpose: The call evidence of an export is what direct calls reach from it.
Trusted boundary: none
Main exports: CallGraph, CallGraph.Reaches, collectExportCallEvidence_exact,
  exportCallEvidence_exact
-/
import SorobanUpgrades.Library.Worklist
import SorobanUpgrades.Proofs.EntrypointExports

namespace SorobanUpgrades

open Outcome (bind_eq_ok_iff mapM_eq_ok_map)

/-! ### Call graphs -/

/-- The functions of a module. One index counts the imports first and then the bodies. -/
structure CallGraph where
  functionImports : List String
  functionBodies : List FunctionBodyCalls

namespace CallGraph

/-- The call graph of a module. -/
def ofPayloads (payloads : List Payload) : CallGraph where
  functionImports := (importedFunctions payloads).map fun item => s!"{item.module}.{item.name}"
  functionBodies := SorobanUpgrades.functionBodies payloads

variable (graph : CallGraph)

/-- The number of functions. -/
def size : Nat := graph.functionImports.length + graph.functionBodies.length

/-- The canonical name of an imported function. -/
def importName (index : UInt32) : Option String := graph.functionImports[index.toNat]?

/-- The body of a defined function. -/
def body (index : UInt32) : Option FunctionBodyCalls :=
  if index.toNat < graph.functionImports.length then none
  else graph.functionBodies[index.toNat - graph.functionImports.length]?

/-- The body of one function calls another directly. -/
def DirectCall (caller callee : UInt32) : Prop :=
  ∃ body, graph.body caller = some body ∧ callee ∈ body.directCalls

/-- Zero or more direct calls lead from one function to another. -/
def Reaches : UInt32 → UInt32 → Prop := Relation.ReflTransGen graph.DirectCall

/-- Direct calls lead to an import of this name. -/
def ReachesImport (index : UInt32) (name : String) : Prop :=
  ∃ target, graph.Reaches index target ∧ graph.importName target = some name

/-- Direct calls lead to a body with dynamic dispatch. -/
def ReachesDynamicDispatch (index : UInt32) : Prop :=
  ∃ target body, graph.Reaches index target ∧ graph.body target = some body ∧
    body.hasDynamicDispatch = true

/-- Every call names a function of the module, and the imports fit the index. -/
structure CallsInRange : Prop where
  imports : graph.functionImports.length < UInt32.size
  calls : ∀ body ∈ graph.functionBodies, ∀ callee ∈ body.directCalls, callee.toNat < graph.size

end CallGraph

/-! ### One turn of the search -/

section Search

variable {graph : CallGraph} {start : UInt32}

/-- The search has the results of the nodes it left behind. -/
structure CallSearch.Tracks (graph : CallGraph) (start : UInt32) (search : CallSearch)
    (done : Set UInt32) : Prop where
  explores : Explores graph.DirectCall start search.pending done
  visited : ∀ index, index ∈ search.visited ↔
    index ∈ done ∧ graph.functionImports.length ≤ index.toNat
  hostImports : ∀ name, name ∈ search.evidence.hostImports ↔
    ∃ index ∈ done, graph.importName index = some name
  dynamicDispatch : search.evidence.dynamicDispatchReachable = true ↔
    ∃ index ∈ done, ∃ body, graph.body index = some body ∧ body.hasDynamicDispatch = true

theorem CallSearch.tracks_initial : (CallSearch.initial start).Tracks graph start ∅ where
  explores := Explores.initial
  visited := by simp [CallSearch.initial]
  hostImports := by simp [CallSearch.initial]
  dynamicDispatch := by simp [CallSearch.initial]

/-- A call from a function of the module stays in the module. -/
theorem CallGraph.CallsInRange.reaches (inRange : graph.CallsInRange) {index : UInt32}
    (inside : start.toNat < graph.size) (reached : graph.Reaches start index) :
    index.toNat < graph.size := by
  induction reached with
  | refl => exact inside
  | tail _ call _ =>
      obtain ⟨body, found, listed⟩ := call
      rw [CallGraph.body] at found
      split at found
      · cases found
      · exact inRange.calls body (List.mem_of_getElem? found) _ listed

theorem CallGraph.CallsInRange.toNat_count (inRange : graph.CallsInRange) :
    (UInt32.ofNat graph.functionImports.length).toNat = graph.functionImports.length :=
  UInt32.toNat_ofNat_of_lt' inRange.imports

namespace CallSearch

variable {search : CallSearch} {done : Set UInt32} {current : UInt32} {rest : List UInt32}

/-- An import on top of the stack is recorded. -/
theorem tracks_import (tracks : search.Tracks graph start done) (top : search.pending = current :: rest)
    (isImport : current.toNat < graph.functionImports.length) {name : String}
    (named : graph.importName current = some name) :
    Tracks graph start { search with
      pending := rest
      evidence := { search.evidence with
        hostImports := search.evidence.hostImports.insert name } } (insert current done) where
  explores := by
    have explores := tracks.explores
    rw [top] at explores
    have leaf : ∀ next, graph.DirectCall current next ↔ next ∈ ([] : List UInt32) := by
      intro next
      refine iff_of_false ?_ List.not_mem_nil
      rintro ⟨body, found, _⟩
      rw [CallGraph.body, if_pos isImport] at found
      cases found
    exact explores.enter leaf
  visited := by
    intro index
    rw [tracks.visited, Set.mem_insert_iff]
    constructor
    · exact fun ⟨before, defined⟩ => ⟨Or.inr before, defined⟩
    · rintro ⟨rfl | before, defined⟩
      · exact absurd isImport (Nat.not_lt.2 defined)
      · exact ⟨before, defined⟩
  hostImports := by
    intro other
    rw [Std.ExtTreeSet.mem_insert, tracks.hostImports]
    simp only [Set.mem_insert_iff, exists_eq_or_imp, named, Option.some.injEq, compare_eq_iff_eq]
  dynamicDispatch := by
    have none : graph.body current = none := if_pos isImport
    rw [tracks.dynamicDispatch]
    simp [none]

/-- A defined function that was visited before is dropped. -/
theorem tracks_visited (tracks : search.Tracks graph start done)
    (top : search.pending = current :: rest) (known : current ∈ search.visited) :
    Tracks graph start { search with pending := rest } done where
  explores := by
    have explores := tracks.explores
    rw [top] at explores
    exact explores.skip ((tracks.visited current).1 known).1
  visited := tracks.visited
  hostImports := tracks.hostImports
  dynamicDispatch := tracks.dynamicDispatch

/-- A new body is entered. -/
theorem tracks_body (tracks : search.Tracks graph start done)
    (top : search.pending = current :: rest)
    (defined : graph.functionImports.length ≤ current.toNat) {body : FunctionBodyCalls}
    (found : graph.body current = some body) :
    Tracks graph start {
      pending := body.directCalls ++ rest
      visited := search.visited.insert current
      evidence := { search.evidence with
        dynamicDispatchReachable :=
          search.evidence.dynamicDispatchReachable || body.hasDynamicDispatch } }
      (insert current done) where
  explores := by
    have explores := tracks.explores
    rw [top] at explores
    refine explores.enter fun next => ⟨?_, fun listed => ⟨body, found, listed⟩⟩
    rintro ⟨other, same, listed⟩
    rw [found, Option.some.injEq] at same
    rwa [same]
  visited := by
    intro index
    rw [Std.ExtTreeSet.mem_insert, tracks.visited, Set.mem_insert_iff, Std.compare_eq_iff_eq]
    constructor
    · rintro (rfl | ⟨before, bound⟩)
      · exact ⟨Or.inl rfl, defined⟩
      · exact ⟨Or.inr before, bound⟩
    · rintro ⟨rfl | before, bound⟩
      · exact Or.inl rfl
      · exact Or.inr ⟨before, bound⟩
  hostImports := by
    have none : graph.importName current = none := List.getElem?_eq_none defined
    intro name
    rw [tracks.hostImports]
    simp [none]
  dynamicDispatch := by
    rw [Bool.or_eq_true, tracks.dynamicDispatch]
    simp only [Set.mem_insert_iff, exists_eq_or_imp, found, Option.some.injEq, exists_eq_left']
    exact or_comm

/-! The calls of the bodies that are still to be entered bound the turns to come. -/

/-- The calls of the bodies from `position` on that are not visited. -/
def unvisitedCalls (visited : OrderedSet UInt32) : Nat → List FunctionBodyCalls → Nat
  | _, [] => 0
  | position, body :: bodies =>
      (if UInt32.ofNat position ∈ visited then 0 else body.directCalls.length) +
        unvisitedCalls visited (position + 1) bodies

theorem unvisitedCalls_empty (position : Nat) (bodies : List FunctionBodyCalls) :
    unvisitedCalls ∅ position bodies = (bodies.map (·.directCalls.length)).sum := by
  induction bodies generalizing position with
  | nil => rfl
  | cons body bodies inductionHypothesis => simp [unvisitedCalls, inductionHypothesis]

theorem unvisitedCalls_insert_le (visited : OrderedSet UInt32) (index : UInt32) (position : Nat)
    (bodies : List FunctionBodyCalls) :
    unvisitedCalls (visited.insert index) position bodies ≤
      unvisitedCalls visited position bodies := by
  induction bodies generalizing position with
  | nil => exact Nat.le_refl _
  | cons body bodies inductionHypothesis =>
      have later := inductionHypothesis (position + 1)
      rw [unvisitedCalls, unvisitedCalls]
      by_cases known : UInt32.ofNat position ∈ visited
      · have still : UInt32.ofNat position ∈ visited.insert index :=
          Std.ExtTreeSet.mem_insert.2 (Or.inr known)
        rw [if_pos known, if_pos still]
        omega
      · rw [if_neg known]
        split <;> omega

/-- A body that is entered no longer counts. -/
theorem unvisitedCalls_insert {visited : OrderedSet UInt32} {position offset : Nat}
    {bodies : List FunctionBodyCalls} {body : FunctionBodyCalls}
    (found : bodies[offset]? = some body) (fresh : UInt32.ofNat (position + offset) ∉ visited) :
    unvisitedCalls (visited.insert (UInt32.ofNat (position + offset))) position bodies +
      body.directCalls.length ≤ unvisitedCalls visited position bodies := by
  induction bodies generalizing position offset with
  | nil => cases found
  | cons head bodies inductionHypothesis =>
      cases offset with
      | zero =>
          obtain rfl := Option.some.inj found
          have entered : UInt32.ofNat position ∈ visited.insert (UInt32.ofNat position) :=
            Std.ExtTreeSet.mem_insert_self
          have later := unvisitedCalls_insert_le visited (UInt32.ofNat position) (position + 1) bodies
          rw [Nat.add_zero] at fresh ⊢
          rw [unvisitedCalls, unvisitedCalls, if_pos entered, if_neg fresh]
          omega
      | succ offset =>
          rw [List.getElem?_cons_succ] at found
          rw [← Nat.add_assoc, Nat.add_right_comm] at fresh ⊢
          have later := inductionHypothesis found fresh
          rw [unvisitedCalls, unvisitedCalls]
          by_cases known : UInt32.ofNat position ∈ visited
          · rw [if_pos known, if_pos (Std.ExtTreeSet.mem_insert.2 (Or.inr known))]
            omega
          · rw [if_neg known]
            split <;> omega

/-- A bound on the turns that are left. -/
def turnsLeft (graph : CallGraph) (search : CallSearch) : Nat :=
  search.pending.length +
    unvisitedCalls search.visited graph.functionImports.length graph.functionBodies

/-- Every turn succeeds, keeps track of the nodes left behind and comes closer to the end. -/
theorem turn_tracks (inRange : graph.CallsInRange) (inside : start.toNat < graph.size)
    (tracks : search.Tracks graph start done) (top : search.pending = current :: rest) :
    ∃ next after, search.turn (UInt32.ofNat graph.functionImports.length) graph.functionImports
        graph.functionBodies = .ok next ∧
      next.Tracks graph start after ∧ next.turnsLeft graph < search.turnsLeft graph := by
  have currentInside : current.toNat < graph.size := by
    apply inRange.reaches inside
    apply tracks.explores.pendingReached
    rw [top]
    exact List.mem_cons_self
  have count := inRange.toNat_count
  rw [turn, top]
  dsimp only
  by_cases isImport : current.toNat < graph.functionImports.length
  · have below : current < UInt32.ofNat graph.functionImports.length := by
      rwa [UInt32.lt_iff_toNat_lt, count]
    have named := List.getElem?_eq_getElem isImport
    rw [if_pos below, named]
    refine ⟨_, _, rfl, tracks_import tracks top isImport named, ?_⟩
    simp [turnsLeft, top]
  · have above : ¬ current < UInt32.ofNat graph.functionImports.length := by
      rwa [UInt32.lt_iff_toNat_lt, count]
    rw [if_neg above]
    by_cases known : current ∈ search.visited
    · rw [if_pos (Std.ExtTreeSet.mem_iff_contains.1 known)]
      refine ⟨_, _, rfl, tracks_visited tracks top known, ?_⟩
      simp [turnsLeft, top]
    · have fresh : ¬ search.visited.contains current = true := by
        rwa [← Std.ExtTreeSet.mem_iff_contains]
      have offset : (current - UInt32.ofNat graph.functionImports.length).toNat =
          current.toNat - graph.functionImports.length := by
        rw [UInt32.toNat_sub_of_le _ _ (UInt32.not_lt.1 above), count]
      obtain ⟨body, listed⟩ : ∃ body,
          graph.functionBodies[current.toNat - graph.functionImports.length]? = some body := by
        rw [CallGraph.size] at currentInside
        exact ⟨_, List.getElem?_eq_getElem (by omega)⟩
      have found : graph.body current = some body := by
        rw [CallGraph.body, if_neg isImport, listed]
      rw [if_neg fresh, offset, listed]
      refine ⟨_, _, rfl, tracks_body tracks top (Nat.not_lt.1 isImport) found, ?_⟩
      have position : UInt32.ofNat (graph.functionImports.length +
          (current.toNat - graph.functionImports.length)) = current := by
        rw [Nat.add_sub_cancel' (Nat.not_lt.1 isImport), UInt32.ofNat_toNat]
      have fewer := unvisitedCalls_insert listed (position.symm ▸ known)
      rw [position] at fewer
      simp only [turnsLeft, top, List.length_append, List.length_cons]
      omega

/-- The search ends within its bound, with nothing pending. -/
theorem search_ends (inRange : graph.CallsInRange) (inside : start.toNat < graph.size) :
    ∃ search done, runLoop halted
        (step (UInt32.ofNat graph.functionImports.length) graph.functionImports
          graph.functionBodies) (fuel graph.functionBodies) (.ok (initial start)) = .ok search ∧
      search.pending = [] ∧ search.Tracks graph start done := by
  let turns := step (UInt32.ofNat graph.functionImports.length) graph.functionImports
    graph.functionBodies
  let tracked : Except Error CallSearch → Prop := fun state =>
    ∃ search done, state = .ok search ∧ search.Tracks graph start done
  let left : Except Error CallSearch → Nat := fun state =>
    state.toOption.elim 0 (turnsLeft graph)
  have turn : ∀ state, tracked state → halted state = false →
      tracked (turns state) ∧ left (turns state) < left state := by
    rintro _ ⟨search, done, rfl, tracks⟩ running
    obtain ⟨current, rest, top⟩ := List.exists_cons_of_ne_nil
      (List.isEmpty_eq_false_iff.1 running)
    obtain ⟨next, after, turned, kept, closer⟩ := turn_tracks inRange inside tracks top
    have stepped : turns (.ok search) = .ok next := turned
    rw [stepped]
    exact ⟨⟨next, after, rfl, kept⟩, closer⟩
  have started : tracked (.ok (initial start)) := ⟨_, ∅, rfl, tracks_initial⟩
  have enough : left (.ok (initial start)) < fuel graph.functionBodies := by
    have bound := unvisitedCalls_empty graph.functionImports.length graph.functionBodies
    simp only [left, Except.toOption, Option.elim_some, turnsLeft, initial, fuel,
      List.length_singleton, bound]
    omega
  have stopped : halted (runLoop halted turns (fuel graph.functionBodies)
      (.ok (initial start))) = true :=
    halted_runLoop left (fun state held running => (turn state held running).1)
      (fun state held running => (turn state held running).2) _ started enough
  obtain ⟨search, done, finished, tracks⟩ : tracked (runLoop halted turns
      (fuel graph.functionBodies) (.ok (initial start))) :=
    runLoop_invariant (fun state held running => (turn state held running).1) _ started
  rw [finished] at stopped
  exact ⟨search, done, finished, List.isEmpty_iff.1 stopped, tracks⟩

end CallSearch

/-- The evidence says which imports and which dynamic calls the function reaches. -/
structure ExportCallEvidence.ExactFor (evidence : ExportCallEvidence) (graph : CallGraph)
    (index : UInt32) : Prop where
  hostImports : ∀ name, name ∈ evidence.hostImports ↔ graph.ReachesImport index name
  dynamicDispatch : evidence.dynamicDispatchReachable = true ↔ graph.ReachesDynamicDispatch index

/-- The evidence of one function is exact. -/
theorem collectExportCallEvidence_exact (inRange : graph.CallsInRange)
    (inside : start.toNat < graph.size) :
    ∃ evidence, collectExportCallEvidence start (UInt32.ofNat graph.functionImports.length)
        graph.functionImports graph.functionBodies = .ok evidence ∧
      evidence.ExactFor graph start := by
  obtain ⟨search, done, finished, empty, tracks⟩ := CallSearch.search_ends inRange inside
  have explores := tracks.explores
  rw [empty] at explores
  refine ⟨search.evidence, ?_, fun name => ?_, ?_⟩
  · rw [collectExportCallEvidence, finished]
    rfl
  · rw [tracks.hostImports]
    simp only [explores.done_iff]
    rfl
  · rw [tracks.dynamicDispatch]
    simp only [explores.done_iff]
    exact ⟨fun ⟨index, reached, body, found⟩ => ⟨index, body, reached, found⟩,
      fun ⟨index, body, reached, found⟩ => ⟨index, reached, body, found⟩⟩

end Search

/-! ### The evidence of a module -/

section Modules

variable {payloads : List Payload}

/-- Every export and every call of the module names one of its functions. -/
structure IndicesInRange (payloads : List Payload) : Prop
    extends (CallGraph.ofPayloads payloads).CallsInRange where
  exports : ∀ (name : String) (index : UInt32), (functionExports payloads)[name]? = some index →
    index.toNat < (CallGraph.ofPayloads payloads).size

/-- The ranges can be checked entry by entry. -/
theorem indicesInRange_of_all
    (imports : (CallGraph.ofPayloads payloads).functionImports.length < UInt32.size)
    (calls : ∀ body ∈ functionBodies payloads, (body.directCalls.all fun callee =>
      callee.toNat < (CallGraph.ofPayloads payloads).size) = true)
    (exports : ∀ entry ∈ (functionExports payloads).toList,
      entry.2.toNat < (CallGraph.ofPayloads payloads).size) : IndicesInRange payloads where
  imports := imports
  calls := by
    intro body listed callee called
    exact of_decide_eq_true (List.all_eq_true.1 (calls body listed) callee called)
  exports := by
    intro name index exported
    exact exports (name, index) (OrderedMap.mem_toList_iff.2 exported)

theorem importIndex_of_lt {count : Nat} (small : count < UInt32.size) :
    importIndex count = .ok (UInt32.ofNat count) := if_pos small

/-- The host imports of the module are the names of its imported functions. -/
theorem readHostImports_eq (inRange : IndicesInRange payloads) :
    readHostImports payloads =
      .ok (Std.ExtTreeSet.ofList (CallGraph.ofPayloads payloads).functionImports compare) := by
  have imports : inspectFunctionImports payloads =
      .ok ((importedFunctions payloads).zipIdx.map fun entry =>
        { functionIndex := UInt32.ofNat entry.2, module := entry.1.module, name := entry.1.name }) := by
    apply mapM_eq_ok_map
    rintro ⟨item, position⟩ listed
    have bound : position < UInt32.size := by
      have inside := (List.mem_zipIdx' listed).1
      have small := inRange.imports
      simp only [CallGraph.ofPayloads, List.length_map] at small
      omega
    simp only [importIndex_of_lt bound]
    rfl
  have names : ((importedFunctions payloads).zipIdx.map fun entry =>
        ({ functionIndex := UInt32.ofNat entry.2, module := entry.1.module, name := entry.1.name } :
          FunctionImport)).map (·.canonicalName) =
      (CallGraph.ofPayloads payloads).functionImports := by
    rw [List.map_map, CallGraph.ofPayloads]
    conv_rhs => rw [← List.zipIdx_map_fst 0 (importedFunctions payloads), List.map_map]
    rfl
  rw [readHostImports, imports]
  simp only [bind, Except.bind, names]

/-- A reached import is an import of the module. -/
theorem CallGraph.ReachesImport.listed {graph : CallGraph} {index : UInt32} {name : String}
    (reached : graph.ReachesImport index name) : name ∈ graph.functionImports := by
  obtain ⟨target, _, named⟩ := reached
  exact List.mem_of_getElem? named

/-- The inspection stores the evidence of every export under its name. -/
theorem inspectExportCallEvidence_lookup (inRange : IndicesInRange payloads) :
    ∃ calls, inspectExportCallEvidence payloads = .ok calls ∧
      ∀ (name : String) (index : UInt32) (evidence : ExportCallEvidence),
        (functionExports payloads)[name]? = some index →
        collectExportCallEvidence index
          (UInt32.ofNat (CallGraph.ofPayloads payloads).functionImports.length)
          (CallGraph.ofPayloads payloads).functionImports (functionBodies payloads) = .ok evidence →
        calls[name]? = some evidence := by
  let collect : UInt32 → Except Error ExportCallEvidence := fun index =>
    collectExportCallEvidence index
      (UInt32.ofNat (CallGraph.ofPayloads payloads).functionImports.length)
      (CallGraph.ofPayloads payloads).functionImports (functionBodies payloads)
  let collected : UInt32 → ExportCallEvidence := fun index =>
    (collect index).toOption.getD { hostImports := ∅, dynamicDispatchReachable := false }
  have visits : ((functionExports payloads).toList.mapM fun entry => do
      let evidence ← collect entry.2
      .ok (entry.1, evidence)) =
      .ok ((functionExports payloads).toList.map fun entry => (entry.1, collected entry.2)) := by
    apply mapM_eq_ok_map
    rintro ⟨name, index⟩ listed
    have inside := inRange.exports name index (OrderedMap.mem_toList_iff.1 listed)
    obtain ⟨evidence, done, _⟩ :=
      collectExportCallEvidence_exact inRange.toCallsInRange inside
    have result : collect index = .ok evidence := done
    simp only [collected, result]
    rfl
  refine ⟨Std.ExtTreeMap.ofList ((functionExports payloads).toList.map fun entry =>
    (entry.1, collected entry.2)) compare, ?_, fun name index evidence exported done => ?_⟩
  · rw [inspectExportCallEvidence, bind_eq_ok_iff]
    exact ⟨_, importIndex_of_lt inRange.imports, bind_eq_ok_iff.2 ⟨_, visits, rfl⟩⟩
  · have distinct := OrderedMap.nodup_keysOf_toList (functionExports payloads)
    rw [← keysOf_mapSnd collected] at distinct
    have result : collect index = .ok evidence := done
    rw [OrderedMap.getElem?_ofList_of_nodup distinct, lookup_mapSnd, OrderedMap.lookup_toList,
      exported, Option.map_some]
    simp only [collected, result]
    rfl

end Modules

/-- Where all indices are in range, the inspection ends without an error. The evidence
of every export is exact, and its host imports are host imports of the module. -/
theorem exportCallEvidence_exact (payloads : List Payload) (inRange : IndicesInRange payloads) :
    ∃ calls hostImports, inspectExportCallEvidence payloads = .ok calls ∧
      readHostImports payloads = .ok hostImports ∧
      (∀ name, calls.contains name = true ↔ Exports payloads name) ∧
      (∀ (name : String) (index : UInt32), (functionExports payloads)[name]? = some index →
        ∃ search, runLoop CallSearch.halted
            (CallSearch.step
              (UInt32.ofNat (CallGraph.ofPayloads payloads).functionImports.length)
              (CallGraph.ofPayloads payloads).functionImports (functionBodies payloads))
            (CallSearch.fuel (functionBodies payloads)) (.ok (CallSearch.initial index)) =
              .ok search ∧
          search.pending = [] ∧ calls[name]? = some search.evidence ∧
          search.evidence.ExactFor (CallGraph.ofPayloads payloads) index ∧
          ∀ text ∈ search.evidence.hostImports, text ∈ hostImports) ∧
      ∀ primitives readers bytes artifact, readers.parseAll bytes = some payloads →
        Artifact.fromWasm primitives readers bytes = .ok artifact →
        artifact.exportCallEvidence = calls ∧ artifact.hostImports = hostImports := by
  obtain ⟨calls, inspected, stored⟩ := inspectExportCallEvidence_lookup inRange
  have imported := readHostImports_eq inRange
  refine ⟨calls, _, inspected, imported, contains_exportCallEvidence_iff inspected, ?_, ?_⟩
  · intro name index exported
    have inside := inRange.exports name index exported
    obtain ⟨search, done, finished, empty, _⟩ :=
      CallSearch.search_ends inRange.toCallsInRange inside
    obtain ⟨evidence, collected, exactly⟩ :=
      collectExportCallEvidence_exact inRange.toCallsInRange inside
    have same : search.evidence = evidence := by
      rw [collectExportCallEvidence, finished] at collected
      exact Except.ok.inj collected
    rw [← same] at collected exactly
    refine ⟨search, finished, empty, stored name index _ exported collected, exactly, ?_⟩
    intro text listed
    exact OrderedSet.mem_ofList_iff.2 ((exactly.hostImports text).1 listed).listed
  · intro primitives readers bytes artifact parsed built
    obtain ⟨others, parts⟩ := artifactParts_of_fromWasm built
    obtain rfl : others = payloads := Option.some.inj (parts.parsed.symm.trans parsed)
    exact ⟨Except.ok.inj (parts.calls.symm.trans inspected),
      Except.ok.inj (parts.hostImports.symm.trans imported)⟩

namespace Sample

/-- Two functions that call each other. The second one calls the host as well. -/
def mutualPayloads : List Payload :=
  [.importSection [⟨"l", "6", .func 0⟩], .exportSection [⟨"upgrade", .func, 1⟩],
    .codeSectionEntry [.call 2], .codeSectionEntry [.call 1, .call 0, .call 1]]

theorem mutual_inRange : IndicesInRange mutualPayloads := by
  refine indicesInRange_of_all ?_ (by decide) (by decide)
  change 1 < 4294967296
  omega

theorem mutual_reaches : (CallGraph.ofPayloads mutualPayloads).ReachesImport 1 "l.6" := by
  refine ⟨0, ?_, by decide⟩
  apply Relation.ReflTransGen.head (b := 2) ⟨⟨[2], false⟩, by decide, by decide⟩
  exact Relation.ReflTransGen.single ⟨⟨[1, 0, 1], false⟩, by decide, by decide⟩

end Sample

/-- The host call behind the mutual recursion is found. -/
theorem sampleCallEvidence_exact :
    ∃ calls evidence, inspectExportCallEvidence Sample.mutualPayloads = .ok calls ∧
      calls["upgrade"]? = some evidence ∧ "l.6" ∈ evidence.hostImports := by
  obtain ⟨calls, _, inspected, _, _, each, _⟩ :=
    exportCallEvidence_exact Sample.mutualPayloads Sample.mutual_inRange
  obtain ⟨search, _, _, stored, exactly, _⟩ := each "upgrade" 1 (by decide)
  exact ⟨calls, search.evidence, inspected, stored,
    (exactly.hostImports "l.6").2 Sample.mutual_reaches⟩

end SorobanUpgrades
