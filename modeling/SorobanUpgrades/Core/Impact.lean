/-
Module: SorobanUpgrades.Core.Impact
Purpose: The tracing of changed types to the public boundaries that reach them.
Trusted boundary: human-reviewed spec
Main exports: RouteSearch, RouteSearch.step, routesToType, tracePublicImpacts
-/
import SorobanUpgrades.Library.Loop
import SorobanUpgrades.Core.Types

namespace SorobanUpgrades

/-- `MAX_PUBLIC_IMPACT_DEPTH`. [SRC lib.rs:25] -/
def maxPublicImpactDepth : Nat := 64
/-- `MAX_PUBLIC_IMPACT_PATHS`. [SRC lib.rs:26] -/
def maxPublicImpactPaths : Nat := 256
/-- `MAX_PUBLIC_IMPACT_STEPS`. [SRC lib.rs:27] -/
def maxPublicImpactSteps : Nat := 10000

/-! ### One route search -/

/-- The step along a type reference. [SRC lib.rs:1450-1454] -/
def TypeReference.step (reference : TypeReference) : ImpactStep where
  ownerType := reference.ownerType
  member := reference.member
  targetType := reference.targetType

/-- A pending entry: a type, the steps that led to it and the types on the way.
[SRC lib.rs:1418-1421] -/
structure Frame where
  current : String
  steps : List ImpactStep
  activeTypes : StringSet

/-- The entry that one edge leads to. [SRC lib.rs:1449-1455] -/
def Frame.extend (frame : Frame) (edge : TypeReference) : Frame where
  current := edge.targetType
  steps := frame.steps ++ [edge.step]
  activeTypes := frame.activeTypes.insert frame.current

/-- The variables of the search loop. The top of the stack comes first. [SRC lib.rs:1415-1421] -/
structure RouteSearch where
  pending : List Frame
  result : OrderedSet (List ImpactStep)
  visitedSteps : Nat
  limitExceeded : Bool

namespace RouteSearch

/-- The inner loop: push one entry for each edge. [SRC lib.rs:1439-1456] -/
def expand (frame : Frame) : List TypeReference → RouteSearch → RouteSearch
  | [], search => search
  | edge :: edges, search =>
      if maxPublicImpactSteps ≤ search.pending.length + search.visitedSteps then
        { search with limitExceeded := true }
      else
        expand frame edges { search with pending := frame.extend edge :: search.pending }

/-- One turn of the outer loop. [SRC lib.rs:1423-1461] -/
def step (artifact : Artifact) (targetType : String) (search : RouteSearch) : RouteSearch :=
  match search.pending with
  | [] => search
  | frame :: pending =>
      let popped := { search with pending := pending, visitedSteps := search.visitedSteps + 1 }
      if maxPublicImpactSteps < popped.visitedSteps ∨
          maxPublicImpactDepth < frame.steps.length ∨
          maxPublicImpactPaths ≤ popped.result.size then
        { popped with limitExceeded := true }
      else if frame.current = targetType then
        { popped with result := popped.result.insert frame.steps }
      else if frame.activeTypes.contains frame.current then
        popped
      else
        expand frame
          (artifact.typeReferences.reverse.filter (·.ownerType = frame.current)) popped

/-- The loop has ended: a limit was exceeded or nothing is pending. -/
def halted (search : RouteSearch) : Bool := search.limitExceeded || search.pending.isEmpty

/-- The state before the loop. [SRC lib.rs:1415-1421] -/
def initial (artifact : Artifact) (rootType : String) : RouteSearch where
  pending :=
    if artifact.userTypes.contains rootType then
      [{ current := rootType, steps := [], activeTypes := ∅ }]
    else []
  result := ∅
  visitedSteps := 0
  limitExceeded := false

/-- The state after the loop. The step limit bounds the number of turns. -/
def final (artifact : Artifact) (rootType targetType : String) : RouteSearch :=
  runLoop halted (step artifact targetType) (maxPublicImpactSteps + 2)
    (initial artifact rootType)

end RouteSearch

/-- The routes from a root type to a target type, and whether a limit cut the search.
[SRC lib.rs:1410-1462] -/
def routesToType (artifact : Artifact) (rootType targetType : String) :
    OrderedSet (List ImpactStep) × Bool :=
  let search := RouteSearch.final artifact rootType targetType
  (search.result, search.limitExceeded)

/-! ### All boundaries and changed types -/

/-- The user types of both artifacts whose definitions differ. [SRC lib.rs:1350-1360] -/
def changedTypes (source target : Artifact) : List String :=
  source.userTypes.toList.filterMap fun (name, before) =>
    if target.userTypes[name]?.any (·.canonical ≠ before.canonical) then some name else none

/-- The boundaries of both artifacts whose function keeps its definition. [SRC lib.rs:1362-1386] -/
def retainedBoundaries (source target : Artifact) : List PublicTypeBoundary :=
  let sourceBoundaries := Std.ExtTreeSet.ofList source.publicTypeBoundaries compare
  let targetBoundaries := Std.ExtTreeSet.ofList target.publicTypeBoundaries compare
  (sourceBoundaries.toList.filter (targetBoundaries.contains ·)).filter fun boundary =>
    source.functions[boundary.function]?.map (·.canonical) =
      target.functions[boundary.function]?.map (·.canonical)

/-- The impacts of one changed type on one boundary. [SRC lib.rs:1391-1406] -/
def traceImpact (source target : Artifact) (boundary : PublicTypeBoundary)
    (changedType : String) : List PublicImpact × Bool :=
  let (sourceRoutes, sourceLimited) := routesToType source boundary.rootType changedType
  let (targetRoutes, targetLimited) := routesToType target boundary.rootType changedType
  let impacts := (sourceRoutes.toList.filter (targetRoutes.contains ·)).map fun steps =>
    { changedType := changedType
      boundary := boundary
      steps := steps
      structuralReachability := .fact
      runtimeCompatibility := .unknown : PublicImpact }
  (impacts, sourceLimited || targetLimited)

/-- All impacts of changed types on retained boundaries, ordered and without repetition, and whether
any search was cut. Every pair is searched with limits of its own. [SRC lib.rs:1349-1408] -/
def tracePublicImpacts (source target : Artifact) : List PublicImpact × Bool :=
  let traced := (retainedBoundaries source target).flatMap fun boundary =>
    (changedTypes source target).map (traceImpact source target boundary)
  ((Std.ExtTreeSet.ofList (traced.flatMap (·.1)) compare).toList, traced.any (·.2))

end SorobanUpgrades
