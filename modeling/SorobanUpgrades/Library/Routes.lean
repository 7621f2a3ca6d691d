/-
Module: SorobanUpgrades.Library.Routes
Purpose: Paths that visit no node twice, in a graph whose edges are told apart,
  and the recursion that a depth-first enumeration of them follows.
Trusted boundary: none
Main exports: EdgeGraph, EdgeGraph.IsWalk, EdgeGraph.IsRoute, EdgeGraph.routesFrom,
  EdgeGraph.routesFrom_goal, EdgeGraph.routesFrom_visited, EdgeGraph.routesFrom_expand
-/
import Mathlib

namespace SorobanUpgrades

/-- A graph with parallel edges. -/
structure EdgeGraph (ν ε : Type) where
  edges : Set ε
  origin : ε → ν
  destination : ε → ν

namespace EdgeGraph

variable {ν ε : Type} (graph : EdgeGraph ν ε)

/-- The path follows edges of the graph from `root` to `goal`. -/
def IsWalk : ν → ν → List ε → Prop
  | root, goal, [] => root = goal
  | root, goal, edge :: path =>
      edge ∈ graph.edges ∧ graph.origin edge = root ∧ IsWalk (graph.destination edge) goal path

/-- The nodes a path visits, in order. -/
def visits (root : ν) (path : List ε) : List ν := root :: path.map graph.destination

/-- A walk from `root` to `goal` that visits no node twice. -/
structure IsRoute (root goal : ν) (path : List ε) : Prop where
  walk : graph.IsWalk root goal path
  simple : (graph.visits root path).Nodup

/-- The routes to the goal that extend a prefix and avoid the nodes of `active`. -/
def routesFrom (goal node : ν) (path : List ε) (active : Set ν) : Set (List ε) :=
  { route | ∃ rest, route = path ++ rest ∧ graph.IsRoute node goal rest ∧
      ∀ visited ∈ graph.visits node rest, visited ∉ active }

variable {graph} {root goal node : ν} {path : List ε} {active : Set ν}

theorem goal_mem_visits (walk : graph.IsWalk root goal path) :
    goal ∈ graph.visits root path := by
  induction path generalizing root with
  | nil => exact List.mem_singleton.2 walk.symm
  | cons edge path inductionHypothesis =>
      exact List.mem_cons_of_mem _ (inductionHypothesis walk.2.2)

/-- From the goal only the empty path is left. -/
theorem routesFrom_goal (outside : goal ∉ active) :
    graph.routesFrom goal goal path active = {path} := by
  ext route
  constructor
  · rintro ⟨rest, rfl, ⟨walk, simple⟩, _⟩
    cases rest with
    | nil => exact congrArg (path ++ ·) rfl |>.trans (List.append_nil path)
    | cons edge rest =>
        rw [visits, List.nodup_cons] at simple
        exact absurd (goal_mem_visits walk.2.2) simple.1
  · rintro rfl
    refine ⟨[], (List.append_nil _).symm, ⟨rfl, List.nodup_singleton _⟩, ?_⟩
    intro visited listed
    rw [List.mem_singleton.1 listed]
    exact outside

/-- No route leaves a node that is already on the path. -/
theorem routesFrom_visited (inside : node ∈ active) :
    graph.routesFrom goal node path active = ∅ := by
  rw [Set.eq_empty_iff_forall_notMem]
  rintro route ⟨rest, _, _, avoids⟩
  exact avoids node List.mem_cons_self inside

/-- From any other node a route takes one of its edges. -/
theorem routesFrom_expand (outside : node ∉ active) (away : node ≠ goal) :
    graph.routesFrom goal node path active =
      { route | ∃ edge ∈ graph.edges, graph.origin edge = node ∧
          route ∈ graph.routesFrom goal (graph.destination edge) (path ++ [edge])
            (insert node active) } := by
  ext route
  constructor
  · rintro ⟨rest, rfl, ⟨walk, simple⟩, avoids⟩
    cases rest with
    | nil => exact absurd walk away
    | cons edge rest =>
        obtain ⟨listed, origin, walk⟩ := walk
        rw [visits, List.nodup_cons] at simple
        refine ⟨edge, listed, origin, rest, by simp, ⟨walk, simple.2⟩, ?_⟩
        rintro visited onward (rfl | earlier)
        · exact simple.1 onward
        · exact avoids visited (List.mem_cons_of_mem _ onward) earlier
  · rintro ⟨edge, listed, origin, rest, rfl, ⟨walk, simple⟩, avoids⟩
    refine ⟨edge :: rest, by simp, ⟨⟨listed, origin, walk⟩, ?_⟩, ?_⟩
    · exact List.nodup_cons.2 ⟨fun onward => avoids node onward (Or.inl rfl), simple⟩
    · intro visited onward
      rcases List.mem_cons.1 onward with rfl | later
      · exact outside
      · exact fun earlier => avoids visited later (Or.inr earlier)

/-- With nothing on the path yet, these are all the routes. -/
theorem mem_routesFrom_empty {route : List ε} :
    route ∈ graph.routesFrom goal root [] ∅ ↔ graph.IsRoute root goal route := by
  constructor
  · rintro ⟨rest, rfl, isRoute, _⟩
    exact isRoute
  · intro isRoute
    exact ⟨route, rfl, isRoute, fun _ _ => id⟩

end EdgeGraph

end SorobanUpgrades
