import Flowline.Graph.Basic

/-!
# Topological order

Nodes are taken one by one, always the least id among those all of whose incoming edges come from
nodes taken before.  If some nodes remain, one cycle among them is found by walking against the edges.
-/

namespace Flowline

/-- A pipeline has a directed cycle; the ids are those of one, in the direction of its edges, from the
one declared first. -/
structure Cycle where
  ids : List String
  deriving DecidableEq

def Cycle.message (c : Cycle) : String :=
  "pipeline contains a cycle: " ++ String.intercalate " -> " c.ids

/-- How far the nodes have been taken. -/
structure Sorting where
  /-- For each node, the number of its incoming edges whose tail is not taken yet. -/
  degree : String → Nat
  /-- The nodes that can be taken, in order. -/
  ready : Ids
  /-- The nodes taken so far. -/
  taken : List String

namespace Sorting

/-- An edge into `id` has lost its tail. -/
def release (s : Sorting) (id : String) : Sorting :=
  let d := s.degree id - 1
  { s with
    degree := fun x => if x = id then d else s.degree x
    ready := if d = 0 then Ids.insert id s.ready else s.ready }

/-- Takes a node that is ready. -/
def take (g : Graph) (s : Sorting) (id : String) (rest : Ids) : Sorting :=
  (g.successors id).foldl release { s with ready := rest, taken := s.taken ++ [id] }

/-- Takes nodes until none is ready, at most `fuel` of them. -/
def run (g : Graph) : Nat → Sorting → Sorting
  | 0, s => s
  | fuel + 1, s =>
    match s.ready with
    | [] => s
    | id :: rest => run g fuel (s.take g id rest)

end Sorting

namespace Graph

variable (g : Graph)

def degree (id : String) : Nat := (g.predecessors id).length

/-- No node is taken yet. -/
def unsorted : Sorting where
  degree := g.degree
  ready := Ids.ofList (g.ids.filter fun id => g.degree id = 0)
  taken := []

/-- All nodes that can be taken are. -/
def sorted : Sorting := g.unsorted.run g g.ids.length

/-- The least text of a list. -/
def least? : List String → Option String
  | [] => none
  | x :: xs =>
    match least? xs with
    | none => some x
    | some y => if y < x then some y else some x

/-- Among the tails of a node's incoming edges that satisfy `p`, the least. -/
def leastPredecessor? (p : String → Bool) (id : String) : Option String :=
  least? ((g.predecessors id).filter p)

/-- Walks from `current` against the edges, at most `fuel` steps, until a node comes up again; gives
the loop closed by it.  The nodes visited so far come latest first, which is the direction of the
edges. -/
def loop (back : String → Option String) : Nat → List String → String → List String
  | 0, visited, _ => visited
  | fuel + 1, visited, current =>
    if visited.contains current then visited.takeWhile (· ≠ current) ++ [current]
    else match back current with
      | some id => loop back fuel (current :: visited) id
      | none => current :: visited

/-- A loop turned so that it starts with the member declared first. -/
def fromFirst (members : List String) : List String :=
  match g.ids.find? (members.contains ·) with
  | none => members
  | some first => members.dropWhile (· ≠ first) ++ members.takeWhile (· ≠ first)

/-- A cycle among the nodes that satisfy `p`, each of which has a predecessor that does. -/
def cycleAmong (p : String → Bool) : Cycle :=
  match g.ids.find? p with
  | none => ⟨[]⟩
  | some start => ⟨g.fromFirst (loop (g.leastPredecessor? p) (g.ids.length + 1) [] start)⟩

/-- All ids, each after those from which an edge leads to it, or a cycle. -/
def order : Except Cycle (List String) :=
  let s := g.sorted
  if s.taken.length = g.ids.length then .ok s.taken
  else .error (g.cycleAmong fun id => 0 < s.degree id)

end Graph

end Flowline
