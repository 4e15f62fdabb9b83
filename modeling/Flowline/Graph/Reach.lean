import Flowline.Graph.Basic

/-!
# Reachability

What can be reached along the edges, against them and in either direction, and the nodes that a run
of one trigger evaluates.
-/

namespace Flowline

/-- `seen` together with all that `next` leads to from `frontier` in at most `fuel` rounds; the frontier
is part of what was seen. -/
def expand (next : String → List String) : Nat → List String → List String → List String
  | 0, seen, _ => seen
  | fuel + 1, seen, frontier =>
    let fresh := distinct ((frontier.flatMap next).filter (! seen.contains ·))
    if fresh.isEmpty then seen else expand next fuel (seen ++ fresh) fresh

namespace Graph

variable (g : Graph)

/-- Declared ids together with all that `next` leads to from them. -/
def closureOf (next : String → List String) (ids : List String) : Ids :=
  Ids.ofList (expand next g.ids.length ids ids)

/-- All that `next` leads to from a node, the node included; nothing from an undeclared id. -/
def closure (next : String → List String) (id : String) : Ids :=
  if g.contains id then g.closureOf next [id] else []

/-- The nodes to which a path leads from `id`. -/
def reachable (id : String) : Ids := g.closure g.successors id

/-- The nodes from which a path leads to `id`. -/
def ancestors (id : String) : Ids := g.closure g.predecessors id

/-- The nodes that a run of a trigger evaluates: what it reaches and the ancestors of that, other
triggers apart. -/
def scope (isTrigger : String → Bool) (trigger : String) : Ids :=
  let reached := g.reachable trigger
  let feeding := (g.closureOf g.predecessors reached).filter (! isTrigger ·)
  Ids.ofList (distinct (reached ++ feeding))

/-- The nodes joined to `id` by edges taken in either direction. -/
def component (id : String) : Ids :=
  g.closure (fun x => g.successors x ++ g.predecessors x) id

/-- The components, in the order of their least ids. -/
def components : List Ids :=
  (Ids.ofList g.ids).foldl
    (fun found id => if found.any (·.contains id) then found else found ++ [g.component id]) []

end Graph

end Flowline
