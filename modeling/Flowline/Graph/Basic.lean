import Flowline.Ordered
import Flowline.Pipeline.Basic

/-!
# The graph of a pipeline

The distinct ids of a pipeline's nodes and the edges between them.  What is left out, repeated ids and
edges that lead from or to nowhere, is kept beside it.
-/

namespace Flowline

/-- The members of a list without later repetitions. -/
def distinct : List String → List String
  | [] => []
  | x :: xs => x :: (distinct xs).filter (· ≠ x)

@[simp] theorem mem_distinct {x : String} {xs : List String} : x ∈ distinct xs ↔ x ∈ xs := by
  induction xs with
  | nil => simp [distinct]
  | cons y ys ih => by_cases h : x = y <;> simp [distinct, ih, h]

theorem nodup_distinct (xs : List String) : (distinct xs).Nodup := by
  induction xs with
  | nil => exact List.nodup_nil
  | cons y ys ih => exact List.nodup_cons.mpr ⟨by simp, ih.filter _⟩

/-- The members of a list that occur in `seen` or earlier in the list. -/
def repeats (seen : List String) : List String → List String
  | [] => []
  | x :: xs => if seen.contains x then x :: repeats seen xs else repeats (x :: seen) xs

structure Graph where
  /-- In order of first declaration. -/
  ids : List String
  /-- The edges both of whose ends are declared. -/
  edges : List Edge
  /-- Ids declared more than once, in the order of their first repetition. -/
  duplicates : List String
  /-- The other edges, in order of declaration. -/
  dangling : List Edge
  ids_nodup : ids.Nodup
  edges_within : ∀ e ∈ edges, e.source ∈ ids ∧ e.target ∈ ids

/-- One edge as seen from one of its ends. -/
structure Link where
  peer : String
  localPort : String
  peerPort : String
  deriving DecidableEq

/-- The order of links: by local port, then peer, then the peer's port. -/
def Link.before (a b : Link) : Bool :=
  a.localPort < b.localPort ||
    (a.localPort = b.localPort && (a.peer < b.peer || (a.peer = b.peer && a.peerPort < b.peerPort)))

/-- Puts a link in front of the first that is not before it. -/
def Link.place (l : Link) : List Link → List Link
  | [] => [l]
  | x :: xs => if x.before l then x :: place l xs else l :: x :: xs

/-- Links in their order. -/
def Link.sort (links : List Link) : List Link := links.foldr Link.place []

theorem Link.mem_place {l m : Link} {links : List Link} : m ∈ l.place links ↔ m = l ∨ m ∈ links := by
  induction links with
  | nil => simp [place]
  | cons x xs ih =>
    simp only [place]
    split
    · simp [ih, or_left_comm]
    · simp

@[simp] theorem Link.mem_sort {m : Link} {links : List Link} : m ∈ sort links ↔ m ∈ links := by
  induction links with
  | nil => simp [sort]
  | cons x xs ih => simpa [sort, mem_place] using or_congr_right ih

/-- Whether both ends of an edge are among the ids. -/
def Edge.isWithin (e : Edge) (ids : List String) : Bool :=
  ids.contains e.source && ids.contains e.target

theorem Edge.isWithin_iff {e : Edge} {ids : List String} :
    e.isWithin ids ↔ e.source ∈ ids ∧ e.target ∈ ids := by
  simp [isWithin]

namespace Graph

def ofPipeline (p : Pipeline) : Graph :=
  let declared := p.nodes.map Node.id
  { ids := distinct declared
    edges := p.edges.filter (·.isWithin declared)
    duplicates := distinct (repeats [] declared)
    dangling := p.edges.filter (! ·.isWithin declared)
    ids_nodup := nodup_distinct declared
    edges_within := by simp [Edge.isWithin_iff] }

variable (g : Graph)

def contains (id : String) : Bool := g.ids.contains id

/-- The heads of the edges that leave a node, one for each edge. -/
def successors (id : String) : List String :=
  (g.edges.filter (·.source = id)).map Edge.target

/-- The tails of the edges that enter a node, one for each edge. -/
def predecessors (id : String) : List String :=
  (g.edges.filter (·.target = id)).map Edge.source

/-- The edges that enter a node, in the order of links. -/
def incoming (id : String) : List Link :=
  Link.sort ((g.edges.filter (·.target = id)).map fun e => ⟨e.source, e.targetPort, e.sourcePort⟩)

/-- The edges that leave a node, in the order of links. -/
def outgoing (id : String) : List Link :=
  Link.sort ((g.edges.filter (·.source = id)).map fun e => ⟨e.target, e.sourcePort, e.targetPort⟩)

/-- The first edge that enters a port. -/
def input? (id port : String) : Option Link := (g.incoming id).find? (·.localPort = port)

end Graph

end Flowline
