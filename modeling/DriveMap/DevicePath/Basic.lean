import DriveMap.Node
/-!
# Device paths

A device path is a list of nodes none of which is the end-entire node; written out, the end-entire node follows the
last of them.  The node before it is the leaf: for a disk it names the transport, for a partition it is a hard drive
node.

A path cannot be malformed: whoever builds one shows that no end-entire node stands inside it.
-/
namespace DriveMap

structure DevicePath where
  nodes : List Node
  noEnd : ∀ n ∈ nodes, n.isEndEntire = false
deriving DecidableEq

namespace DevicePath

/-- The path that is nothing but its end. -/
def empty : DevicePath := ⟨[], fun _ h => nomatch h⟩

/-- One more node in front. -/
def cons (n : Node) (p : DevicePath) (h : n.isEndEntire = false) : DevicePath :=
  ⟨n :: p.nodes, List.forall_mem_cons.2 ⟨h, p.noEnd⟩⟩

/-- One more node at the end, as the new leaf. -/
def snoc (p : DevicePath) (n : Node) (h : n.isEndEntire = false) : DevicePath :=
  ⟨p.nodes ++ [n], fun m hm => (List.mem_append.1 hm).elim (p.noEnd m) fun hn => List.mem_singleton.1 hn ▸ h⟩

/-- Some of a path's nodes, in any order, are a path again. -/
def ofSubset (p : DevicePath) (nodes : List Node) (h : nodes ⊆ p.nodes) : DevicePath :=
  ⟨nodes, fun n hn => p.noEnd n (h hn)⟩

/-- The nodes as they are written out, the end-entire node last. -/
def allNodes (p : DevicePath) : List Node := p.nodes ++ [Node.endEntire]

def bytes (p : DevicePath) : Bytes := p.allNodes.flatMap Node.bytes

def size (p : DevicePath) : Nat := Node.totalSize p.allNodes

def isEmpty (p : DevicePath) : Bool := p.nodes.isEmpty

def leaf? (p : DevicePath) : Option Node := p.nodes.getLast?

/-- Where each of some nodes starts, the first of them at `start`. -/
def offsetsFrom (start : Nat) : List Node → List Nat
  | [] => []
  | n :: rest => start :: offsetsFrom (start + n.size) rest

/-- Where each node starts. -/
def offsets (p : DevicePath) : List Nat := offsetsFrom 0 p.nodes

/-- Where each node starts, the end-entire node included. -/
def allOffsets (p : DevicePath) : List Nat := offsetsFrom 0 p.allNodes

/-- Where the leaf starts. -/
def leafOffset? (p : DevicePath) : Option Nat := p.offsets.getLast?

/-- The nodes in brackets; the end-entire node goes without saying. -/
def text (p : DevicePath) : String := Text.list (p.nodes.map Node.text)

theorem ext_nodes {p q : DevicePath} (h : p.nodes = q.nodes) : p = q := by
  cases p; cases q; cases h; rfl

theorem length_offsetsFrom : ∀ (start : Nat) (nodes : List Node), (offsetsFrom start nodes).length = nodes.length
  | _, [] => rfl
  | start, n :: rest => by rw [offsetsFrom, List.length_cons, List.length_cons, length_offsetsFrom]

theorem length_flatMap_bytes : ∀ nodes : List Node, (nodes.flatMap Node.bytes).length = Node.totalSize nodes
  | [] => rfl
  | n :: rest => by
    rw [List.flatMap_cons, List.length_append, n.length_bytes, length_flatMap_bytes rest]
    rfl

/-- **A path takes exactly as many bytes as its nodes say.** -/
theorem length_bytes (p : DevicePath) : p.bytes.length = p.size := length_flatMap_bytes p.allNodes

/-! ## Parts of a path

The tail that starts at a given byte, the path without its leaf, and the path up to the first node of a type.  Each is a
list of nodes taken from the path, so each is a path.
-/

/-- The first `k` nodes. -/
def take (p : DevicePath) (k : Nat) : DevicePath := p.ofSubset (p.nodes.take k) (List.take_subset k _)

/-- All but the first `k` nodes. -/
def drop (p : DevicePath) (k : Nat) : DevicePath := p.ofSubset (p.nodes.drop k) (List.drop_subset k _)

/-- The path that starts at byte `offset`, if a node or the end of the path starts there. -/
def suffix? (p : DevicePath) (offset : Nat) : Option DevicePath :=
  (p.allOffsets.findIdx? (· == offset)).map p.drop

/-- The path without its leaf, if it has one. -/
def truncateLeaf? (p : DevicePath) : Option DevicePath :=
  if p.isEmpty then none else some (p.take (p.nodes.length - 1))

/-- The nodes before the first one of type `t`: all of them if there is none. -/
def truncateAt (p : DevicePath) (t : NodeType) : DevicePath :=
  p.ofSubset (p.nodes.takeWhile fun n => n.nodeType != t) (List.takeWhile_subset _)

end DevicePath
end DriveMap
