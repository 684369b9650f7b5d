/-!
# Disks

A disk maps places to nodes. A place is the list of names from the root, and the root itself is
always a directory. Places below a directory are told by their names alone, so a directory is
listed by looking at all places.
-/

namespace GoProbe

/-- The names that lead from the root to a node. -/
abbrev Place := List String

inductive DiskNode where
  | file (content : ByteArray) (executable : Bool)
  | dir
  | link (target : String)
deriving Inhabited

namespace DiskNode

def isDir : DiskNode → Bool
  | dir => true
  | _ => false

def isFile : DiskNode → Bool
  | file _ _ => true
  | _ => false

end DiskNode

structure Disk where
  nodes : List (Place × DiskNode) := []
deriving Inhabited

namespace Disk

/-- The node at a place. -/
def node? (disk : Disk) : Place → Option DiskNode
  | [] => some .dir
  | place => disk.nodes.lookup place

/-- All places where something stands, the root first. -/
def entries (disk : Disk) : List (Place × DiskNode) :=
  ([], .dir) :: disk.nodes

/-- Replaces the node at a place, or adds it at the end. -/
def putNode (place : Place) (node : DiskNode) :
    List (Place × DiskNode) → List (Place × DiskNode)
  | [] => [(place, node)]
  | (p, n) :: rest => if p == place then (p, node) :: rest else (p, n) :: putNode place node rest

/-- Puts a node to a place; the root stays as it is. -/
def put (disk : Disk) (place : Place) (node : DiskNode) : Disk :=
  if place.isEmpty then disk else { nodes := putNode place node disk.nodes }

/-- Removes a place and everything below it. -/
def remove (disk : Disk) (place : Place) : Disk :=
  { nodes := disk.nodes.filter fun entry => !place.isPrefixOf entry.1 }

/-- The name under which a place stands directly in a directory. -/
def childName? (dir place : Place) : Option String :=
  if place.dropLast == dir then place.getLast? else none

/-- The nodes that stand directly in a directory. -/
def children (disk : Disk) (dir : Place) : List (String × DiskNode) :=
  disk.nodes.filterMap fun entry => (childName? dir entry.1).map (·, entry.2)

end Disk

end GoProbe
