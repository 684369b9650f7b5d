import GoProbe.Disk.Host
import GoProbe.Json.Decode

/-!
# Hosts as JSON

A host is written with its working directory, the directory for temporary files, and all nodes of
its disk by path. The content of a file is its text, or its bytes if it is no text.
-/

namespace GoProbe

open Json (Decoder Row)

namespace DiskNode

/-- The content of a file. -/
def contentToJson (content : ByteArray) : Json :=
  match String.fromUTF8? content with
  | some text => .string text
  | none => .listOf (fun b => .nat b.toNat) content.toList

def contentDecoder : Decoder ByteArray
  | _, .string text => .ok text.toUTF8
  | levels, value => do
    let bytes ← Decoder.list (.nat 256) levels value
    return ⟨(bytes.map Nat.toUInt8).toArray⟩

def toJson : DiskNode → Json
  | dir => .string "dir"
  | link target => .tagged "link" (.string target)
  | file content executable =>
    .tagged (if executable then "program" else "file") (contentToJson content)

def decoder : Decoder DiskNode :=
  .variant fun
    | "dir" => some (.bare .dir)
    | "link" => some (.content (.map .link .string))
    | "file" => some (.content (.map (.file · false) contentDecoder))
    | "program" => some (.content (.map (.file · true) contentDecoder))
    | _ => none

end DiskNode

/-- The place that an absolute path names. -/
def Place.ofPath (path : String) : Place :=
  (Path.pieces path).filter (!Path.isIdle ·)

namespace Disk

def toJson (disk : Disk) : Json :=
  .object (disk.nodes.map fun (place, node) => (place.path, node.toJson))

def decoder : Decoder Disk :=
  .map (fun nodes => { nodes := nodes.entries.map fun (path, node) => (.ofPath path, node) })
    (.dict DiskNode.decoder)

end Disk

namespace Host

def toJson (host : Host) : Json :=
  .object [("workDir", .string host.workDir.path), ("tempDir", .string host.tempDir),
    ("nodes", host.disk.toJson)]

def decoder : Decoder Host :=
  .record do
    return { workDir := .ofPath (← .field "workDir" .string)
             tempDir := ← .fieldOr "tempDir" "/tmp" .string
             disk := ← .field "nodes" Disk.decoder }

end Host

end GoProbe
