import GoProbe.Analysis.Stored
import GoProbe.Resolver.Basic

/-!
# Batches

A batch asks about several files. Its reports stand in the order of the requests; one file without
a tree or with an unresolved slot fails the whole batch.
-/

namespace GoProbe

open Json (Decoder Row)

structure BatchRequest where
  targets : List FileRequest
deriving DecidableEq, Repr, Inhabited

structure BatchReport where
  results : List FileReport
  /-- Width of `int` in bits. -/
  intSize : Nat
deriving Inhabited

namespace BatchRequest

def toJson (request : BatchRequest) : Json :=
  .object [("targets", .listOf FileRequest.toJson request.targets)]

def decoder : Decoder BatchRequest :=
  .record do return { targets := ← .field "targets" (.list FileRequest.decoder) }

end BatchRequest

namespace BatchReport

def toJson (report : BatchReport) : Json :=
  .object [("results", .listOf FileReport.toJson report.results), ("intSize", .nat report.intSize)]

def decoder : Decoder BatchReport :=
  .record do
    return { results := ← .field "results" (.list FileReport.decoder)
             intSize := ← .field "intSize" .nat32 }

end BatchReport

namespace FileRequest

/-- The report on one file, its tree taken from a resolver. -/
def report (request : FileRequest) (resolver : Resolver) (host : Host) :
    Except Failure FileReport := do
  let file ← resolver.load host request.path
  (file.report request).mapError .unresolved

end FileRequest

namespace BatchRequest

/-- The reports on all files. -/
def report (request : BatchRequest) (resolver : Resolver) (intSize : Nat) (host : Host) :
    Except Failure BatchReport := do
  return { results := ← request.targets.mapM (·.report resolver host), intSize }

end BatchRequest

end GoProbe
