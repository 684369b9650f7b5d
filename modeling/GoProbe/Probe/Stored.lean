import GoProbe.Analysis.Stored

/-!
# Probe requests and reports

A request names the directory of a package and the functions to count for; the report says where
the probed copy stands and which probes belong to which of these functions.
-/

namespace GoProbe

open Json (Decoder Row)

structure ProbeRequest where
  package : String
  tracked : List String := []
deriving DecidableEq, Repr, Inhabited

structure ProbeReport where
  package : String
  moduleCopy : String
  counters : Dict (List Nat)
deriving Inhabited

namespace ProbeRequest

def toJson (request : ProbeRequest) : Json :=
  .object [("targetModulePath", .string request.package),
    ("trackedFunctionNames", .listOf .string request.tracked)]

def decoder : Decoder ProbeRequest :=
  .record do
    return { package := ← .field "targetModulePath" .string
             tracked := ← .listOr "trackedFunctionNames" .string }

end ProbeRequest

namespace ProbeReport

def toJson (report : ProbeReport) : Json :=
  .object [("instrumentedPackagePath", .string report.package),
    ("instrumentedModuleCopyPath", .string report.moduleCopy),
    ("trackedFunctionToCounterIds", report.counters.toJson (.listOf .nat))]

def decoder : Decoder ProbeReport :=
  .record do
    return { package := ← .field "instrumentedPackagePath" .string
             moduleCopy := ← .field "instrumentedModuleCopyPath" .string
             counters := ← .field "trackedFunctionToCounterIds" (.dict (.list .nat64)) }

end ProbeReport

end GoProbe
