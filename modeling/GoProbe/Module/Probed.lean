import GoProbe.Module.Copy
import GoProbe.Probe.Package
import GoProbe.Probe.Stored
import GoProbe.Resolver.Basic

/-!
# Probing a package of a module

The package is listed, resolved and probed before anything is written. Its module is then copied
and the probed files replace those of the copy, which is removed if one of them cannot be written.
-/

namespace GoProbe

variable [Faults]

/-- Writes files of a package into the copy and returns their paths. -/
def ModuleCopy.writeFiles (copy : ModuleCopy) (relative : String) (files : List PrintedFile) :
    Run (List String) :=
  files.mapM fun file => copy.write (Path.join relative file.name) file.text

namespace Run

/-- The sources of a package with their trees. -/
def resolvedSources (resolver : Resolver) (dir : String) (exclude : List String) :
    Run (List NamedSource) := do
  let names ← sourceNames dir exclude
  let host ← get
  ofExcept id <| names.mapM fun name => do
    return { name, file := ← resolver.load host (Path.join dir name) }

/-- Copies a module and writes the files of a probed package into the copy. -/
def deliver (settings : ProbeSettings) (root dir : Place) (package : ProbedPackage) :
    Run ProbeReport := do
  let copy ← ModuleCopy.create root.path (settings.outputRoot.getD (← get).tempDir)
  ModuleCopy.orRemove copy.place do
    let _ ← copy.writeFiles (root.relativePath dir) package.files
    return {
      package := Path.join copy.path (root.relativePath dir)
      moduleCopy := copy.path
      counters := package.counters }

/-- Probes a package, to a new copy of its module. -/
def probe [WordHash] (resolver : Resolver) (request : ProbeRequest) (settings : ProbeSettings) :
    Run ProbeReport := do
  let root ← findModule request.package
  let dir ← placeOf request.package
  let sources ← resolvedSources resolver dir.path settings.excludePatterns
  let package ← ofExcept .probing (probePackage sources settings request.tracked)
  deliver settings root dir package

end Run

end GoProbe
