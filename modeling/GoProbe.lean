import GoProbe.Main
import GoProbe.Proofs.ArmsProbed
import GoProbe.Proofs.Attribution
import GoProbe.Proofs.Erasure
import GoProbe.Proofs.ProbeReplacement
import GoProbe.Proofs.Refusal
import GoProbe.Proofs.Renumbering
import GoProbe.Proofs.Sessions
import GoProbe.Proofs.TracedCopies
import GoProbe.Settings.Stored
import GoProbe.Proofs.Tracking
import GoProbe.Proofs.Grammar
import GoProbe.Proofs.ReadBack
import GoProbe.Proofs.JsonText
import GoProbe.Proofs.JsonDecoding
import GoProbe.Proofs.StoredRecords
import GoProbe.Proofs.Occurrences
import GoProbe.Proofs.PrintedProbes
import GoProbe.Proofs.TypePools
import GoProbe.Proofs.SupportedSignatures
import GoProbe.Proofs.SignatureRecords
import GoProbe.Proofs.AscendingLists
import GoProbe.Proofs.Accounting
import GoProbe.Proofs.DiskNodes
import GoProbe.Proofs.NamedRequests
import GoProbe.Proofs.Locating
import GoProbe.Proofs.HostRuns
import GoProbe.Proofs.CopiedModules
import GoProbe.Proofs.ProbedCopies
import GoProbe.Proofs.IsolatedRuns
import GoProbe.Proofs.CommandOutcomes
import GoProbe.Proofs.ReachableTypes
import GoProbe.Proofs.UnderlyingShapes
import GoProbe.Proofs.MissingTypes
import GoProbe.Proofs.PredeclaredSlots
import GoProbe.Proofs.Addresses
import GoProbe.Proofs.DotImports
import GoProbe.Proofs.HarvestedSeeds
import GoProbe.Proofs.PrintedOrder
import GoProbe.Proofs.RequestedMethods
import GoProbe.Proofs.Closures
import GoProbe.Proofs.Lexemes
import GoProbe.Proofs.NearestSettings
import GoProbe.Proofs.PrintedTokens
import GoProbe.Proofs.TracedSignatures
import GoProbe.Proofs.LiteralValues
import GoProbe.Proofs.NestedStatements
