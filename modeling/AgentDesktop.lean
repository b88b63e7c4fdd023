import AgentDesktop.FirstMatch
import AgentDesktop.DataIsland
import AgentDesktop.TraversalComplete
import AgentDesktop.Delivery
import AgentDesktop.Allocation
import AgentDesktop.Coverage
import AgentDesktop.Truncation
import AgentDesktop.NativePath
import AgentDesktop.PathFirst
import AgentDesktop.RefHistory
import AgentDesktop.RefCommands
import AgentDesktop.RequirementsSuffice
import AgentDesktop.GateSoundness
import AgentDesktop.SessionRuns
import AgentDesktop.BatchAccounting
import AgentDesktop.BatchOutput
import AgentDesktop.DragRun
import AgentDesktop.ChainRun
import AgentDesktop.BalancedInput
import AgentDesktop.ClipboardGuard
import AgentDesktop.EventObserved
import AgentDesktop.LeaseExclusion
import AgentDesktop.LivenessRuns
import AgentDesktop.ScrollReport
import AgentDesktop.RetainedStore
import AgentDesktop.TraceSanitize
import AgentDesktop.SnapshotPrune
import AgentDesktop.TraceOrder
import AgentDesktop.DeadlineScope
import AgentDesktop.HydrateSound
import AgentDesktop.UniqueMatch
import AgentDesktop.VerifiedDelivery
import AgentDesktop.TextInsertion
import AgentDesktop.ForestProjection
import AgentDesktop.SegmentGrammar
import AgentDesktop.TraceMerge
import AgentDesktop.UnpairedCommands
import AgentDesktop.TraceEventSize
import AgentDesktop.StabilityWindow
import AgentDesktop.SignalLaws
import AgentDesktop.NewNotification
import AgentDesktop.RefToken
import AgentDesktop.FlattenTree
import AgentDesktop.TraversalAccounts
import AgentDesktop.CheckState
import AgentDesktop.DisclosureRun
import AgentDesktop.IncrementRun
import AgentDesktop.Increment
import AgentDesktop.AtomicWriteRun
import AgentDesktop.CdpEndpoint
import AgentDesktop.CdpProbe
import AgentDesktop.TextChunks
import AgentDesktop.TypingSafe
import AgentDesktop.WindowIdentity
import AgentDesktop.CollectionUnique
import AgentDesktop.HitTestSound
import AgentDesktop.IntoViewReport
import AgentDesktop.GlobalSnapshot
import AgentDesktop.TextSettled
import AgentDesktop.IdentifierOrder
import AgentDesktop.ChildPages
import AgentDesktop.RefmapArtifact
import AgentDesktop.CommandHostRuns
import AgentDesktop.TraceReadBack
