import Playpen.Cancellation
import Playpen.Concurrent
import Playpen.Http.Exchange
import Playpen.Proofs.ClosingReport
import Playpen.Report.Notice
import Playpen.Guest.Script
import Playpen.Runner
import Playpen.Store.Memory
import Playpen.Proofs.Concurrent
import Playpen.Proofs.SingleFlight
import Playpen.Proofs.FreshReset
import Playpen.Proofs.ReportLanguage
import Playpen.Proofs.Agreement
import Playpen.Proofs.Judgement
import Playpen.Proofs.Recovery
import Playpen.Proofs.Attempts
import Playpen.Proofs.Untruncated
import Playpen.Proofs.FailOpen
import Playpen.Race
import Playpen.Proofs.Prospect
import Playpen.Proofs.Race
import Playpen.Proofs.FileTree
import Playpen.Proofs.EntryNames
import Playpen.Proofs.DiskStore
import Playpen.Proofs.StoreAgreement
import Playpen.Proofs.DiskFaults
import Playpen.Engine
import Playpen.Proofs.Cancellation
import Playpen.Proofs.Engine
import Playpen.Store.Folder
import Playpen.Store.Traffic
import Playpen.Proofs.Traffic
import Playpen.Proofs.AtOnce
import Playpen.Proofs.FaultFree
import Playpen.Proofs.Turns
import Playpen.Service
import Playpen.Proofs.Errors
import Playpen.Proofs.Refinement
import Playpen.Proofs.Tasks
import Playpen.Proofs.FallibleStores
import Playpen.Proofs.CacheFirst
import Playpen.Supply
import Playpen.Proofs.Provenance
import Playpen.Proofs.LostInterrupt
import Playpen.Proofs.InputLines
import Playpen.Proofs.ClosingLine
import Playpen.Proofs.OutputLimit
import Playpen.Proofs.SyntaxLocation
import Playpen.Proofs.Classification
import Playpen.Proofs.Handover
import Playpen.Proofs.Environment
import Playpen.Proofs.LimitMessage
import Playpen.Bridge
import Playpen.Proofs.StreamAccounts
import Playpen.Proofs.FlagFamilies
import Playpen.Proofs.AtOnce
