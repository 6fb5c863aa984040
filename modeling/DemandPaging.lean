import DemandPaging.Main
import DemandPaging.Client.Script
import DemandPaging.Pager.Audit
import DemandPaging.Service.Audited
import DemandPaging.Proofs.List.FirstOccurrence
import DemandPaging.Proofs.List.Answers
import DemandPaging.Proofs.Failure.Result
import DemandPaging.Proofs.Text.Lexical
import DemandPaging.Proofs.ReferenceFile.Grammar
import DemandPaging.Proofs.ReferenceFile.Sheet
import DemandPaging.Proofs.OutcomeFile.ReadBack
import DemandPaging.Proofs.Random.Draw
import DemandPaging.Proofs.Client.Generation
import DemandPaging.Proofs.Client.DrawFault
import DemandPaging.Proofs.PageTable.Cells
import DemandPaging.Proofs.PageTable.EntryMap
import DemandPaging.Proofs.PageTable.Victim
import DemandPaging.Proofs.Frame.Queue
import DemandPaging.Proofs.Frame.Calls
import DemandPaging.Proofs.Pager.Coherent
import DemandPaging.Proofs.Pager.Access
import DemandPaging.Proofs.Pager.Calls
import DemandPaging.Proofs.Pager.ListPager
import DemandPaging.Proofs.Pager.Conservation
import DemandPaging.Proofs.Pager.Reliable
import DemandPaging.Proofs.Pager.Custody
import DemandPaging.Proofs.Pager.Ledger
import DemandPaging.Proofs.Pager.Inclusion
import DemandPaging.Proofs.Pager.LastUsed
import DemandPaging.Proofs.Pager.Isolation
import DemandPaging.Proofs.Pager.References
import DemandPaging.Proofs.Pager.Interleaving
import DemandPaging.Proofs.Pager.Starvation
import DemandPaging.Proofs.Pager.StackDistance
import DemandPaging.Proofs.Pager.EnoughFrames
import DemandPaging.Proofs.Pager.Recounted
import DemandPaging.Proofs.Service.MoreFrames
import DemandPaging.Proofs.Service.Account
import DemandPaging.Proofs.Service.Queue
import DemandPaging.Proofs.Service.Reliable
import DemandPaging.Proofs.Service.Custody
import DemandPaging.Proofs.Service.Tally
import DemandPaging.Proofs.Service.HitNotices
import DemandPaging.Proofs.Service.NoTrace
import DemandPaging.Proofs.Service.Balance
import DemandPaging.Proofs.Simulation.Threads
import DemandPaging.Proofs.Simulation.Sequential
import DemandPaging.Proofs.Client.Protocol
import DemandPaging.Proofs.Admission.InOrder
import DemandPaging.Proofs.Admission.Lifecycle
import DemandPaging.Proofs.Admission.FirstCome
import DemandPaging.Proofs.Admission.OnlyEnds
import DemandPaging.Proofs.Simulation.SequentialRun
import DemandPaging.Proofs.Simulation.Visits
import DemandPaging.Proofs.Simulation.FramesLeft
import DemandPaging.Proofs.Simulation.Alone
import DemandPaging.Proofs.Simulation.Acceptance
import DemandPaging.Proofs.Simulation.Consistent
import DemandPaging.Proofs.Simulation.HitNotices
import DemandPaging.Proofs.Simulation.Earlier
import DemandPaging.Proofs.Simulation.Generated
import DemandPaging.Proofs.Simulation.Orderly
import DemandPaging.Proofs.Simulation.Foreseen
import DemandPaging.Proofs.Simulation.Conversing
import DemandPaging.Proofs.Simulation.Exchange
import DemandPaging.Proofs.Simulation.OrderlySteps
import DemandPaging.Proofs.Simulation.Interleaving
import DemandPaging.Proofs.Simulation.WorkLeft
