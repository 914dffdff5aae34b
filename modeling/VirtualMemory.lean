import VirtualMemory.Config.Decoder
import VirtualMemory.Page.Arena
import VirtualMemory.Space.Caller
import VirtualMemory.Store.Faults
import VirtualMemory.Proofs.Operation.Ends
import VirtualMemory.Proofs.Page.Encoding
import VirtualMemory.Proofs.Page.Place
import VirtualMemory.Proofs.Page.Table
import VirtualMemory.Proofs.Config.Geometry
import VirtualMemory.Proofs.Store.Backed
import VirtualMemory.Proofs.Store.Worlds
import VirtualMemory.Proofs.Paging.Agreement
import VirtualMemory.Proofs.Paging.Teardown
import VirtualMemory.Proofs.Space.Command
import VirtualMemory.Proofs.Space.Access
import VirtualMemory.Proofs.System.Custody
import VirtualMemory.Proofs.System.Contents
import VirtualMemory.Proofs.Area.Growth
import VirtualMemory.Proofs.Heap.Tiling
import VirtualMemory.Proofs.Space.Outcomes
import VirtualMemory.Proofs.Heap.Accounting
import VirtualMemory.Proofs.Store.Reliable
import VirtualMemory.Proofs.Paging.Capacity
import VirtualMemory.Proofs.Operation.Matches
import VirtualMemory.Proofs.Space.Covered
import VirtualMemory.Proofs.Space.Twins
import VirtualMemory.Proofs.System.Modes
import VirtualMemory.Proofs.Space.Failures
import VirtualMemory.Proofs.Space.Residents
import VirtualMemory.Proofs.Page.Arena
import VirtualMemory.Proofs.Heap.Separation
import VirtualMemory.Proofs.Space.Direct
import VirtualMemory.Proofs.System.Ownership
import VirtualMemory.Proofs.Area.Order
import VirtualMemory.Proofs.Store.Pool
import VirtualMemory.Proofs.Space.Demand
import VirtualMemory.Proofs.Paging.Recency
import VirtualMemory.Proofs.Space.Recency
import VirtualMemory.Proofs.Operation.Reports
import VirtualMemory.Proofs.Paging.Within
import VirtualMemory.Proofs.Space.Confined
import VirtualMemory.Proofs.Space.InRange
import VirtualMemory.Proofs.Area.Reservation
import VirtualMemory.Proofs.Paging.Housed
import VirtualMemory.Proofs.Space.Release
import VirtualMemory.Proofs.Paging.Rollback
import VirtualMemory.Proofs.System.Rollback
import VirtualMemory.Proofs.Store.Swap
import VirtualMemory.Proofs.Paging.SwapSlots
import VirtualMemory.Proofs.Space.SwapSlots
import VirtualMemory.Proofs.Space.Course
import VirtualMemory.Proofs.Space.Exchange
import VirtualMemory.Proofs.Paging.Supply
import VirtualMemory.Proofs.Space.Admission
import VirtualMemory.Proofs.Heap.FirstFit
import VirtualMemory.Proofs.Store.Copy
import VirtualMemory.Proofs.Page.Tree
import VirtualMemory.Proofs.Paging.Edits
import VirtualMemory.Proofs.Space.Arena
import VirtualMemory.Proofs.Paging.Written
import VirtualMemory.Proofs.Space.Written
import VirtualMemory.Proofs.Toml.Regular
import VirtualMemory.Proofs.Config.Choices
import VirtualMemory.Proofs.Config.Accepted
