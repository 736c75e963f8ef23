import ProtectedBoot.Address
import ProtectedBoot.Align
import ProtectedBoot.Attempt
import ProtectedBoot.Bits.Field
import ProtectedBoot.Bits.Format
import ProtectedBoot.Boot.Course
import ProtectedBoot.Boot.Error
import ProtectedBoot.Boot.Processor
import ProtectedBoot.Boot.Scripted
import ProtectedBoot.Boot.Sequence
import ProtectedBoot.Bytes
import ProtectedBoot.ControlRegister
import ProtectedBoot.Fault
import ProtectedBoot.Layout.Contract
import ProtectedBoot.Layout.Error
import ProtectedBoot.Layout.Plan
import ProtectedBoot.Layout.Section
import ProtectedBoot.LinkScript
import ProtectedBoot.Log
import ProtectedBoot.Machine.Processor
import ProtectedBoot.Machine.State
import ProtectedBoot.Machine.TwoLevel
import ProtectedBoot.Main
import ProtectedBoot.Memory
import ProtectedBoot.Multiboot.Announced
import ProtectedBoot.Multiboot.BootInfo
import ProtectedBoot.Multiboot.Cursor
import ProtectedBoot.Multiboot.Header
import ProtectedBoot.Multiboot.Information
import ProtectedBoot.Multiboot.MapRecord
import ProtectedBoot.Multiboot.MemoryMap
import ProtectedBoot.Multiboot.Scan
import ProtectedBoot.Page
import ProtectedBoot.PageSize
import ProtectedBoot.Paging.AddressSpace
import ProtectedBoot.Paging.Build
import ProtectedBoot.Paging.Demand
import ProtectedBoot.Paging.Dump
import ProtectedBoot.Paging.Entry
import ProtectedBoot.Paging.Error
import ProtectedBoot.Paging.History
import ProtectedBoot.Paging.Table
import ProtectedBoot.Paging.View
import ProtectedBoot.Paging.Walk
import ProtectedBoot.Paging.WellFormed
import ProtectedBoot.Platform
import ProtectedBoot.Privilege
import ProtectedBoot.Screen.Notice
import ProtectedBoot.Screen.StatusBoard
import ProtectedBoot.Screen.Text
import ProtectedBoot.Segment.Descriptor
import ProtectedBoot.Segment.GlobalTable
import ProtectedBoot.Segment.Image
import ProtectedBoot.Segment.Loadable
import ProtectedBoot.Segment.Selector
import ProtectedBoot.Stack
import ProtectedBoot.Text.CharSet
import ProtectedBoot.Text.GraphemeExtend
import ProtectedBoot.Text.Graphic
import ProtectedBoot.Text.Numeral
import ProtectedBoot.Text.Outline
import ProtectedBoot.Text.Quoted
import ProtectedBoot.Word
import ProtectedBoot.Proofs.Triple
import ProtectedBoot.Proofs.Paging.Entry
import ProtectedBoot.Proofs.Paging.Pool
import ProtectedBoot.Proofs.Paging.Mapping
import ProtectedBoot.Proofs.Paging.Invariant
import ProtectedBoot.Proofs.Paging.Walk
import ProtectedBoot.Proofs.Paging.Translation
import ProtectedBoot.Proofs.Paging.Range
import ProtectedBoot.Proofs.Paging.Growth
import ProtectedBoot.Proofs.Paging.Effect
import ProtectedBoot.Proofs.Paging.BootSpace
import ProtectedBoot.Proofs.Paging.Rights
import ProtectedBoot.Proofs.Layout.Validation
import ProtectedBoot.Proofs.Layout.Markers
import ProtectedBoot.Proofs.Paging.Order
import ProtectedBoot.Proofs.Paging.Confined
import ProtectedBoot.Proofs.Paging.Feasible
import ProtectedBoot.Proofs.Paging.Granularity
import ProtectedBoot.Proofs.Layout.Mapped
import ProtectedBoot.Proofs.Layout.Bootable
import ProtectedBoot.Proofs.Multiboot.Header
import ProtectedBoot.Proofs.Multiboot.Scan
import ProtectedBoot.Proofs.Boot.Steps
import ProtectedBoot.Proofs.Boot.Course
import ProtectedBoot.Proofs.Multiboot.Announced
import ProtectedBoot.Proofs.Segment.Loadable
import ProtectedBoot.Boot.Demand
import ProtectedBoot.Proofs.Boot.Demand
import ProtectedBoot.Proofs.Bytes
import ProtectedBoot.Proofs.Segment.Encoding
import ProtectedBoot.Proofs.Segment.Image
import ProtectedBoot.Proofs.Machine.Control
import ProtectedBoot.Proofs.Machine.TwoLevel
import ProtectedBoot.Proofs.Multiboot.Records
import ProtectedBoot.Proofs.Paging.Outcome
import ProtectedBoot.Proofs.Multiboot.Available
import ProtectedBoot.Proofs.Layout.Planning
import ProtectedBoot.Proofs.Paging.Overrun
import ProtectedBoot.Proofs.Multiboot.Total
import ProtectedBoot.Proofs.Multiboot.Measure
import ProtectedBoot.Proofs.Paging.Decision
import ProtectedBoot.Proofs.Paging.Pagewise
import ProtectedBoot.Proofs.Segment.Access
import ProtectedBoot.Boot.Notices
import ProtectedBoot.Paging.Census
import ProtectedBoot.Proofs.Boot.Notices
import ProtectedBoot.Proofs.Paging.Census
import ProtectedBoot.Proofs.Multiboot.Cursor
import ProtectedBoot.Proofs.Machine.Footprint
import ProtectedBoot.Proofs.Stack
import ProtectedBoot.Proofs.Paging.Encoding
import ProtectedBoot.Proofs.Paging.Identity
import ProtectedBoot.Proofs.Screen.Board
import ProtectedBoot.Proofs.Align
import ProtectedBoot.Proofs.Page
import ProtectedBoot.Proofs.Paging.Position
