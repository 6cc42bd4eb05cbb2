import TsnTrdp.Config.AddsAll
import TsnTrdp.Config.ConfigProgrammed
import TsnTrdp.Config.ProgramAll
import TsnTrdp.Config.TadmaConf
import TsnTrdp.Config.TadmaProg
import TsnTrdp.Gptp.Election
import TsnTrdp.Lib.Blocks
import TsnTrdp.Lib.Chains
import TsnTrdp.Lib.Counted
import TsnTrdp.Lib.Crc
import TsnTrdp.Lib.Field
import TsnTrdp.Lib.Frames
import TsnTrdp.Lib.Held
import TsnTrdp.Lib.Image
import TsnTrdp.Lib.Loop
import TsnTrdp.Lib.Memory
import TsnTrdp.Lib.Provenance
import TsnTrdp.Lib.Ring
import TsnTrdp.Lib.Run
import TsnTrdp.Lib.Slice
import TsnTrdp.Lib.Slots
import TsnTrdp.Lib.Trace
import TsnTrdp.Mac.MulticastFilter
import TsnTrdp.Mac.Preemption
import TsnTrdp.Marshall.Bounds
import TsnTrdp.Marshall.Decoding
import TsnTrdp.Marshall.Encoding
import TsnTrdp.Marshall.Follows
import TsnTrdp.Marshall.Layout
import TsnTrdp.Marshall.Marshall
import TsnTrdp.Marshall.RoundTrip
import TsnTrdp.Marshall.WellFormed
import TsnTrdp.Mcdma.DataPath
import TsnTrdp.Mcdma.IrqLines
import TsnTrdp.Mcdma.RingMemory
import TsnTrdp.Mcdma.RxQueue
import TsnTrdp.Mcdma.RxSafety
import TsnTrdp.Mcdma.Sideband
import TsnTrdp.Mcdma.TxQueue
import TsnTrdp.Mcdma.TxRun
import TsnTrdp.Mcdma.TxSafety
import TsnTrdp.Ptp.BufferWrites
import TsnTrdp.Ptp.Clock
import TsnTrdp.Ptp.Receive
import TsnTrdp.Ptp.TimestampSafety
import TsnTrdp.Qbv.ListBounds
import TsnTrdp.Qbv.QbvSched
import TsnTrdp.Qbv.RoundTrip
import TsnTrdp.Switch.BridgeVlan
import TsnTrdp.Switch.CamEntries
import TsnTrdp.Switch.FdbEvents
import TsnTrdp.Switch.FdbMirror
import TsnTrdp.Switch.NativeVlan
import TsnTrdp.Switch.PortState
import TsnTrdp.Switch.ReadBack
import TsnTrdp.Switch.ReadOut
import TsnTrdp.Switch.VlanAttributes
import TsnTrdp.Switch.VlanMembership
import TsnTrdp.Tadma.Alignment
import TsnTrdp.Tadma.Allocation
import TsnTrdp.Tadma.AlmWords
import TsnTrdp.Tadma.Buckets
import TsnTrdp.Tadma.Classification
import TsnTrdp.Tadma.CompletionOrder
import TsnTrdp.Tadma.Duplicates
import TsnTrdp.Tadma.HashTag
import TsnTrdp.Tadma.Lifecycle
import TsnTrdp.Tadma.Reconfiguration
import TsnTrdp.Tadma.Registers
import TsnTrdp.Tadma.RejectedAdd
import TsnTrdp.Tadma.Reopening
import TsnTrdp.Tadma.RingInvariant
import TsnTrdp.Tadma.RingPoll
import TsnTrdp.Tadma.RingRace
import TsnTrdp.Tadma.RingSafety
import TsnTrdp.Tadma.RingSteps
import TsnTrdp.Tadma.Schedule
import TsnTrdp.Tadma.StreamRing
import TsnTrdp.Tadma.StreamTable
import TsnTrdp.Trdp.Addressing
import TsnTrdp.Trdp.AllOrNothing
import TsnTrdp.Trdp.Delivery
import TsnTrdp.Trdp.Distribute
import TsnTrdp.Trdp.Freshest
import TsnTrdp.Trdp.HeaderErrors
import TsnTrdp.Trdp.InitialCounters
import TsnTrdp.Trdp.Integrity
import TsnTrdp.Trdp.Leadership
import TsnTrdp.Trdp.Missed
import TsnTrdp.Trdp.Network
import TsnTrdp.Trdp.Notification
import TsnTrdp.Trdp.Outages
import TsnTrdp.Trdp.PoolCalls
import TsnTrdp.Trdp.PortPolling
import TsnTrdp.Trdp.PullAddress
import TsnTrdp.Trdp.PutFrames
import TsnTrdp.Trdp.Reception
import TsnTrdp.Trdp.Routing
import TsnTrdp.Trdp.SendGrid
import TsnTrdp.Trdp.SendSchedule
import TsnTrdp.Trdp.SendSlots
import TsnTrdp.Trdp.SendThread
import TsnTrdp.Trdp.SeqCnt
import TsnTrdp.Trdp.SeqCntGrowth
import TsnTrdp.Trdp.StaleTelegrams
import TsnTrdp.Trdp.ThreadDelay
import TsnTrdp.Trdp.WaitTime
import TsnTrdp.Vos.HeapCounters
import TsnTrdp.Vos.HeapInvariant
import TsnTrdp.Vos.MemInit
import TsnTrdp.Vos.Memory
import TsnTrdp.Vos.MemoryCounts
import TsnTrdp.Vos.MemorySafety
