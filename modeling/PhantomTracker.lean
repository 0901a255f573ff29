import PhantomTracker.Foundation.Census
import PhantomTracker.Foundation.Runs
import PhantomTracker.Host.State
import PhantomTracker.Host.SwitchHandler
import PhantomTracker.Host.TransitionRule
import PhantomTracker.Host.Timer
import PhantomTracker.Host.Registration
import PhantomTracker.Host.Accounting
import PhantomTracker.Host.ToolRuns
import PhantomTracker.Host.Concurrent
import PhantomTracker.Host.NoLostUpdate
import PhantomTracker.Foundation.DoubleBuffer
import PhantomTracker.Foundation.NewestEntry
import PhantomTracker.Host.WindowView
import PhantomTracker.Host.WindowSimulation
import PhantomTracker.Host.WindowHandover
import PhantomTracker.Host.StaleSamples
import PhantomTracker.Foundation.StepFunction
import PhantomTracker.Host.Averaging
import PhantomTracker.Host.VmMaps
import PhantomTracker.Host.SerialRuns
import PhantomTracker.Host.WindowAverage
import PhantomTracker.Foundation.ByteMemory
import PhantomTracker.Shmem.Layout
import PhantomTracker.Shmem.Channel
import PhantomTracker.Guest.OmpThreads
import PhantomTracker.Guest.RunStateWord
import PhantomTracker.Joint.Composition
import PhantomTracker.Joint.ParkedPhantoms
import PhantomTracker.Host.Alone
import PhantomTracker.Host.ToolExecutions
import PhantomTracker.Host.CleanupInverse
import PhantomTracker.Shmem.ConcurrentIoctl
import PhantomTracker.Shmem.GuestLifecycle
import PhantomTracker.Idle.ReloadSafety
import PhantomTracker.Idle.RunningAverage
import PhantomTracker.Host.BufferRepresentation
import PhantomTracker.Joint.H2gPage
import PhantomTracker.Foundation.TextScan
import PhantomTracker.Host.QmpParser
import PhantomTracker.Host.QmpExchange
import PhantomTracker.Shmem.RegionLayout
import PhantomTracker.Shmem.HostAccess
import PhantomTracker.Shmem.GuestAccess
import PhantomTracker.Foundation.CasLoop
import PhantomTracker.Host.CounterRange
import PhantomTracker.Host.RepeatedEvent
import PhantomTracker.Foundation.WeightedSums
import PhantomTracker.Host.UnorderedSamples
import PhantomTracker.Idle.IdleReport
import PhantomTracker.Foundation.LinkedList
import PhantomTracker.Host.QmpNodes
import PhantomTracker.Host.QmpReadLine
import PhantomTracker.Foundation.CyclicLog
import PhantomTracker.Joint.HistoryCursor
import PhantomTracker.Joint.WatermarkFields
import PhantomTracker.Foundation.CasTally
import PhantomTracker.Host.CounterDrift
import PhantomTracker.Foundation.Component
import PhantomTracker.Host.VmComponent
import PhantomTracker.Host.TimerWalk
import PhantomTracker.Host.TimerStart
import PhantomTracker.Foundation.Ledger
import PhantomTracker.Shmem.HostModule
import PhantomTracker.Shmem.Provisioning
import PhantomTracker.Shmem.GuestChardev
import PhantomTracker.Foundation.ReleaseBuffer
import PhantomTracker.Joint.PublicationOrder
import PhantomTracker.Foundation.PinScript
import PhantomTracker.Host.Pinning
import PhantomTracker.Guest.LoaderPins
import PhantomTracker.Foundation.PathTree
import PhantomTracker.Host.VmDirectories
import PhantomTracker.Host.TrackerPins
import PhantomTracker.Host.SetupRecovery
import PhantomTracker.Foundation.Occupancy
import PhantomTracker.Joint.FlaggedThreads
import PhantomTracker.Joint.Deployment
import PhantomTracker.Joint.EndToEnd
import PhantomTracker.Foundation.CursorWalk
import PhantomTracker.Host.StaleScan
import PhantomTracker.Host.StaleDeletions
