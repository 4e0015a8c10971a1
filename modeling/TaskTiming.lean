import TaskTiming.Main
import TaskTiming.Task.Rehearsal
import TaskTiming.Proofs.RingContents
import TaskTiming.Proofs.Log.HeaderCodec
import TaskTiming.Proofs.Log.RecordCodec
import TaskTiming.Proofs.Log.ReadBack
import TaskTiming.Proofs.DiskFiles
import TaskTiming.Proofs.Task.Run
import TaskTiming.Proofs.Task.LoopRun
import TaskTiming.Proofs.Task.ThreadRun
import TaskTiming.Proofs.Task.Company
import TaskTiming.Proofs.Task.Handshake
import TaskTiming.Proofs.Task.Wakeup
import TaskTiming.Proofs.Task.History
import TaskTiming.Proofs.Task.StopBound
import TaskTiming.Proofs.Task.PeriodicRun
import TaskTiming.Proofs.Calibration.SearchRun
import TaskTiming.Proofs.Calibration.Convergence
import TaskTiming.Proofs.Log.HeaderFormat
import TaskTiming.Proofs.Log.Pieces
import TaskTiming.Proofs.Log.RecordStream
import TaskTiming.Proofs.Log.SummaryOfReleases
import TaskTiming.Proofs.Task.AperiodicRun
import TaskTiming.Proofs.Task.Releases
import TaskTiming.Proofs.Log.Accepted
import TaskTiming.Proofs.Log.SampleOrder
import TaskTiming.Proofs.Experiment.Steps
import TaskTiming.Proofs.Experiment.Return
import TaskTiming.Proofs.Time.Exactness
import TaskTiming.Proofs.Time.Grammar
import TaskTiming.Proofs.Task.BusyRounds
import TaskTiming.Proofs.Json.Scanning
import TaskTiming.Proofs.Json.Decoding
import TaskTiming.Proofs.Time.Representations
import TaskTiming.Proofs.Json.Saving
import TaskTiming.Proofs.Store.Records
import TaskTiming.Proofs.Store.Reload
import TaskTiming.Proofs.Task.Sampling
import TaskTiming.Proofs.Task.StateOrder
import TaskTiming.Proofs.Task.Flushing
import TaskTiming.Proofs.Task.Lifecycle
import TaskTiming.Proofs.Log.WaysOfReading
import TaskTiming.Proofs.Log.Failing
import TaskTiming.Proofs.Paths
import TaskTiming.Proofs.Experiment.LogFiles
import TaskTiming.Proofs.Experiment.SetupFailure
import TaskTiming.Proofs.Calibration.SafeSearch
import TaskTiming.Proofs.Task.Aborts
import TaskTiming.Proofs.Calibration.Contraction
import TaskTiming.Proofs.Calibration.Targets
import TaskTiming.Proofs.Calibration.TimeSpent
import TaskTiming.Proofs.Experiment.WellFormed
import TaskTiming.Proofs.RingFlush
import TaskTiming.Proofs.Calibration.CoherentErrors
import TaskTiming.Proofs.Experiment.PendingReleases
import TaskTiming.Proofs.Experiment.Alarms
import TaskTiming.Proofs.Time.Carrying
import TaskTiming.Proofs.ProcessorList
import TaskTiming.Proofs.Store.Truncation
import TaskTiming.Proofs.BackToBack
