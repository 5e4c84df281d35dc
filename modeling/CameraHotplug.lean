import CameraHotplug.Bench
import CameraHotplug.FileTree.DirectoryWatch
import CameraHotplug.FileTree.Environment
import CameraHotplug.Main
import CameraHotplug.Proofs.NodeName
import CameraHotplug.Proofs.Observation
import CameraHotplug.Proofs.Registration
import CameraHotplug.Proofs.History
import CameraHotplug.Proofs.Membership
import CameraHotplug.Proofs.FailedAttempt
import CameraHotplug.Proofs.LiveDirectory
import CameraHotplug.Proofs.LiveTreatment
import CameraHotplug.Proofs.Tracking
import CameraHotplug.Proofs.Turns
import CameraHotplug.Proofs.Consistency
import CameraHotplug.Proofs.Convergence
import CameraHotplug.Proofs.Steps
import CameraHotplug.Proofs.Recovery
import CameraHotplug.Proofs.IdText
import CameraHotplug.Proofs.Subscription
import CameraHotplug.Proofs.Place
import CameraHotplug.Proofs.Requests
import CameraHotplug.Proofs.Discretion
import CameraHotplug.Proofs.Resolution
import CameraHotplug.Proofs.Correspondence
import CameraHotplug.Proofs.Panics
import CameraHotplug.Proofs.Thread
import CameraHotplug.Proofs.Stopping
import CameraHotplug.Proofs.Lifecycle
import CameraHotplug.Proofs.Phases
import CameraHotplug.Proofs.FixedContent
import CameraHotplug.Proofs.Agreement
import CameraHotplug.Proofs.Prediction
import CameraHotplug.Proofs.EventOrder
import CameraHotplug.Proofs.JsonSkipping
import CameraHotplug.Proofs.JsonReading
import CameraHotplug.Proofs.SettingsDocument
import CameraHotplug.Proofs.Confinement
import CameraHotplug.Proofs.Findings
import CameraHotplug.Proofs.ScanAccount
import CameraHotplug.Proofs.Independence
import CameraHotplug.Proofs.FirstReceiver
import CameraHotplug.Proofs.Verdict
import CameraHotplug.Proofs.FieldText
import CameraHotplug.Proofs.BenchFiles
import CameraHotplug.Proofs.Recognizable
import CameraHotplug.Proofs.Channel
import CameraHotplug.Proofs.ListingLines
import CameraHotplug.Proofs.BenchHistory
import CameraHotplug.Proofs.FormatText
