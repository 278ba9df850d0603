import Transcoding.Json.Printer
import Transcoding.Main
import Transcoding.Proofs.Conductor.Acceptance
import Transcoding.Proofs.Conductor.Answer
import Transcoding.Proofs.Conductor.Configuration
import Transcoding.Proofs.Conductor.Container
import Transcoding.Proofs.Conductor.Destination
import Transcoding.Proofs.Conductor.Fault
import Transcoding.Proofs.Conductor.Fetch
import Transcoding.Proofs.Conductor.Inventory
import Transcoding.Proofs.Conductor.JobReport
import Transcoding.Proofs.Conductor.Query
import Transcoding.Proofs.Conductor.Rendition
import Transcoding.Proofs.Conductor.Secrecy
import Transcoding.Proofs.Conductor.Signature
import Transcoding.Proofs.Conductor.State
import Transcoding.Proofs.Dotenv
import Transcoding.Proofs.Failure
import Transcoding.Proofs.Service.Health
import Transcoding.Proofs.Service.Names
import Transcoding.Proofs.Settings.Environment
import Transcoding.Provider
import Transcoding.Proofs.Json.Extent
import Transcoding.Proofs.Idna
