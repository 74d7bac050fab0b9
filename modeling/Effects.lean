import Effects.Config.Structured
import Effects.Diagnostic
import Effects.Directory
import Effects.Main
import Effects.Proofs.Abort
import Effects.Proofs.Alike
import Effects.Proofs.Answering
import Effects.Proofs.Attempts
import Effects.Proofs.Authorisation
import Effects.Proofs.Awaiting
import Effects.Proofs.Behaviour
import Effects.Proofs.Blindness
import Effects.Proofs.CaptureProgram
import Effects.Proofs.CaptureRoutes
import Effects.Proofs.Commuting
import Effects.Proofs.Company
import Effects.Proofs.Confinement
import Effects.Proofs.Context
import Effects.Proofs.Continuing
import Effects.Proofs.Coverage
import Effects.Proofs.Dialogue
import Effects.Proofs.Double
import Effects.Proofs.Exit
import Effects.Proofs.Fields
import Effects.Proofs.FiniteMap
import Effects.Proofs.Folding
import Effects.Proofs.Homomorphism
import Effects.Proofs.Instrumentation
import Effects.Proofs.Interleaving
import Effects.Proofs.JsonForm
import Effects.Proofs.Lifecycle
import Effects.Proofs.Loggers
import Effects.Proofs.Matching
import Effects.Proofs.Nesting
import Effects.Proofs.Ownership
import Effects.Proofs.Polling
import Effects.Proofs.Privacy
import Effects.Proofs.Product
import Effects.Proofs.Propagation
import Effects.Proofs.Protocol
import Effects.Proofs.Realm
import Effects.Proofs.Remains
import Effects.Proofs.Reports
import Effects.Proofs.Retrying
import Effects.Proofs.Routing
import Effects.Proofs.Secret
import Effects.Proofs.Sequencing
import Effects.Proofs.Settlement
import Effects.Proofs.SharedSink
import Effects.Proofs.Staying
import Effects.Proofs.StoreCalls
import Effects.Proofs.Transcript
import Effects.Proofs.Unseen
import Effects.Script.Session
import Effects.Value.Tagged
