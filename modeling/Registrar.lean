import Registrar.Main
import Registrar.Schema.Build
import Registrar.Proofs.PathIndex
import Registrar.Proofs.Distinct
import Registrar.Proofs.Key
import Registrar.Proofs.Run
import Registrar.Proofs.Admission
import Registrar.Proofs.Derived
import Registrar.Proofs.Coherence
import Registrar.Proofs.Resolution
import Registrar.Proofs.Soundness
import Registrar.Proofs.Compatible
import Registrar.Proofs.Commute
import Registrar.Proofs.Collisions
import Registrar.Proofs.Symmetry
import Registrar.Proofs.Isolation
import Registrar.Proofs.Segments
import Registrar.Proofs.Overlap
import Registrar.Proofs.WellFormed
import Registrar.Proofs.RoundTrip
import Registrar.Proofs.Contradiction
import Registrar.Proofs.NormalForm
import Registrar.Proofs.Shortcut
import Registrar.Proofs.Reports
import Registrar.Proofs.Accounting
import Registrar.Proofs.Requests
import Registrar.Proofs.Specificity
import Registrar.Proofs.Addresses
import Registrar.Proofs.Modes
import Registrar.Proofs.Parameters
import Registrar.Proofs.Spelling
import Registrar.Proofs.Commands
import Registrar.Proofs.Coverage
import Registrar.Proofs.Idempotence
import Registrar.Proofs.IntegerBounds
import Registrar.Proofs.EqualNumbers
import Registrar.Proofs.Breaches
import Registrar.Proofs.Listings
import Registrar.Proofs.Repeats
import Registrar.Proofs.Respelling
import Registrar.Proofs.StorageNames
import Registrar.Proofs.Reports
