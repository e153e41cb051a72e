import MethodOfLines.Binary64.Decimal
import MethodOfLines.Binary64.Hex
import MethodOfLines.Binary64.Scalar
import MethodOfLines.Checksum
import MethodOfLines.Diffusion.Profile
import MethodOfLines.Operator.Fault
import MethodOfLines.Operator.Rates
import MethodOfLines.Proofs.Butcher
import MethodOfLines.Proofs.Independence
import MethodOfLines.Proofs.Restart
import MethodOfLines.Scalar.Rational
import MethodOfLines.Stepper.Run
import MethodOfLines.Proofs.Blame
import MethodOfLines.Proofs.Dispatch
import MethodOfLines.Proofs.Upcoming
import MethodOfLines.Proofs.Lost
import MethodOfLines.Proofs.Routed
import MethodOfLines.Proofs.Params
import MethodOfLines.Proofs.Between
import MethodOfLines.Proofs.Containment
import MethodOfLines.Proofs.Ghosts
import MethodOfLines.Proofs.Stencil
import MethodOfLines.Proofs.Success
import MethodOfLines.Proofs.Diffusion
import MethodOfLines.Proofs.Conservation
import MethodOfLines.Proofs.Profile
import MethodOfLines.Proofs.Evaluations
import MethodOfLines.Proofs.Search
import MethodOfLines.Proofs.Domains
import MethodOfLines.Proofs.Blocks
import MethodOfLines.Proofs.Fields
import MethodOfLines.Proofs.Stages
import MethodOfLines.Proofs.Budget
import MethodOfLines.Proofs.Shape
import MethodOfLines.Proofs.Validation
import MethodOfLines.Proofs.Layout
import MethodOfLines.Proofs.Work
import MethodOfLines.Proofs.Tags
import MethodOfLines.Proofs.Coverage
import MethodOfLines.Proofs.Lasting
import MethodOfLines.Proofs.Finished
