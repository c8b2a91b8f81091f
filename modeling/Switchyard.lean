import Switchyard.Config.Directory
import Switchyard.Fixture.Yaml
import Switchyard.Http.Message
import Switchyard.Main
import Switchyard.Proofs.Regex.Lookahead.Token
import Switchyard.Proofs.Route.AllowedPieces
import Switchyard.Proofs.Route.ConstraintGates
import Switchyard.Proofs.Route.OptionalSegments
import Switchyard.Proofs.Route.RoundTrip
import Switchyard.Proofs.Route.LeftToRight
import Switchyard.Proofs.Route.WholeSegments
import Switchyard.Regex.Machine.Lemmas
import Switchyard.Proofs.Regex.Lookahead.Overrun
import Switchyard.Proofs.Regex.Lookahead.Overrun.Token
import Switchyard.Proofs.Regex.Malformed
import Switchyard.Proofs.Pattern.Malformed
import Switchyard.Proofs.Route.MalformedConstraint
import Switchyard.Proofs.Router.Candidates
import Switchyard.Proofs.Router.Run
import Switchyard.Proofs.Config.RoundTrip
import Switchyard.Proofs.Router.Merge
import Switchyard.Proofs.Router.Recorded
import Switchyard.Proofs.Config.Rebuild
import Switchyard.Proofs.Http.Query
import Switchyard.Proofs.Route.Emission
import Switchyard.Proofs.Route.CanonicalPath
import Switchyard.Proofs.Http.Assembled
import Switchyard.Proofs.Segment.Grammar
import Switchyard.Proofs.Segment.Display
import Switchyard.Proofs.Http.Readings
import Switchyard.Proofs.Router.Labelled
import Switchyard.Proofs.Route.Building
import Switchyard.Proofs.CommandLine.Report
import Switchyard.Proofs.Fixture.Verdict
