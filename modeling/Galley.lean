import Galley.Config
import Galley.Logging.Filter
import Galley.Main
import Galley.Projection.Supervision
import Galley.Proofs.Client.Update
import Galley.Proofs.Log.Race
import Galley.Proofs.Projection.Busy
import Galley.Proofs.Projection.Interrupted
import Galley.Proofs.Service.Named
import Galley.Proofs.Service.Registry
import Galley.Proofs.Service.Serial
import Galley.Proofs.Template.Command
import Galley.Proofs.Template.Objection
import Galley.Render.Script
import Galley.Proofs.Patch.Piece
import Galley.Proofs.Patch.Elsewhere
import Galley.Template.Draft
import Galley.Proofs.Template.Draft
import Galley.Proofs.Json.Decoding
import Galley.Proofs.Template.Recorded
import Galley.Proofs.Render.Influence
import Galley.Proofs.Api.Discreet
import Galley.Proofs.Projection.Watch
import Galley.Proofs.Projection.Again
import Galley.Proofs.Projection.Counted
import Galley.Proofs.Client.Wire
import Galley.Proofs.Projection.Listing
