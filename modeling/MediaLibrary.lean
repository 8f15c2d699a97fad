import MediaLibrary.Library.Commands
import MediaLibrary.Location
import MediaLibrary.Logging.Filter
import MediaLibrary.Proofs.Database.Creation
import MediaLibrary.Proofs.Database.InTurn
import MediaLibrary.Proofs.Database.OwnParents
import MediaLibrary.Proofs.Database.Preparing
import MediaLibrary.Proofs.Database.Suggestions
import MediaLibrary.Proofs.Database.TagCounts
import MediaLibrary.Proofs.Database.TagNames
import MediaLibrary.Proofs.Database.Updates
import MediaLibrary.Proofs.Filter.Moments
import MediaLibrary.Proofs.Library.Saving
import MediaLibrary.Proofs.Query.Canonical
import MediaLibrary.Proofs.Search.Children
import MediaLibrary.Proofs.Search.Damaged
import MediaLibrary.Proofs.Search.Freshness
import MediaLibrary.Proofs.Search.Tagged
import MediaLibrary.Proofs.Search.Turning
import MediaLibrary.Proofs.Selection.Marks
import MediaLibrary.Proofs.Wire.RoundTrip
import MediaLibrary.Search.Walk
import MediaLibrary.Wire.Error
import MediaLibrary.Wire.Search
import MediaLibrary.Wire.Tag
