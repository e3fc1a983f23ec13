import ImageVault.Session
import ImageVault.Settings.Pool
import ImageVault.Startup
import ImageVault.Proofs.Outcome
import ImageVault.Proofs.Store.Rows
import ImageVault.Proofs.MediaType
import ImageVault.Proofs.PublicAddress
import ImageVault.Proofs.Raster.Decode
import ImageVault.Proofs.Pipeline
import ImageVault.Proofs.Text.Hex
import ImageVault.Proofs.Uuid
import ImageVault.Proofs.Resource
import ImageVault.Proofs.Http.Site
import ImageVault.Proofs.Session.Rows
import ImageVault.Proofs.Http.Endpoint
import ImageVault.Proofs.Filename
import ImageVault.Proofs.Http.Download
import ImageVault.Proofs.Http.Gate
import ImageVault.Proofs.Session.RoundTrip
import ImageVault.Proofs.Session.Traffic
import ImageVault.Proofs.Session.Uploads
import ImageVault.Proofs.Session.Accounting
import ImageVault.Proofs.Raster.Defect
import ImageVault.Proofs.EventLog
import ImageVault.Proofs.Metrics.Series
import ImageVault.Proofs.Metrics
import ImageVault.Proofs.Upload.Reading
import ImageVault.Proofs.Upload.Pieces
import ImageVault.Proofs.Http.ChunkSize
import ImageVault.Proofs.Http.Concealment
import ImageVault.Proofs.Url.Split
import ImageVault.Proofs.PublicAddress.Shape
import ImageVault.Proofs.Http.Misconfiguration
import ImageVault.Proofs.Number.Decimal
import ImageVault.Proofs.Text.Utf8
import ImageVault.Proofs.Filename.Distinct
import ImageVault.Proofs.Identification
import ImageVault.Proofs.Metrics.PathLabel
import ImageVault.Proofs.Session.Labels
import ImageVault.Proofs.Http.Spellings
import ImageVault.Proofs.Text.Ends
import ImageVault.Proofs.Uuid.Numeral
import ImageVault.Proofs.Uuid.Lenient
import ImageVault.Proofs.Identity.Accepted
import ImageVault.Proofs.Text.LowerCase
import ImageVault.Proofs.MediaType.Declared
import ImageVault.Proofs.Number.Lenient
import ImageVault.Proofs.Raster.Pnm
import ImageVault.Proofs.Resource.Projection
import ImageVault.EventLog.Call
import ImageVault.Proofs.EventLog.Call
import ImageVault.Proofs.EventLog.Configured
import ImageVault.Proofs.EventLog.Level
