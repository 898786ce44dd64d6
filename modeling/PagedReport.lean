import PagedReport.Binary64.Text
import PagedReport.Json.Skip
import PagedReport.Table.Records
import PagedReport.Table.SplitText
import PagedReport.Report.Document
import PagedReport.Renderer
import PagedReport.FileTree
import PagedReport.TemporaryDocument
import PagedReport.Raster.File
import PagedReport.Pdf.Album
import PagedReport.Screenshots
import PagedReport.Proofs.Report.DocumentText
import PagedReport.Proofs.Table.History
import PagedReport.Proofs.Report.TableMarkup
import PagedReport.Proofs.Binary64.ReadBack
import PagedReport.Proofs.Json.NumberText
import PagedReport.Proofs.Json.Written
import PagedReport.Proofs.Table.RoundTrip
import PagedReport.Proofs.Binary64.Bounds
import PagedReport.Proofs.Page.Widths
import PagedReport.Proofs.Pdf.Album
import PagedReport.Proofs.Screenshots
import PagedReport.Proofs.Table.Records
import PagedReport.Proofs.Report.Growth
import PagedReport.Proofs.Report.Faces
import PagedReport.Proofs.Renderer
import PagedReport.Proofs.Binary64.Counts
import PagedReport.Proofs.Binary64.Sums
import PagedReport.Proofs.Width.Exact
import PagedReport.Proofs.Width.Monotone
import PagedReport.Proofs.Raster.Alpha
import PagedReport.Proofs.Table.Grammar
import PagedReport.Proofs.Table.Members
import PagedReport.Proofs.Template.Cuts
import PagedReport.Proofs.Width.Rearranged
import PagedReport.Proofs.Width.Range
import PagedReport.Proofs.Template.Passes
