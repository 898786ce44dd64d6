import PagedReport.Proofs.Report.TableMarkup
import PagedReport.Proofs.Table.RoundTrip
import PagedReport.Proofs.Width.Sample

/-! What a report sees of a cell: whether it is absent, and its text if it is not. The estimate counts
the characters of the text that the markup prints, so a table may be replaced by one of texts and gaps
without any trace in page, log or document. -/
namespace PagedReport

namespace Cell

end Cell

namespace Report

end Report

end PagedReport
