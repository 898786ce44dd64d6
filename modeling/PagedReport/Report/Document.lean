import PagedReport.Report.Style
import PagedReport.Page.Choice
import PagedReport.Width

/-! The HTML document of a report: the table's markup, with every text as it is, inside a page with
title, description and style sheet. -/
namespace PagedReport.Report

structure Options where
  title : String
  description : String
  autoResize : Bool
  deriving DecidableEq

namespace Options

def standard : Options := ⟨"Report", "", true⟩

def withTitle (title : String) : Options := { standard with title := title }

end Options

def headerMarkup (text : String) : String := "      <th>" ++ text ++ "</th>\n"

/-- A missing cell is an empty one. -/
def cellMarkup (cell : Cell) : String :=
  if cell.isAbsent then "      <td></td>\n" else "      <td>" ++ cell.shown ++ "</td>\n"

def rowMarkup (row : Row) : String :=
  "    <tr>\n" ++ headerMarkup row.label ++ String.join (row.cells.map cellMarkup) ++ "    </tr>\n"

def headMarkup (columns : List String) : String :=
  "<table border=\"1\" class=\"dataframe data-table\" id=\"report-table\">\n" ++
    "  <thead>\n    <tr style=\"text-align: right;\">\n      <th></th>\n" ++
    String.join (columns.map headerMarkup) ++ "    </tr>\n  </thead>\n  <tbody>\n"

def tailMarkup : String := "  </tbody>\n</table>"

/-- The markup of a table: a head with the column names, and a block for each row that begins with
its label. -/
def tableMarkup (t : Table) : String :=
  headMarkup t.columns ++ String.join (t.rows.map rowMarkup) ++ tailMarkup

/-- An empty description has no block. -/
def descriptionMarkup (description : String) : String :=
  if description.isEmpty then "" else "<div class=\"description\">" ++ description ++ "</div>"

def documentTemplate : String :=
"<!DOCTYPE html>
<html>
<head>
    <meta charset=\"utf-8\">
    <title>\x7b\x7bTITLE\x7d\x7d</title>
    \x7b\x7bSTYLESHEET\x7d\x7d
</head>
<body>
    <div class=\"header\">
        <div class=\"title\">\x7b\x7bTITLE\x7d\x7d</div>
        \x7b\x7bDESCRIPTION\x7d\x7d
    </div>
\x7b\x7bTABLE\x7d\x7d
</body>
</html>
"

def document (t : Table) (options : Options) : Logged String := do
  let width := Width.estimate t
  Logged.note (.tableMeasured t.columns.length t.rows.length width)
  let geometry ← Geometry.select width options.autoResize
  return Template.render documentTemplate [
    ("STYLESHEET", styleSheet geometry width),
    ("TABLE", tableMarkup t),
    ("DESCRIPTION", descriptionMarkup options.description),
    ("TITLE", options.title)]

end PagedReport.Report
