import PagedReport.Page.Geometry
import PagedReport.Template

/-! The style sheet of a report: the page and its margins, and a print style that is tighter for
wide tables. -/
namespace PagedReport.Report

/-- The width above which the print style is tighter. -/
def denseWidth : UInt32 := 1200

def styleTemplate : String :=
"<style type=\"text/css\">
        @page \x7b
            size: \x7b\x7bPAGE_SIZE\x7d\x7d;
            margin: \x7b\x7bMARGIN\x7d\x7d;
            @bottom-center \x7b
                content: \"Page \" counter(page) \" of \" counter(pages);
                font-size: 10pt;
                color: #666;
            \x7d
        \x7d

        body \x7b
            font-family: 'Helvetica Neue', Helvetica, Arial, sans-serif;
            font-size: 9pt;
            line-height: 1.4;
            color: #333;
            margin: 0;
            padding: 0;
            width: 100%;
            overflow-x: auto;
        \x7d

        .header \x7b
            margin-bottom: 20px;
            padding-bottom: 10px;
            border-bottom: 2px solid #e0e0e0;
        \x7d

        .title \x7b
            font-size: 18pt;
            font-weight: bold;
            color: #2c3e50;
            margin-bottom: 8px;
        \x7d

        .description \x7b
            font-size: 11pt;
            color: #666;
            margin-bottom: 10px;
        \x7d

        .data-table \x7b
            width: 100%;
            border-collapse: collapse;
            font-size: 8pt;
            margin-top: 10px;
            table-layout: auto;
            word-wrap: break-word;
            page-break-before: auto;
            page-break-after: auto;
            page-break-inside: auto;
        \x7d

        .data-table th \x7b
            background-color: #f8f9fa;
            border: 1px solid #dee2e6;
            padding: 6px 8px;
            text-align: left;
            font-weight: bold;
            color: #495057;
            page-break-inside: avoid;
            white-space: nowrap;
            overflow: hidden;
            text-overflow: ellipsis;
            max-width: 150px;
        \x7d

        .data-table td \x7b
            border: 1px solid #dee2e6;
            padding: 4px 8px;
            text-align: left;
            page-break-inside: avoid;
            word-wrap: break-word;
            max-width: 150px;
            overflow: hidden;
        \x7d

        .data-table tbody tr:nth-child(even) \x7b
            background-color: #f8f9fa;
        \x7d

        /* Repeat the header row on every page */
        .data-table thead \x7b
            display: table-header-group;
        \x7d

        .data-table tbody \x7b
            display: table-row-group;
        \x7d

        .data-table tbody tr \x7b
            page-break-inside: avoid;
            page-break-after: auto;
        \x7d

        /* Index column */
        .data-table th:first-child,
        .data-table td:first-child \x7b
            background-color: #e9ecef;
            font-weight: bold;
            text-align: center;
            width: 60px;
            min-width: 60px;
            max-width: 80px;
        \x7d

        @media print \x7b
            .data-table \x7b
                font-size: \x7b\x7bPRINT_FONT_SIZE\x7d\x7d;
            \x7d
            .data-table th,
            .data-table td \x7b
                padding: \x7b\x7bPRINT_PADDING\x7d\x7d;
            \x7d
        \x7d
    </style>"

def styleSheet (geometry : Geometry) (width : UInt32) : String :=
  let dense := denseWidth < width
  Template.render styleTemplate [
    ("PAGE_SIZE", geometry.pageSize),
    ("MARGIN", geometry.margin),
    ("PRINT_FONT_SIZE", if dense then "7pt" else "8pt"),
    ("PRINT_PADDING", if dense then "3px 6px" else "4px 8px")]

end PagedReport.Report
