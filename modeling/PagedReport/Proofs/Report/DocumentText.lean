import PagedReport.Report.Document
import PagedReport.Proofs.Template.Slots

/-! The text of a report's document. Every slot of the two templates holds its value as it is, and
the style sheet of a selected page has no slot left, so what users write is the only place where
doubled braces can come from. -/
namespace PagedReport

open Template

namespace Geometry

theorem holding_cases (width : UInt32) :
    holding width = custom width ∨ ∃ entry ∈ breakpoints, holding width = entry.2 := by
  unfold holding
  split
  next limit page found => exact .inr ⟨(limit, page), List.mem_of_find?_eq_some found, rfl⟩
  next => exact .inl rfl

theorem value_select (width : UInt32) (autoResize : Bool) :
    (select width autoResize).value = if autoResize then holding width else a4Portrait := by
  cases autoResize <;> rfl

theorem brace_not_mem_digits (n : Nat) : '{' ∉ Nat.toDigits 10 n := by
  intro member
  exact absurd (Nat.isDigit_of_mem_toDigits (by decide) (by decide) member) (by decide)

theorem brace_not_mem_pageSize (page : Geometry) : '{' ∉ page.pageSize.toList := by
  have digits (n : UInt32) : '{' ∉ (toString n).toList := by
    simpa [toString] using brace_not_mem_digits n.toNat
  have names (paper : Paper) : '{' ∉ paper.name.toList := by cases paper <;> decide
  unfold pageSize
  split <;> simp [digits, names]

theorem brace_not_mem_margin (width : UInt32) (autoResize : Bool) :
    '{' ∉ (select width autoResize).value.margin.toList := by
  have standard : ∀ entry ∈ breakpoints, '{' ∉ entry.2.margin.toList := by decide
  rw [value_select]
  cases autoResize with
  | false => exact (by decide : '{' ∉ a4Portrait.margin.toList)
  | true =>
    rcases holding_cases width with eq | ⟨entry, member, eq⟩
    · simp [eq, custom]
    · simpa [eq] using standard entry member

end Geometry

namespace Report

-- A template is long, so it is scanned once for its slots and its texts together.
theorem scanned_documentTemplate :
    slots documentTemplate = ["TITLE", "STYLESHEET", "TITLE", "DESCRIPTION", "TABLE"] ∧
      ∀ piece ∈ pieces documentTemplate.toList, Shut (piece.replaced id) := by
  rw [slots, documentTemplate, String.toList_ofList]
  decide +kernel

theorem scanned_styleTemplate :
    slots styleTemplate = ["PAGE_SIZE", "MARGIN", "PRINT_FONT_SIZE", "PRINT_PADDING"] ∧
      ∀ piece ∈ pieces styleTemplate.toList, Shut (piece.replaced id) := by
  rw [slots, styleTemplate, String.toList_ofList]
  decide +kernel

theorem slots_documentTemplate :
    slots documentTemplate = ["TITLE", "STYLESHEET", "TITLE", "DESCRIPTION", "TABLE"] :=
  scanned_documentTemplate.1

theorem slots_styleTemplate :
    slots styleTemplate = ["PAGE_SIZE", "MARGIN", "PRINT_FONT_SIZE", "PRINT_PADDING"] :=
  scanned_styleTemplate.1

theorem shut_documentTemplate : ∀ text ∈ texts documentTemplate, Shut text.toList :=
  shut_texts scanned_documentTemplate.2

theorem shut_styleTemplate : ∀ text ∈ texts styleTemplate, Shut text.toList :=
  shut_texts scanned_styleTemplate.2

theorem styleSheet_eq (page : Geometry) (width : UInt32) :
    styleSheet page width = inTurn (texts styleTemplate) [page.pageSize, page.margin,
      if 1200 < width then "7pt" else "8pt", if 1200 < width then "3px 6px" else "4px 8px"] := by
  simp only [styleSheet, render_eq_inTurn, slots_styleTemplate]
  by_cases dense : denseWidth < width <;>
    simp [valueOf_cons, dense, show (1200 : UInt32) = denseWidth from rfl]

theorem value_document (t : Table) (options : Options) :
    (document t options).value =
      inTurn (texts documentTemplate) [options.title,
        styleSheet (Geometry.select (Width.estimate t) options.autoResize).value (Width.estimate t),
        options.title, descriptionMarkup options.description, tableMarkup t] := by
  simp [document, render_eq_inTurn, slots_documentTemplate, valueOf_cons]

theorem shut_styleSheet (width : UInt32) (autoResize : Bool) :
    Shut (styleSheet (Geometry.select width autoResize).value width).toList := by
  have pageSize := Geometry.brace_not_mem_pageSize (Geometry.select width autoResize).value
  have margin := Geometry.brace_not_mem_margin width autoResize
  rw [styleSheet_eq]
  apply shut_inTurn shut_styleTemplate
  by_cases dense : 1200 < width <;> simp [dense, pageSize, margin]

/-- A document is the fixed text of its template with one value in each slot, its style sheet too,
and nothing that was put into a slot is read again: the texts around the slots hold no opening
braces, so that the slots named here are all there are. -/
theorem document_fills_templates (t : Table) (options : Options) :
    let width := Width.estimate t
    let page := (Geometry.select width options.autoResize).value
    let description := if options.description = "" then ""
      else "<div class=\"description\">" ++ options.description ++ "</div>"
    (documentTemplate = inTurn (texts documentTemplate)
        (["TITLE", "STYLESHEET", "TITLE", "DESCRIPTION", "TABLE"].map braced) ∧
      (document t options).value = inTurn (texts documentTemplate)
        [options.title, styleSheet page width, options.title, description, tableMarkup t] ∧
      (texts documentTemplate).length = 6 ∧
      ∀ text ∈ texts documentTemplate, ¬ slotOpen <:+: text.toList) ∧
    (styleTemplate = inTurn (texts styleTemplate)
        (["PAGE_SIZE", "MARGIN", "PRINT_FONT_SIZE", "PRINT_PADDING"].map braced) ∧
      styleSheet page width = inTurn (texts styleTemplate) [page.pageSize, page.margin,
        if 1200 < width then "7pt" else "8pt", if 1200 < width then "3px 6px" else "4px 8px"] ∧
      (texts styleTemplate).length = 5 ∧
      ∀ text ∈ texts styleTemplate, ¬ slotOpen <:+: text.toList) ∧
    ¬ slotOpen <:+: (styleSheet page width).toList := by
  intro width page description
  refine ⟨⟨?_, ?_, ?_, ?_⟩, ⟨?_, styleSheet_eq page width, ?_, ?_⟩, ?_⟩
  · rw [← slots_documentTemplate]
    exact eq_inTurn documentTemplate
  · rw [value_document]
    simp [description, descriptionMarkup, page, width]
  · rw [length_texts, slots_documentTemplate]
    rfl
  · exact fun text member => (shut_documentTemplate text member).not_opened
  · rw [← slots_styleTemplate]
    exact eq_inTurn styleTemplate
  · rw [length_texts, slots_styleTemplate]
    rfl
  · exact fun text member => (shut_styleTemplate text member).not_opened
  · exact (shut_styleSheet width options.autoResize).not_opened

end Report

end PagedReport
