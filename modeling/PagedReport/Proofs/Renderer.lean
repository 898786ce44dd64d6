import PagedReport.Renderer

/-! Failures of printing on their way out. Each step that passes a failure on puts words of its own
before the cause, and the common beginning of all messages is put there once, when a message is made:
none of the words hold any part of it. What the browser does is a parameter throughout, so the outcomes
of `printing_outcomes` are those of any browser. -/
namespace PagedReport

/-- Whether a pattern agrees with what is left of a text from some place on, so that it might begin
there and end in what follows. -/
def beginsIn (pattern : List Char) : List Char → Bool
  | [] => false
  | c :: s => (pattern.zip (c :: s)).all (fun pair => pair.1 == pair.2) || beginsIn pattern s

theorem agrees_of_prefix_append {pattern s rest : List Char} (found : pattern <+: s ++ rest) :
    (pattern.zip s).all fun pair => pair.1 == pair.2 := by
  induction s generalizing pattern with
  | nil => simp
  | cons c s ih =>
    cases pattern with
    | nil => rfl
    | cons d pattern =>
      obtain ⟨rfl, later⟩ := List.cons_prefix_cons.1 found
      simp [ih later]

theorem infix_of_infix_append {pattern s rest : List Char} (apart : beginsIn pattern s = false)
    (found : pattern <:+: s ++ rest) : pattern <:+: rest := by
  induction s with
  | nil => exact found
  | cons c s ih =>
    obtain ⟨notHere, notLater⟩ := Bool.or_eq_false_iff.1 apart
    rcases List.infix_cons_iff.1 found with here | later
    · rw [agrees_of_prefix_append here] at notHere
      contradiction
    · exact ih notLater later

/-- A step that passes a failure on. -/
inductive Wrapping where
  | html
  | table
  deriving DecidableEq

namespace Wrapping

def words : Wrapping → String
  | .html => "Failed converting HTML to PDF: "
  | .table => "Failed generating PDF from table: "

def wrap : Wrapping → Failure → Failure
  | .html, failure => .render (html.words ++ failure.cause)
  | .table, failure => .table (table.words ++ failure.cause)

@[simp] theorem cause_wrap (step : Wrapping) (failure : Failure) :
    (step.wrap failure).cause = step.words ++ failure.cause := by cases step <;> rfl

end Wrapping

namespace Failure

/-- The common beginning of all messages. -/
def opening : String := "PDF generation failed: "

/-- A failure that steps have passed on, the last step first. -/
def passedOn (steps : List Wrapping) (failure : Failure) : Failure :=
  steps.foldr Wrapping.wrap failure

theorem cause_passedOn (steps : List Wrapping) (failure : Failure) :
    (failure.passedOn steps).cause = String.join (steps.map Wrapping.words) ++ failure.cause := by
  induction steps with
  | nil => simp [passedOn]
  | cons step steps ih =>
    have outer : failure.passedOn (step :: steps) = step.wrap (failure.passedOn steps) := rfl
    rw [outer, Wrapping.cause_wrap, ih, List.map_cons, String.join_cons, String.append_assoc]

theorem opening_apart_words (step : Wrapping) :
    beginsIn opening.toList step.words.toList = false := by
  cases step <;> decide

theorem opening_not_passedOn {failure : Failure} (steps : List Wrapping)
    (plain : ¬ opening.toList <:+: failure.cause.toList) :
    ¬ opening.toList <:+: (failure.passedOn steps).cause.toList := by
  induction steps with
  | nil => exact plain
  | cons step steps ih =>
    have outer : failure.passedOn (step :: steps) = step.wrap (failure.passedOn steps) := rfl
    rw [outer, Wrapping.cause_wrap, String.toList_append]
    exact fun found => ih (infix_of_infix_append (opening_apart_words step) found)

/-- The opening does not overlap itself, so a message has it in front and otherwise in the cause. -/
theorem opening_only_first {failure : Failure}
    (plain : ¬ opening.toList <:+: failure.cause.toList) {before after : String}
    (split : failure.message = before ++ opening ++ after) : before = "" := by
  have apart : beginsIn opening.toList opening.toList.tail = false := by decide
  have message : failure.message = opening ++ failure.cause := failure.message_eq
  cases characters : before.toList with
  | nil => exact String.toList_eq_nil_iff.1 characters
  | cons c rest =>
    have same := congrArg (fun text => text.toList.tail) (message.symm.trans split)
    simp only [String.toList_append, characters, List.cons_append, List.tail_cons] at same
    have shifted : (opening.toList ++ failure.cause.toList).tail =
        opening.toList.tail ++ failure.cause.toList := rfl
    rw [shifted] at same
    exact absurd (infix_of_infix_append apart ⟨rest, after.toList, same.symm⟩) plain

end Failure

namespace Renderer

variable {r : Renderer} {print : Print} {html : String}

theorem printHtml_unavailable (missing : r.isAvailable = false) :
    r.printHtml print html = ⟨.error (.capabilityUnavailable noBrowser), []⟩ := by
  simp [printHtml, missing]
  rfl

theorem printHtml_printed (available : r.isAvailable = true) {pdf : ByteArray} {events : List Event}
    (printed : print r.config html = ⟨.ok pdf, events⟩) :
    r.printHtml print html =
      ⟨.ok pdf, .conversionStarted :: (events ++ [.conversionFinished pdf.size])⟩ := by
  ext1 <;> simp [printHtml, available, printed]

theorem printHtml_failed (available : r.isAvailable = true) {failure : Failure} {events : List Event}
    (failed : print r.config html = ⟨.error failure, events⟩) :
    r.printHtml print html = ⟨.error (Wrapping.html.wrap failure), .conversionStarted :: events⟩ := by
  ext1 <;> simp [printHtml, available, failed, Wrapping.wrap, Wrapping.words]

/-- A table is printed as its document, and printing it adds its words to a failure. -/
theorem printTable_eq (t : Table) (options : Report.Options) :
    let page := Report.document t options
    let printed := r.printHtml print page.value
    r.printTable print t options =
      ⟨printed.value.mapError Wrapping.table.wrap, page.events ++ printed.events⟩ := by
  intro page printed
  have events : (r.printTable print t options).events = page.events ++ printed.events := by
    cases answer : printed.value <;> simp [printTable, page, printed, answer]
  have value : (r.printTable print t options).value =
      printed.value.mapError Wrapping.table.wrap := by
    cases answer : printed.value <;> simp [printTable, page, printed, answer] <;> rfl
  exact Logged.ext value events

/-- What printing comes to. Without a browser nothing is printed; with one, its bytes come back as they
are, and its failures with the words of each step that passes them on. A table is printed as its
document. Every message is the common opening and a cause, so whatever steps a failure has passed, the
opening stands in front, and nowhere else unless the innermost cause has it too. -/
theorem printing_outcomes (r : Renderer) (print : Print) (html : String) (t : Table)
    (options : Report.Options) :
    let page := Report.document t options
    (r.isAvailable = false → r.printHtml print html = ⟨.error (.capabilityUnavailable
      "Chrome is not available - cannot generate PDF from HTML"), []⟩) ∧
    (r.isAvailable = true →
      (∀ pdf events, print r.config html = ⟨.ok pdf, events⟩ → r.printHtml print html =
        ⟨.ok pdf, .conversionStarted :: (events ++ [.conversionFinished pdf.size])⟩) ∧
      ∀ failure events, print r.config html = ⟨.error failure, events⟩ → r.printHtml print html =
        ⟨.error (.render ("Failed converting HTML to PDF: " ++ failure.cause)),
          .conversionStarted :: events⟩) ∧
    ((∀ pdf events, r.printHtml print page.value = ⟨.ok pdf, events⟩ →
        r.printTable print t options = ⟨.ok pdf, page.events ++ events⟩) ∧
      ∀ failure events, r.printHtml print page.value = ⟨.error failure, events⟩ →
        r.printTable print t options =
          ⟨.error (.table ("Failed generating PDF from table: " ++ failure.cause)),
            page.events ++ events⟩) ∧
    (r.isAvailable = true → ∀ failure events, print r.config page.value = ⟨.error failure, events⟩ →
      (r.printTable print t options).value = .error (failure.passedOn [.table, .html])) ∧
    ∀ (failure : Failure) (steps : List Wrapping),
      failure.message = "PDF generation failed: " ++ failure.cause ∧
      (failure.passedOn steps).message =
        "PDF generation failed: " ++ (String.join (steps.map Wrapping.words) ++ failure.cause) ∧
      (¬ "PDF generation failed: ".toList <:+: failure.cause.toList → ∀ before after : String,
        (failure.passedOn steps).message = before ++ "PDF generation failed: " ++ after →
          before = "") := by
  intro page
  refine ⟨printHtml_unavailable, ?_, ⟨?_, ?_⟩, ?_, ?_⟩
  · intro available
    exact ⟨fun _ _ => printHtml_printed available, fun _ _ => printHtml_failed available⟩
  · intro pdf events printed
    rw [printTable_eq, printed]
    rfl
  · intro failure events failed
    rw [printTable_eq, failed]
    rfl
  · intro available failure events failed
    rw [printTable_eq, printHtml_failed available failed]
    rfl
  · intro failure steps
    refine ⟨failure.message_eq, ?_, ?_⟩
    · rw [Failure.message_eq, Failure.cause_passedOn]
    · intro plain before after split
      exact Failure.opening_only_first (Failure.opening_not_passedOn steps plain) split

/-- A table on a machine without browser, with one that prints four bytes, and with one that does not
start. -/
theorem printing_outcomes_unlaunched :
    let t := (Table.empty ["metric"]).push [.integer 42]
    let page := Report.document t .standard
    let bytes : ByteArray := ⟨#[37, 80, 68, 70]⟩
    let prints : Print := fun _ _ => ⟨.ok bytes, []⟩
    let refuses : Print := printUnlaunched "Permission denied (os error 13)"
    let reason : Failure := .render "Failed to launch browser: Permission denied (os error 13)"
    let missing : Renderer := ⟨.standard, false⟩
    let available : Renderer := ⟨.standard, true⟩
    (missing.printHtml prints page.value = ⟨.error (.capabilityUnavailable
        "Chrome is not available - cannot generate PDF from HTML"), []⟩ ∧
      missing.printTable prints t .standard = ⟨.error (.table ("Failed generating PDF from table: " ++
        "Chrome is not available - cannot generate PDF from HTML")), page.events⟩) ∧
    (available.printHtml prints page.value =
        ⟨.ok bytes, [.conversionStarted, .conversionFinished 4]⟩ ∧
      available.printTable prints t .standard =
        ⟨.ok bytes, page.events ++ [.conversionStarted, .conversionFinished 4]⟩) ∧
    (available.printHtml refuses page.value =
        ⟨.error (.render ("Failed converting HTML to PDF: " ++ reason.cause)), [.conversionStarted]⟩ ∧
      (available.printTable refuses t .standard).value =
        .error (reason.passedOn [.table, .html]) ∧
      ∀ before after : String, (reason.passedOn [.table, .html]).message =
        before ++ "PDF generation failed: " ++ after → before = "") := by
  intro t page bytes prints refuses reason missing available
  obtain ⟨unavailable, -, ⟨-, tableFailed⟩, -, -⟩ :=
    printing_outcomes missing prints page.value t .standard
  have nothing := unavailable rfl
  obtain ⟨-, printed, ⟨tablePrinted, -⟩, -, -⟩ :=
    printing_outcomes available prints page.value t .standard
  have bytesBack := (printed rfl).1 bytes [] rfl
  obtain ⟨-, failed, -, chain, messages⟩ :=
    printing_outcomes available refuses page.value t .standard
  have plain : ¬ "PDF generation failed: ".toList <:+: reason.cause.toList := by
    intro found
    have apart : beginsIn "PDF generation failed: ".toList reason.cause.toList = false := by decide
    have inNothing := infix_of_infix_append apart (by simpa using found : _ <:+: _ ++ [])
    simp at inNothing
  refine ⟨⟨nothing, ?_⟩, ⟨bytesBack, tablePrinted bytes _ bytesBack⟩,
    (failed rfl).2 reason [] rfl, chain rfl reason [] rfl, (messages reason [.table, .html]).2.2 plain⟩
  rw [tableFailed _ _ nothing, List.append_nil]
  rfl

end Renderer

end PagedReport
