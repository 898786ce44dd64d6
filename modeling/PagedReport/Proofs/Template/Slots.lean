import PagedReport.Template

/-! A template as texts and slots in turn. The texts are what a filled template keeps, whatever the
values are: `render_eq_inTurn` puts one value after each text but the last, and `eq_inTurn` gives
the template back when each slot holds its own name in braces. -/
namespace PagedReport.Template

/-- A slot as it stands in a template. -/
def braced (name : String) : String := "\x7b\x7b" ++ name ++ "\x7d\x7d"

def Piece.text? : Piece → Option String
  | .text content => some (.ofList content)
  | .slot _ => none

def Piece.slot? : Piece → Option String
  | .text _ => none
  | .slot name => some (.ofList name)

def texts (template : String) : List String := (pieces template.toList).filterMap Piece.text?

def slots (template : String) : List String := (pieces template.toList).filterMap Piece.slot?

/-- Texts and values in turn, a text first and last. -/
def inTurn : List String → List String → String
  | text :: texts, value :: values => text ++ value ++ inTurn texts values
  | texts, _ => String.join texts

/-- The last value stands right before the last text. -/
theorem inTurn_last {texts values : List String} {last : String}
    (ends : texts.getLast? = some last) (fits : texts.length = values.length + 2) (value : String) :
    inTurn texts (values ++ [value]) = inTurn texts.dropLast values ++ value ++ last := by
  obtain ⟨front, rfl⟩ := List.getLast?_eq_some_iff.1 ends
  rw [List.dropLast_concat]
  rw [List.length_append, List.length_singleton] at fits
  clear ends
  induction values generalizing front with
  | nil =>
    obtain ⟨text, rfl⟩ := List.length_eq_one_iff.1 (Nat.succ.inj fits)
    simp [inTurn]
  | cons first values ih =>
    cases front with
    | nil => simp at fits
    | cons text front =>
      have rest := ih front (Nat.succ.inj fits)
      simp only [List.cons_append, inTurn, rest, String.append_assoc]

/-- The first value for a name; a name without value stands for its slot. -/
def valueOf (values : List (String × String)) (name : String) : String :=
  (values.lookup name).getD (braced name)

theorem valueOf_cons (key value : String) (values : List (String × String)) (name : String) :
    valueOf ((key, value) :: values) name = if name = key then value else valueOf values name := by
  simp only [valueOf, List.lookup_cons]
  by_cases same : name = key
  · simp [same]
  · simp [same, beq_false_of_ne same]

inductive Alternating : List Piece → Prop
  | last : Alternating [.text content]
  | next : Alternating rest → Alternating (.text content :: .slot name :: rest)

theorem alternating_scan :
    (∀ seen s, Alternating (piecesInText seen s)) ∧
    (∀ before seen s, Alternating (piecesInSlot before seen s)) := by
  apply piecesInText.mutual_induct
  · intro seen rest ih
    rw [piecesInText]
    exact ih
  · intro seen c rest notOpen ih
    rw [piecesInText]
    · exact ih
    · exact notOpen
  · intro seen
    rw [piecesInText]
    exact .last
  · intro before seen rest ih
    rw [piecesInSlot]
    exact .next ih
  · intro before seen c rest notClose ih
    rw [piecesInSlot]
    · exact ih
    · exact notClose
  · intro before seen
    rw [piecesInSlot]
    exact .last

def Piece.written : Piece → List Char
  | .text content => content
  | .slot name => slotOpen ++ name ++ slotClose

theorem written_scan :
    (∀ seen s, (piecesInText seen s).flatMap Piece.written = seen.reverse ++ s) ∧
    (∀ before seen s, (piecesInSlot before seen s).flatMap Piece.written =
      before.reverse ++ slotOpen ++ seen.reverse ++ s) := by
  apply piecesInText.mutual_induct
  · intro seen rest ih
    rw [piecesInText, ih]
    simp [slotOpen]
  · intro seen c rest notOpen ih
    rw [piecesInText, ih]
    · simp
    · exact notOpen
  · intro seen
    rw [piecesInText]
    simp [Piece.written]
  · intro before seen rest ih
    rw [piecesInSlot]
    simp only [List.flatMap_cons, ih, Piece.written]
    simp [slotClose]
  · intro before seen c rest notClose ih
    rw [piecesInSlot, ih]
    · simp
    · exact notClose
  · intro before seen
    rw [piecesInSlot]
    simp [Piece.written]

def Piece.replaced (value : String → String) : Piece → List Char
  | .text content => content
  | .slot name => (value (.ofList name)).toList

theorem inTurn_of_alternating {ps : List Piece} (alternating : Alternating ps)
    (value : String → String) :
    inTurn (ps.filterMap Piece.text?) ((ps.filterMap Piece.slot?).map value) =
      .ofList (ps.flatMap (·.replaced value)) := by
  induction alternating with
  | last => simp [Piece.text?, Piece.slot?, Piece.replaced, inTurn, List.filterMap_cons]
  | next _ ih =>
    simp only [List.filterMap_cons, List.map_cons, List.flatMap_cons, Piece.text?, Piece.slot?,
      inTurn, ih, Piece.replaced]
    rw [String.ofList_append, String.ofList_append, String.ofList_toList, String.append_assoc]

theorem length_of_alternating {ps : List Piece} (alternating : Alternating ps) :
    (ps.filterMap Piece.text?).length = (ps.filterMap Piece.slot?).length + 1 := by
  induction alternating with
  | last => rfl
  | next _ ih => simp [List.filterMap_cons, Piece.text?, Piece.slot?, ih]

theorem length_texts (template : String) :
    (texts template).length = (slots template).length + 1 :=
  length_of_alternating (alternating_scan.1 [] template.toList)

theorem inTurn_pieces (template : String) (value : String → String) :
    inTurn (texts template) ((slots template).map value) =
      .ofList ((pieces template.toList).flatMap (·.replaced value)) :=
  inTurn_of_alternating (alternating_scan.1 [] template.toList) value

theorem lookup_toList (values : List (String × String)) (name : List Char) :
    (values.map fun (name, value) => (name.toList, value.toList)).lookup name =
      (values.lookup (.ofList name)).map String.toList := by
  induction values with
  | nil => rfl
  | cons first rest ih =>
    obtain ⟨key, value⟩ := first
    simp only [List.map_cons, List.lookup_cons]
    by_cases same : name = key.toList
    · simp [same]
    · have other : String.ofList name ≠ key := by
        intro eq
        exact same (by rw [← eq, String.toList_ofList])
      rw [beq_false_of_ne same, beq_false_of_ne other]
      exact ih

theorem replaced_braced (piece : Piece) : piece.replaced braced = piece.written := by
  cases piece <;> simp [Piece.written, Piece.replaced, braced, slotOpen, slotClose]

theorem replaced_valueOf (values : List (String × String)) (piece : Piece) :
    piece.replaced (valueOf values) =
      piece.filled (values.map fun (name, value) => (name.toList, value.toList)) := by
  cases piece with
  | text content => rfl
  | slot name =>
    simp only [Piece.filled, Piece.replaced, lookup_toList, valueOf]
    cases values.lookup (.ofList name) <;> simp [braced, slotOpen, slotClose]

theorem eq_inTurn (template : String) :
    template = inTurn (texts template) ((slots template).map braced) := by
  have written : (pieces template.toList).flatMap Piece.written = template.toList :=
    written_scan.1 [] template.toList
  simp only [inTurn_pieces, replaced_braced]
  rw [written, String.ofList_toList]

theorem render_eq_inTurn (template : String) (values : List (String × String)) :
    render template values = inTurn (texts template) ((slots template).map (valueOf values)) := by
  simp only [inTurn_pieces, replaced_valueOf, render]

/-- No slot opens in characters, nor would one if they were followed by a single brace. -/
def Shut (s : List Char) : Prop := ¬ slotOpen <:+: s ++ ['{']

/-- Whether an opening brace is followed by another one, or by nothing. -/
def opens : List Char → Bool
  | [] => false
  | '{' :: s => s.isEmpty || s.head? = some '{' || opens s
  | _ :: s => opens s

theorem infix_iff_opens (s : List Char) : slotOpen <:+: s ++ ['{'] ↔ opens s = true := by
  fun_induction opens s with
  | case1 => simp [slotOpen, List.infix_cons_iff]
  | case2 s ih =>
    rw [List.cons_append, List.infix_cons_iff, ih, slotOpen, List.cons_prefix_cons]
    cases s with
    | nil => simp
    | cons d s => simp [List.cons_prefix_cons, @eq_comm _ d]
  | case3 c s other ih =>
    have noBrace : '{' ≠ c := fun same => other same.symm
    rw [List.cons_append, List.infix_cons_iff, ih, slotOpen, List.cons_prefix_cons]
    simp [noBrace]

instance (s : List Char) : Decidable (Shut s) :=
  decidable_of_iff (¬ opens s = true) (not_congr (infix_iff_opens s)).symm

theorem Shut.not_opened (shut : Shut s) : ¬ slotOpen <:+: s := by
  intro opened
  exact shut (List.infix_append_of_infix_left opened)

theorem shut_of_plain (plain : '{' ∉ s) : Shut s := by
  intro opened
  have braces := opened.sublist.count_le '{'
  rw [List.count_append, List.count_eq_zero_of_not_mem plain] at braces
  exact absurd braces (by decide)

/-- An opening across a seam would take its first brace from the end of the first part. -/
theorem Shut.not_opened_append (first : Shut s) (second : ¬ slotOpen <:+: t) : ¬ slotOpen <:+: s ++ t := by
  intro opened
  rcases List.infix_append_iff_ne_nil.1 opened with inFirst | inSecond | across
  · exact first.not_opened inFirst
  · exact second inSecond
  · obtain ⟨l, r, lNonempty, rNonempty, split, atEnd, -⟩ := across
    have lengths := congrArg List.length split
    have oneLeft : l.length = 1 := by
      have := List.length_pos_iff.2 lNonempty
      have := List.length_pos_iff.2 rNonempty
      simp only [slotOpen, List.length_append, List.length_cons, List.length_nil] at lengths
      omega
    obtain ⟨c, rfl⟩ := List.length_eq_one_iff.1 oneLeft
    obtain ⟨before, rfl⟩ := atEnd
    have brace : c = '{' := by simp [slotOpen] at split; exact split.1.symm
    exact first ⟨before, [], by simp [slotOpen, brace]⟩

theorem Shut.append (first : Shut s) (second : Shut t) : Shut (s ++ t) := by
  rw [Shut, List.append_assoc]
  exact first.not_opened_append second

theorem shut_inTurn {texts values : List String} (shut : ∀ text ∈ texts, Shut text.toList)
    (plain : ∀ value ∈ values, '{' ∉ value.toList) : Shut (inTurn texts values).toList := by
  induction texts generalizing values with
  | nil => exact shut_of_plain (by simp [inTurn])
  | cons text texts ih =>
    have first : Shut text.toList := shut text (by simp)
    have later : ∀ t ∈ texts, Shut t.toList := fun t member => shut t (by simp [member])
    cases values with
    | nil =>
      have rest : Shut (inTurn texts []).toList := ih later (by simp)
      have join : inTurn texts [] = String.join texts := by cases texts <;> rfl
      rw [join] at rest
      simpa [inTurn, String.join_cons] using first.append rest
    | cons value values =>
      have middle := shut_of_plain (plain value (by simp))
      have rest : Shut (inTurn texts values).toList :=
        ih later fun v member => plain v (by simp [member])
      simpa [inTurn] using first.append (middle.append rest)

theorem shut_texts {template : String}
    (shut : ∀ piece ∈ pieces template.toList, Shut (piece.replaced id)) :
    ∀ text ∈ texts template, Shut text.toList := by
  intro text member
  obtain ⟨piece, inTemplate, isText⟩ := List.mem_filterMap.1 member
  cases piece with
  | text content =>
    obtain rfl := Option.some.inj isText
    simpa [Piece.replaced] using shut _ inTemplate
  | slot name => contradiction

end PagedReport.Template
