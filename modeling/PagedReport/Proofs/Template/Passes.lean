import PagedReport.Proofs.Template.Cuts

/-! Filling in two passes. A text in which no slot opens is copied, a slot that closes where its name
ends is replaced, and in both cases what follows is filled on its own (`render_step`). So a first pass
whose values open no slot is not seen by a second one: it finds the slots that had no value, and only
those (`render_render`). Values of any other form cannot be filled in beforehand
(`shut_iff_render_render`). -/
namespace PagedReport.Template

/-- A name behind which its slot closes, and not before. -/
def Closes (name : List Char) : Prop := ¬ slotClose <:+: name ++ ['}']

theorem first_slotOpen_iff {text before after : List Char} :
    First slotOpen text before after ↔ text = before ++ slotOpen ++ after ∧ Shut before :=
  first_iff (by decide)

theorem first_slotClose_iff {text name after : List Char} :
    First slotClose text name after ↔ text = name ++ slotClose ++ after ∧ Closes name :=
  first_iff (by decide)

theorem Shut.first (shut : Shut lead) (opened : First slotOpen s before after) :
    First slotOpen (lead ++ s) (lead ++ before) after := by
  obtain ⟨split, before⟩ := first_slotOpen_iff.1 opened
  exact first_slotOpen_iff.2 ⟨by simp [split], shut.append before⟩

theorem Shut.noSlot (shut : Shut lead) (noSlot : NoSlot s) : NoSlot (lead ++ s) := by
  rcases noSlot with none | ⟨before, inside, opened, unclosed⟩
  · exact .inl (shut.not_opened_append none)
  · exact .inr ⟨lead ++ before, inside, shut.first opened, unclosed⟩

section Render

variable (values : List (String × String))

theorem render_noSlot {template : String} (noSlot : NoSlot template.toList) :
    render template values = template := by
  rw [(Cut.last noSlot).render_eq]
  simp

/-- A text in which no slot opens is copied, and what follows it is filled on its own. -/
theorem render_lead {lead : String} (shut : Shut lead.toList) (template : String) :
    render (lead ++ template) values = lead ++ render template values := by
  obtain ⟨cuts, rest, cut⟩ := exists_cut template.toList
  cases cut with
  | last noSlot =>
    have whole : NoSlot (lead ++ template).toList := by
      rw [String.toList_append]
      exact shut.noSlot noSlot
    rw [render_noSlot values noSlot, render_noSlot values whole]
  | @next _ _ _ cuts _ slot opened closed later =>
    have whole : Cut (lead ++ template).toList (⟨lead ++ slot.before, slot.name⟩ :: cuts) rest := by
      refine .next ?_ closed later
      rw [String.toList_append, String.toList_append]
      exact shut.first opened
    rw [whole.render_eq, (Cut.next opened closed later).render_eq]
    simp [String.join_cons, String.append_assoc]

/-- A slot is replaced, and what follows it is filled on its own. -/
theorem render_braced {name : String} (closes : Closes name.toList) (template : String) :
    render (braced name ++ template) values = valueOf values name ++ render template values := by
  obtain ⟨cuts, rest, cut⟩ := exists_cut template.toList
  have opened : First slotOpen (braced name ++ template).toList []
      (name.toList ++ slotClose ++ template.toList) :=
    first_slotOpen_iff.2 ⟨by simp [braced, slotOpen, slotClose], by decide⟩
  have closed : First slotClose (name.toList ++ slotClose ++ template.toList) name.toList
      template.toList := first_slotClose_iff.2 ⟨rfl, closes⟩
  have whole : Cut (braced name ++ template).toList (⟨"", name⟩ :: cuts) rest :=
    .next opened closed cut
  rw [whole.render_eq, cut.render_eq]
  simp [String.join_cons, String.append_assoc]

/-- Text up to the first slot, that slot, and what follows it. -/
theorem render_step {before name : String} (shut : Shut before.toList) (closes : Closes name.toList)
    (template : String) :
    render (before ++ (braced name ++ template)) values =
      before ++ (valueOf values name ++ render template values) := by
  rw [render_lead values shut, render_braced values closes]

end Render

theorem valueOf_append (first second : List (String × String)) (name : String) :
    valueOf (first ++ second) name = (first.lookup name).getD (valueOf second name) := by
  rw [valueOf, valueOf, List.lookup_append]
  cases first.lookup name <;> rfl

section Passes

variable {first : List (String × String)} (shut : ∀ pair ∈ first, Shut pair.2.toList)
  (second : List (String × String))

include shut

/-- What the first pass leaves of a slot is a text without slots, or the slot as it was. -/
theorem render_valueOf {name : String} (closes : Closes name.toList) (template : String) :
    render (valueOf first name ++ template) second =
      valueOf (first ++ second) name ++ render template second := by
  rw [valueOf_append, valueOf]
  cases found : first.lookup name with
  | some value =>
    obtain ⟨earlier, later, rfl, -⟩ := List.lookup_eq_some_iff.1 found
    have text : Shut value.toList := shut (name, value) (by simp)
    exact render_lead second text template
  | none => exact render_braced second closes template

theorem Cut.render_render (cut : Cut s cuts rest) :
    render (render (.ofList s) first) second = render (.ofList s) (first ++ second) := by
  induction cut with
  | @last s noSlot =>
    have nothing : NoSlot (String.ofList s).toList := by rwa [String.toList_ofList]
    simp only [render_noSlot _ nothing]
  | @next s inside after cuts rest slot opened closed _ ih =>
    obtain ⟨split, before⟩ := first_slotOpen_iff.1 opened
    obtain ⟨splitInside, closes⟩ := first_slotClose_iff.1 closed
    have template : String.ofList s = slot.before ++ (braced slot.name ++ .ofList after) := by
      rw [← String.toList_inj]
      simp [split, splitInside, braced, slotOpen, slotClose]
    rw [template]
    calc render (render (slot.before ++ (braced slot.name ++ .ofList after)) first) second
        = slot.before ++ render (valueOf first slot.name ++ render (.ofList after) first) second := by
          rw [render_step first before closes, render_lead second before]
      _ = slot.before ++ (valueOf (first ++ second) slot.name ++
            render (render (.ofList after) first) second) := by
          rw [render_valueOf shut second closes]
      _ = render (slot.before ++ (braced slot.name ++ .ofList after)) (first ++ second) := by
          rw [ih, render_step (first ++ second) before closes]

/-- Two passes are one, as long as no value of the first pass opens a slot or ends in a brace that
could open one. -/
theorem render_render (template : String) :
    render (render template first) second = render template (first ++ second) := by
  obtain ⟨cuts, rest, cut⟩ := exists_cut template.toList
  have whole := cut.render_render shut second
  rwa [String.ofList_toList] at whole

end Passes

theorem render_congr {a b : List (String × String)} (same : ∀ name, valueOf a name = valueOf b name)
    (template : String) : render template a = render template b := by
  rw [render_eq_inTurn, render_eq_inTurn, List.map_congr_left fun name _ => same name]

/-- So values without opening braces can be filled in beforehand, whatever the template and the values
that follow; closing braces do no harm. A second pass with the same values finds nothing to do. -/
theorem render_twice (template : String) {first : List (String × String)}
    (plain : ∀ pair ∈ first, '{' ∉ pair.2.toList) :
    (∀ second, render (render template first) second = render template (first ++ second)) ∧
    render (render template first) first = render template first := by
  have passes := fun second =>
    render_render (fun pair member => shut_of_plain (plain pair member)) second template
  refine ⟨passes, ?_⟩
  rw [passes]
  apply render_congr
  intro name
  rw [valueOf_append, valueOf]
  cases first.lookup name <;> rfl

/-- An empty value closes up the text around it, a name has a brace, a slot is never closed, and the
second pass has another value for a name of the first one. -/
theorem render_twice_nested :
    let template := "a\x7b\x7bX\x7d\x7d\x7bb\x7b\x7bY\x7d\x7d\x7d\x7b\x7b\x7bZ\x7d\x7dc\x7b\x7bX"
    let first := [("X", ""), ("U", "\x7d")]
    let second := [("Y", "\x7b\x7bX\x7d\x7d"), ("\x7bZ", "9"), ("X", "no")]
    (∀ pair ∈ first, '{' ∉ pair.2.toList) ∧
    render template first = "a\x7bb\x7b\x7bY\x7d\x7d\x7d\x7b\x7b\x7bZ\x7d\x7dc\x7b\x7bX" ∧
    render (render template first) second = "a\x7bb\x7b\x7bX\x7d\x7d\x7d9c\x7b\x7bX" ∧
    render template (first ++ second) = "a\x7bb\x7b\x7bX\x7d\x7d\x7d9c\x7b\x7bX" ∧
    render (render template first) first = render template first := by
  intro template first second
  have plain : ∀ pair ∈ first, '{' ∉ pair.2.toList := by decide
  have whole : render template (first ++ second) = "a\x7bb\x7b\x7bX\x7d\x7d\x7d9c\x7b\x7bX" := by decide +kernel
  obtain ⟨passes, again⟩ := render_twice template plain
  exact ⟨plain, by decide +kernel, (passes second).trans whole, whole, again⟩

/-- A text that is not shut has a slot as soon as another brace and the closing ones follow it. -/
theorem exists_slot {s : List Char} (opened : slotOpen <:+: s ++ ['{']) :
    ∃ slot cuts rest, Cut (s ++ ['{', '}', '}']) (slot :: cuts) rest := by
  obtain ⟨earlier, later, occurs⟩ := opened
  have split : s ++ ['{', '}', '}'] = earlier ++ slotOpen ++ (later ++ slotClose) := by
    rw [← List.append_assoc, occurs]
    simp [slotClose]
  obtain ⟨cuts, rest, cut⟩ := exists_cut (s ++ ['{', '}', '}'])
  cases cut with
  | next first closed behind => exact ⟨_, _, _, .next first closed behind⟩
  | last noSlot =>
    exfalso
    rcases noSlot with none | ⟨before, inside, first, unclosed⟩
    · exact none ⟨earlier, later ++ slotClose, split.symm⟩
    · -- What follows the first braces is long enough to hold the closing ones at its end.
      have least := first.least earlier (later ++ slotClose) split
      have ends : inside <:+ earlier ++ slotOpen ++ later ++ slotClose := by
        rw [List.append_assoc _ later, ← split, first.split]
        exact List.suffix_append _ _
      have sizes := congrArg List.length (split.symm.trans first.split)
      have enough : slotClose.length ≤ inside.length := by
        simp only [List.length_append] at sizes
        omega
      exact unclosed (List.suffix_of_suffix_length_le (List.suffix_append _ _) ends enough).isInfix

/-- A value that is not shut cannot be filled in beforehand: in some template it would open a slot, with
the brace that follows it or by itself. -/
theorem shut_iff_render_render {name : String} (closes : Closes name.toList) (value : String) :
    Shut value.toList ↔ ∀ template second,
      render (render template [(name, value)]) second = render template ((name, value) :: second) := by
  constructor
  · intro shut template second
    exact render_render (by simpa using shut) second template
  · intro passes opened
    obtain ⟨slot, cuts, rest, cut⟩ := exists_slot opened
    let tail := "\x7b\x7d\x7d"
    let whole := value ++ tail
    have cut : Cut whole.toList (slot :: cuts) rest := by simpa [whole, tail] using cut
    have once (values : List (String × String)) :
        render (braced name ++ tail) ((name, value) :: values) = whole := by
      have nothing : NoSlot tail.toList := .inl (by decide)
      rw [render_braced _ closes, valueOf_cons, if_pos rfl, render_noSlot _ nothing]
    have twice := passes (braced name ++ tail) [(slot.name, whole ++ ".")]
    rw [once, once, cut.render_eq, List.map_cons, String.join_cons, valueOf_cons, if_pos rfl] at twice
    have sizes := congrArg String.length twice
    have point : ".".length = 1 := rfl
    simp only [String.length_append] at sizes
    omega

end PagedReport.Template
