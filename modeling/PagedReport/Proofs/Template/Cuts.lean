import PagedReport.Proofs.Template.Slots

/-! Where a template's slots are, said without the scan. `Cut` finds each slot by two searches, one for
the braces that open it and one, behind those, for the braces that close it. Every template has exactly
one cut, and filling replaces what the cut names and copies everything else. -/
namespace PagedReport.Template

/-- A pattern where it first stands in a text: what comes before it and what comes after. -/
structure First (pattern text before after : List Char) : Prop where
  split : text = before ++ pattern ++ after
  least : ∀ earlier later, text = earlier ++ pattern ++ later → before.length ≤ earlier.length

namespace First

variable {pattern text before after : List Char} {c : Char}

theorem tail (first : First pattern (c :: text) (c :: before) after) :
    First pattern text before after := by
  refine ⟨List.cons.inj first.split |>.2, ?_⟩
  rintro earlier later rfl
  exact Nat.le_of_succ_le_succ (first.least (c :: earlier) later rfl)

theorem not_prefix (first : First pattern (c :: text) (c :: before) after) :
    ¬ pattern <+: c :: text := by
  rintro ⟨later, split⟩
  exact absurd (first.least [] later split.symm) (Nat.not_succ_le_zero _)

theorem cons (first : First pattern text before after) (later : ¬ pattern <+: c :: text) :
    First pattern (c :: text) (c :: before) after := by
  refine ⟨by rw [first.split]; rfl, ?_⟩
  intro earlier rest split
  cases earlier with
  | nil => exact absurd ⟨rest, split.symm⟩ later
  | cons d earlier =>
    exact Nat.succ_le_succ (first.least earlier rest (List.cons.inj split).2)

theorem isInfix (first : First pattern text before after) : pattern <:+: text :=
  ⟨before, after, first.split.symm⟩

theorem unique (first : First pattern text before after)
    {before' after' : List Char} (second : First pattern text before' after') :
    before = before' ∧ after = after' := by
  have lengths : before.length = before'.length :=
    Nat.le_antisymm (first.least _ _ second.split) (second.least _ _ first.split)
  have same := first.split.symm.trans second.split
  rw [List.append_assoc, List.append_assoc] at same
  obtain ⟨sameBefore, rest⟩ := List.append_inj same lengths
  exact ⟨sameBefore, List.append_cancel_left rest⟩

end First

theorem exists_first {pattern text : List Char} (occurs : pattern <:+: text) :
    ∃ before after, First pattern text before after := by
  induction text with
  | nil =>
    obtain rfl := List.infix_nil.1 occurs
    exact ⟨[], [], rfl, fun _ _ _ => Nat.zero_le _⟩
  | cons c text ih =>
    by_cases atStart : pattern <+: c :: text
    · obtain ⟨after, split⟩ := atStart
      exact ⟨[], after, split.symm, fun _ _ _ => Nat.zero_le _⟩
    · obtain ⟨before, after, first⟩ := ih ((List.infix_cons_iff.1 occurs).resolve_left atStart)
      exact ⟨c :: before, after, first.cons atStart⟩

/-- A pattern stands first where it has not stood before its last character, whatever follows it. -/
theorem first_iff {pattern text before after : List Char} (nonempty : pattern ≠ []) :
    First pattern text before after ↔
      text = before ++ pattern ++ after ∧ ¬ pattern <:+: before ++ pattern.dropLast := by
  have size : pattern.dropLast.length + 1 = pattern.length := by
    rw [List.length_dropLast]
    exact Nat.sub_add_cancel (List.length_pos_iff.2 nonempty)
  have begins : before ++ pattern.dropLast <+: before ++ pattern :=
    (List.prefix_append_right_inj before).2 (List.dropLast_prefix pattern)
  constructor
  · intro first
    refine ⟨first.split, ?_⟩
    rintro ⟨earlier, later, occurs⟩
    obtain ⟨last, whole⟩ := begins
    have split : text = earlier ++ pattern ++ (later ++ last ++ after) := by
      rw [first.split, ← whole, ← occurs]
      simp
    have least := first.least earlier _ split
    have lengths := congrArg List.length occurs
    simp only [List.length_append] at lengths
    omega
  · rintro ⟨split, none⟩
    refine ⟨split, ?_⟩
    intro earlier later occurs
    refine Nat.le_of_not_lt fun less => none ?_
    have ends : earlier ++ pattern <+: text := ⟨later, occurs.symm⟩
    have whole : before ++ pattern.dropLast <+: text := begins.trans ⟨after, split.symm⟩
    have inside : earlier ++ pattern <+: before ++ pattern.dropLast := by
      apply List.prefix_of_prefix_length_le ends whole
      simp only [List.length_append]
      omega
    exact (List.suffix_append earlier pattern).isInfix.trans inside.isInfix

section Scan

variable {seen s before after : List Char}

section Steps

variable {scan : List Char → List Char → List Piece} {pattern : List Char}
  (step : ∀ seen c s, ¬ pattern <+: c :: s → scan seen (c :: s) = scan (c :: seen) s)

include step

/-- A scan that takes character by character until a pattern stands before it takes all there is before
the first one. -/
theorem scan_first (first : First pattern s before after) :
    scan seen s = scan (before.reverse ++ seen) (pattern ++ after) := by
  induction before generalizing seen s with
  | nil => rw [first.split]; rfl
  | cons c before ih =>
    obtain ⟨s, rfl⟩ : ∃ rest, s = c :: rest := ⟨_, first.split⟩
    rw [step seen c s first.not_prefix, ih first.tail]
    simp

theorem scan_none (none : ¬ pattern <:+: s) : scan seen s = scan (s.reverse ++ seen) [] := by
  induction s generalizing seen with
  | nil => rfl
  | cons c s ih =>
    rw [List.infix_cons_iff, not_or] at none
    rw [step seen c s none.1, ih none.2]
    simp

end Steps

theorem piecesInText_step (seen : List Char) (c : Char) (s : List Char) (later : ¬ slotOpen <+: c :: s) :
    piecesInText seen (c :: s) = piecesInText (c :: seen) s := by
  rw [piecesInText]
  rintro rest rfl rfl
  exact later ⟨rest, rfl⟩

theorem piecesInSlot_step (before seen : List Char) (c : Char) (s : List Char)
    (later : ¬ slotClose <+: c :: s) :
    piecesInSlot before seen (c :: s) = piecesInSlot before (c :: seen) s := by
  rw [piecesInSlot]
  rintro rest rfl rfl
  exact later ⟨rest, rfl⟩

theorem piecesInText_none (none : ¬ slotOpen <:+: s) :
    piecesInText seen s = [.text (seen.reverse ++ s)] := by
  rw [scan_none piecesInText_step none]
  simp [piecesInText]

theorem piecesInText_first (first : First slotOpen s before after) :
    piecesInText seen s = piecesInSlot (before.reverse ++ seen) [] after := by
  rw [scan_first piecesInText_step first]
  simp [slotOpen, piecesInText]

variable {text : List Char}

theorem piecesInSlot_none (none : ¬ slotClose <:+: s) :
    piecesInSlot text seen s = [.text (text.reverse ++ slotOpen ++ seen.reverse ++ s)] := by
  rw [scan_none (piecesInSlot_step text) none]
  simp [piecesInSlot]

theorem piecesInSlot_first (first : First slotClose s before after) :
    piecesInSlot text seen s =
      .text text.reverse :: .slot (seen.reverse ++ before) :: piecesInText [] after := by
  rw [scan_first (piecesInSlot_step text) first]
  simp [slotClose, piecesInSlot]

end Scan

/-- A slot's name and the text between the slot before it and this one. -/
@[ext] structure Slot where
  before : String
  name : String

/-- No braces open in a text, or none close behind the first ones that open. -/
def NoSlot (s : List Char) : Prop :=
  ¬ slotOpen <:+: s ∨ ∃ before inside, First slotOpen s before inside ∧ ¬ slotClose <:+: inside

/-- A template cut at its slots. A slot opens where braces first open behind the one before it, and
closes where braces first close after that. -/
inductive Cut : List Char → List Slot → String → Prop
  | last : NoSlot s → Cut s [] (.ofList s)
  | next : First slotOpen s slot.before.toList inside → First slotClose inside slot.name.toList after →
      Cut after cuts rest → Cut s (slot :: cuts) rest

theorem NoSlot.not_closed (noSlot : NoSlot s) (opened : First slotOpen s before inside) :
    ¬ slotClose <:+: inside := by
  rcases noSlot with none | ⟨before, inside, first, none⟩
  · exact absurd opened.isInfix none
  · obtain ⟨-, rfl⟩ := first.unique opened
    exact none

theorem pieces_noSlot (noSlot : NoSlot s) : pieces s = [.text s] := by
  rw [pieces]
  rcases noSlot with none | ⟨before, inside, first, none⟩
  · rw [piecesInText_none none]
    rfl
  · rw [piecesInText_first first, piecesInSlot_none none, first.split]
    simp

theorem Cut.pieces_eq (cut : Cut s cuts rest) :
    pieces s = cuts.flatMap (fun slot => [.text slot.before.toList, .slot slot.name.toList]) ++
      [.text rest.toList] := by
  induction cut with
  | last noSlot =>
    rw [pieces_noSlot noSlot, String.toList_ofList]
    rfl
  | next opened closed _ ih =>
    rw [pieces, piecesInText_first opened, piecesInSlot_first closed]
    simpa [pieces] using ih

theorem exists_cut (s : List Char) : ∃ cuts rest, Cut s cuts rest := by
  by_cases opens : slotOpen <:+: s
  · obtain ⟨before, inside, opened⟩ := exists_first opens
    by_cases closes : slotClose <:+: inside
    · obtain ⟨name, after, closed⟩ := exists_first closes
      have shorter : after.length < s.length := by
        rw [opened.split, closed.split]
        simp [slotOpen]
        omega
      obtain ⟨cuts, rest, later⟩ := exists_cut after
      rw [← String.toList_ofList (l := before)] at opened
      rw [← String.toList_ofList (l := name)] at closed
      exact ⟨⟨_, _⟩ :: cuts, rest, .next opened closed later⟩
    · exact ⟨[], _, .last (.inr ⟨before, inside, opened, closes⟩)⟩
  · exact ⟨[], _, .last (.inl opens)⟩
termination_by s.length

theorem Cut.unique (cut : Cut s cuts rest) {others : List Slot} {other : String}
    (second : Cut s others other) : others = cuts ∧ other = rest := by
  induction cut generalizing others other with
  | last noSlot =>
    cases second with
    | last => exact ⟨rfl, rfl⟩
    | next opened closed _ => exact absurd closed.isInfix (noSlot.not_closed opened)
  | next opened closed _ ih =>
    cases second with
    | last noSlot => exact absurd closed.isInfix (noSlot.not_closed opened)
    | next opened' closed' later =>
      obtain ⟨sameBefore, rfl⟩ := opened'.unique opened
      obtain ⟨sameName, rfl⟩ := closed'.unique closed
      obtain ⟨rfl, rfl⟩ := ih later
      have same := Slot.ext (String.toList_inj.1 sameBefore) (String.toList_inj.1 sameName)
      exact ⟨congrArg (· :: _) same, rfl⟩

/-- Filling a template, with what stands for each slot. -/
theorem Cut.render_eq {template : String} (cut : Cut template.toList cuts rest)
    (values : List (String × String)) :
    render template values =
      String.join (cuts.map fun slot => slot.before ++ valueOf values slot.name) ++ rest := by
  rw [render_eq_inTurn, inTurn_pieces, cut.pieces_eq, ← String.toList_inj]
  simp [List.flatMap_assoc, Piece.replaced, List.flatMap_map]

theorem render_nil (template : String) : render template [] = template := by
  have none : valueOf [] = braced := rfl
  rw [render_eq_inTurn, none, ← eq_inTurn]

/-- A template is cut in one way, whatever its values are. Filling it replaces each slot of the cut by
the first value for its name, or leaves it if there is none; values are not looked at, and texts and
the rest, with what is never closed, stay as they are. So without values nothing changes. -/
theorem render_cut (template : String) :
    (∃ cuts rest, Cut template.toList cuts rest ∧
      (∀ others other, Cut template.toList others other → others = cuts ∧ other = rest) ∧
      template = String.join (cuts.map fun slot => slot.before ++ braced slot.name) ++ rest ∧
      ∀ values : List (String × String), render template values =
        String.join (cuts.map fun slot =>
          slot.before ++ (values.lookup slot.name).getD (braced slot.name)) ++ rest) ∧
    render template [] = template := by
  obtain ⟨cuts, rest, cut⟩ := exists_cut template.toList
  have kept := cut.render_eq []
  rw [render_nil] at kept
  exact ⟨⟨cuts, rest, cut, fun _ _ => cut.unique, kept, cut.render_eq⟩, render_nil template⟩

/-- Of three braces the first two open a slot, and the third one is part of its name. -/
example : render "\x7b\x7b\x7ba\x7d\x7d\x7d" [("\x7ba", "1")] = "1\x7d" := by decide +kernel

end PagedReport.Template
