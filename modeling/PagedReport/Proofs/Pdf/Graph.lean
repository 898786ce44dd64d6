import Mathlib.Data.List.TakeDrop
import PagedReport.Pdf.Document

/-! Documents as graphs. An object refers to others by their numbers, at any depth; a document is
closed if every such number is that of one of its objects, and its catalog reaches the objects that
a reader can come to. Where the numbers are distinct, looking one up finds the object that has it. -/
namespace PagedReport.Pdf

variable {Picture : Type}

mutual

/-- The numbers that an object refers to, at any depth. -/
def Object.references : Object Picture → List Nat
  | .reference number => [number]
  | .array items => itemReferences items
  | .dictionary entries | .picture entries _ => entryReferences entries
  | .integer _ | .name _ | .contents _ => []

def itemReferences : List (Object Picture) → List Nat
  | [] => []
  | item :: items => item.references ++ itemReferences items

def entryReferences : List (String × Object Picture) → List Nat
  | [] => []
  | (_, value) :: entries => value.references ++ entryReferences entries

end

@[simp] theorem itemReferences_map (numbers : List Nat) :
    itemReferences (numbers.map fun number => (.reference number : Object Picture)) = numbers := by
  induction numbers with
  | nil => rfl
  | cons number numbers ih => simp [itemReferences, Object.references, ih]

namespace Document

def numbers (d : Document Picture) : List Nat := d.objects.map Prod.fst

def Closed (d : Document Picture) : Prop :=
  ∀ entry ∈ d.objects, ∀ target ∈ entry.2.references, target ∈ d.numbers

/-- The numbers that a reader comes to from the catalog. -/
inductive Reaches (d : Document Picture) : Nat → Prop where
  | root : Reaches d d.root
  | follow {number target : Nat} {object : Object Picture} : Reaches d number →
      (number, object) ∈ d.objects → target ∈ object.references → Reaches d target

theorem lookup_of_mem {α : Type} {entries : List (Nat × α)} (distinct : (entries.map Prod.fst).Nodup)
    {number : Nat} {value : α} (member : (number, value) ∈ entries) :
    entries.lookup number = some value := by
  obtain ⟨before, after, rfl⟩ := List.append_of_mem member
  rw [List.map_append, List.nodup_append] at distinct
  rw [List.lookup_eq_some_iff]
  refine ⟨before, after, rfl, fun entry inBefore => ?_⟩
  have apart := distinct.2.2 entry.1 (List.mem_map_of_mem inBefore) number (by simp)
  simpa using Ne.symm apart

theorem object?_of_mem {d : Document Picture} (distinct : d.numbers.Nodup) {number : Nat}
    {object : Object Picture} (member : (number, object) ∈ d.objects) :
    d.object? number = some object :=
  lookup_of_mem distinct member

end Document

namespace Draft

theorem add_eq (d : Draft Picture) (object : Object Picture) :
    d.add object = (d.next, ⟨d.next + 1, d.objects ++ [(d.next, object)]⟩) := rfl

/-- A number below all others is filled in at the front. -/
theorem fill_least (d : Draft Picture) (number : Nat) (object : Object Picture)
    (least : ∀ entry ∈ d.objects, number < entry.1) :
    d.fill number object = ⟨d.next, (number, object) :: d.objects⟩ := by
  obtain ⟨next, objects⟩ := d
  cases objects with
  | nil => rfl
  | cons entry objects =>
    have above : ¬ entry.1 < number := Nat.not_lt.2 (Nat.le_of_lt (least entry (by simp)))
    simp [fill, List.span_eq_takeWhile_dropWhile, above]

end Draft

end PagedReport.Pdf
