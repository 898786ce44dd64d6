import PagedReport.Proofs.Table.Layout
import PagedReport.Proofs.Table.Members

/-! Records as layouts. A list of objects is the same table as the layout that lists each object's
members under the keys in order of appearance: its cells were classified by their form, those of the
layout by the first kind that takes them, and scalars do not tell the two ways apart. -/
namespace PagedReport

/-- Whole numbers of 64 bits without a sign are floats beyond the range of those with one. -/
theorem Cell.ofJson_integer (value : Int)
    (bounds : -0x8000000000000000 ≤ value ∧ value < 0x10000000000000000) :
    ofJson (.number (.integer value bounds)) =
      if value < 0x8000000000000000 then .integer (.ofInt value) else .float (.ofNat value.natAbs) := by
  by_cases small : value < 0x8000000000000000
  · simp [ofJson, Json.Number.toInt64?, small]
  · have positive : ¬ value < 0 := by omega
    simp [ofJson, Json.Number.toInt64?, small, Json.Number.toBinary64, positive, Binary64.ofNat]

namespace Table

/-- The members of an object under some names, null where it has none. -/
def listed (names : List String) (members : List (String × Json)) : List Json :=
  names.map fun name => (members.lookup name).getD .null

theorem map_ofJson_listed (names : List String) (members : List (String × Json)) :
    (listed names members).map Cell.ofJson = recordCells names members := by
  rw [listed, recordCells, List.map_map]
  apply List.map_congr_left
  intro name _
  rw [Function.comp_apply]
  cases members.lookup name <;> rfl

theorem isScalar_listed {names : List String} {members : List (String × Json)}
    (scalar : ∀ member ∈ members, member.2.isScalar) :
    ∀ value ∈ listed names members, value.isScalar := by
  intro value member
  obtain ⟨name, -, rfl⟩ := List.mem_map.1 member
  cases found : members.lookup name with
  | none => rfl
  | some value => exact scalar (name, value) (mem_of_lookup found)

theorem ofObjects_eq_toTable (objects : List (List (String × Json))) :
    let names := (objects.flatMap fun members => members.map Prod.fst).eraseDups
    ofObjects objects = Split.toTable ⟨names, [], objects.map (recordCells names)⟩ := by
  intro names
  have first : firstOccurrences (objects.flatMap fun members => members.map Prod.fst) = names :=
    firstOccurrences_eq_eraseDups _
  rw [ofObjects, first, foldl_push, Split.toTable, Split.addRows_eq_grow]
  congr 1
  apply List.ext_getElem <;> simp

/-- The layout that lists objects under some names, without labels. -/
def listing (names : List String) (objects : List (List (String × Json))) : List (String × Json) := [
  (Split.Part.columns.name, .array (names.map .text)),
  (Split.Part.data.name, .array (objects.map fun members => .array (listed names members)))]

theorem ofJson_listing {objects : List (List (String × Json))} (names : List String)
    (scalar : ∀ members ∈ objects, ∀ member ∈ members, member.2.isScalar) :
    Split.ofJson (.object (listing names objects)) =
      .ok ⟨names, [], objects.map (recordCells names)⟩ := by
  have rows : (objects.map fun members => Json.array (listed names members)) =
      (objects.map (listed names)).map .array := by simp
  have scalars : ∀ row ∈ objects.map (listed names), ∀ value ∈ row, value.isScalar :=
    List.forall_mem_map.2 fun members member => isScalar_listed (scalar members member)
  have cells : (objects.map (listed names)).map (·.map Cell.ofJson) =
      objects.map (recordCells names) := by simp [map_ofJson_listed]
  have columns := Split.setMember_part rfl (Split.setPart_columns .blank names)
  have data := Split.setMember_part rfl (Split.setPart_data ⟨some names, none, none⟩ scalars)
  rw [cells] at data
  rw [listing, rows]
  exact Split.ofJson_object
    (Split.foldlM_cons_eq_ok_iff.2 ⟨_, columns, Split.foldlM_cons_eq_ok_iff.2 ⟨_, data, rfl⟩⟩) rfl

theorem ofText_listing [Json.FaithfulReader] {objects : List (List (String × Json))} (names : List String)
    (scalar : ∀ members ∈ objects, ∀ member ∈ members, member.2.isScalar) :
    Split.ofText (Json.object (listing names objects)).compact =
      .ok ⟨names, [], objects.map (recordCells names)⟩ :=
  Split.ofText_of_ofJson (ofJson_listing names scalar)

theorem value_ofRecords_objects (objects : List (List (String × Json))) :
    (ofRecords (objects.map .object)).value = ofObjects objects := by
  have members : (objects.map Json.object).filterMap Json.members? = objects := by
    simp [List.filterMap_map, Function.comp_def, Json.members?]
  rw [ofRecords, members]

/-- JSON becomes a cell of a layout if it is a scalar, and then the cell that its form gives: a whole
number is an integer below `2^63` and a float from there on. So objects with scalar members are the
table of a layout, read from JSON or, by a reader that gives written numbers back, from its text. Its
columns are the keys in order of appearance, and its rows list what each object has under them. -/
theorem ofRecords_as_layout [Json.FaithfulReader] :
    (∀ value : Json, Cell.decode? value = if value.isScalar then some (Cell.ofJson value) else none) ∧
    (∀ (i : Int) (bounds : -0x8000000000000000 ≤ i ∧ i < 0x10000000000000000),
      Cell.decode? (.number (.integer i bounds)) =
        some (if i < 0x8000000000000000 then .integer (.ofInt i) else .float (.ofNat i.natAbs))) ∧
    (∀ x : Binary64.Finite, Cell.decode? (.number (.float x)) = some (.float (.finite x))) ∧
    ∀ objects : List (List (String × Json)),
      (∀ members ∈ objects, ∀ member ∈ members, member.2.isScalar) →
      let names := (objects.flatMap fun members => members.map Prod.fst).eraseDups
      let layout : Json := .object [
        ("columns", .array (names.map .text)),
        ("data", .array (objects.map fun members =>
          .array (names.map fun name => (members.lookup name).getD .null)))]
      let table := (ofRecords (objects.map .object)).value
      ofJson layout = .ok table ∧ ofText layout.compact = .ok table := by
  refine ⟨Cell.decode?_eq, ?_, ?_, ?_⟩
  · intro i bounds
    rw [Cell.decode?_eq, Cell.ofJson_integer]
    rfl
  · intro x
    rw [Cell.decode?_eq]
    rfl
  · intro objects scalar names layout table
    have same : table = Split.toTable ⟨names, [], objects.map (recordCells names)⟩ :=
      (value_ofRecords_objects objects).trans (ofObjects_eq_toTable objects)
    rw [same]
    constructor
    · exact congrArg (Except.map Split.toTable) (ofJson_listing names scalar)
    · have read : Split.ofText layout.compact = .ok _ := ofText_listing names scalar
      rw [ofText, read]

/-- Records that share a key, with a number beyond the signed range and one without members. -/
theorem ofRecords_as_layout_shared_key :
    let big : Json := .number (.integer 0x8000000000000000 (by decide))
    let objects : List (List (String × Json)) :=
      [[("b", big), ("a", .text "x")], [], [("a", .null), ("c", .boolean true)]]
    let layout : Json := .object [
      ("columns", .array [.text "b", .text "a", .text "c"]),
      ("data", .array [.array [big, .text "x", .null], .array [.null, .null, .null],
        .array [.null, .null, .boolean true]])]
    let table := (ofRecords (objects.map .object)).value
    (∀ members ∈ objects, ∀ member ∈ members, member.2.isScalar) ∧
      ofJson layout = .ok table ∧ ofText layout.compact = .ok table := by
  intro big objects layout table
  have scalar : ∀ members ∈ objects, ∀ member ∈ members, member.2.isScalar := by
    decide
  have read := ofRecords_as_layout.2.2.2 objects scalar
  exact ⟨scalar, read⟩

end Table

end PagedReport
