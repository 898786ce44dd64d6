import Mathlib.Data.List.Induction
import PagedReport.Proofs.Table.History

/-! Where the members of records go. Columns are the keys in the order in which they first occur, and
each object is a row under its number among the objects. A member stands in its object's row, below its
key, and nowhere else; a cell that no member accounts for is null. What is no object leaves a line in
the log, under its position in the whole list, and no other trace. -/
namespace PagedReport

theorem firstOccurrences_append (texts : List String) (text : String) :
    firstOccurrences (texts ++ [text]) =
      if text ∈ firstOccurrences texts then firstOccurrences texts
      else firstOccurrences texts ++ [text] := by
  rw [firstOccurrences, List.foldl_append]
  rfl

/-- Each text once is what is left of the texts when repetitions are erased. -/
theorem firstOccurrences_eq_eraseDups (texts : List String) :
    firstOccurrences texts = texts.eraseDups := by
  induction texts using List.reverseRecOn with
  | nil => rfl
  | append_singleton texts last ih =>
    rw [firstOccurrences_append, List.eraseDups_append, ih]
    by_cases old : last ∈ texts <;> simp [old, List.removeAll, List.eraseDups_cons]

@[simp] theorem mem_firstOccurrences {text : String} {texts : List String} :
    text ∈ firstOccurrences texts ↔ text ∈ texts := by
  rw [firstOccurrences_eq_eraseDups, List.mem_eraseDups]

/-- Each text stands once, in the order of first occurrence. -/
theorem firstOccurrences_ascend (texts : List String) :
    (firstOccurrences texts).Pairwise fun a b => texts.idxOf a < texts.idxOf b := by
  induction texts using List.reverseRecOn with
  | nil => exact .nil
  | append_singleton texts last ih =>
    -- A text that has occurred keeps the place where it first did.
    have kept : (firstOccurrences texts).Pairwise fun a b =>
        (texts ++ [last]).idxOf a < (texts ++ [last]).idxOf b := by
      refine ih.imp_of_mem ?_
      intro a b inA inB less
      rw [mem_firstOccurrences] at inA inB
      simpa [List.idxOf_append, inA, inB] using less
    rw [firstOccurrences_append]
    split
    next => exact kept
    next new =>
      rw [mem_firstOccurrences] at new
      refine List.pairwise_append.2 ⟨kept, List.pairwise_singleton _ _, ?_⟩
      intro a inA b isLast
      obtain rfl := List.mem_singleton.1 isLast
      rw [mem_firstOccurrences] at inA
      have before : texts.idxOf a < texts.length := List.idxOf_lt_length_iff.2 inA
      simpa [List.idxOf_append, inA, new] using before

theorem nodup_firstOccurrences (texts : List String) : (firstOccurrences texts).Nodup := by
  refine (firstOccurrences_ascend texts).imp ?_
  rintro a _ less rfl
  exact absurd less (Nat.lt_irrefl _)

namespace Table

/-- The cell of a row in a column, if the table has both. -/
def cell? (t : Table) (row column : Nat) : Option Cell := t.rows[row]?.bind (·.cells[column]?)

section Skipped

variable {records : List Json}

theorem skippedRecords_ascend (records : List Json) :
    (skippedRecords records).Pairwise (· < ·) := by
  have positions : records.zipIdx.Pairwise fun a b => a.2 < b.2 := by
    rw [← List.pairwise_map, List.zipIdx_map_snd]
    exact List.pairwise_lt_range'
  apply positions.filterMap
  rintro ⟨record, i⟩ ⟨other, j⟩ less a isA b isB
  simp only [Option.ite_none_left_eq_some, Option.some.injEq] at isA isB
  rwa [← isA.2, ← isB.2]

theorem mem_skippedRecords {position : Nat} :
    position ∈ skippedRecords records ↔
      ∃ record, records[position]? = some record ∧ record.members? = none := by
  simp only [skippedRecords, List.mem_filterMap, Option.ite_none_left_eq_some, Option.some.injEq,
    Prod.exists, List.mem_zipIdx_iff_getElem?]
  constructor
  · rintro ⟨record, i, found, other, rfl⟩
    exact ⟨record, found, by simpa using other⟩
  · rintro ⟨record, found, other⟩
    exact ⟨record, position, found, by simp [other], rfl⟩

theorem ofRecords_filter (records : List Json) :
    ofRecords (records.filter (·.members?.isSome)) = ⟨(ofRecords records).value, []⟩ := by
  have objects : (records.filter (·.members?.isSome)).filterMap Json.members? =
      records.filterMap Json.members? := by
    rw [List.filterMap_filter]
    congr 1
    funext record
    cases record.members? <;> rfl
  have nothing : skippedRecords (records.filter (·.members?.isSome)) = [] := by
    rw [List.eq_nil_iff_forall_not_mem]
    intro position skipped
    obtain ⟨record, found, other⟩ := mem_skippedRecords.1 skipped
    have kept := (List.mem_filter.1 (List.mem_of_getElem? found)).2
    simp [other] at kept
  rw [ofRecords, ofRecords, objects, nothing, List.map_nil]

end Skipped

section Placed

variable (records : List Json)

theorem rows_ofRecords :
    (ofRecords records).value.rows = (records.filterMap Json.members?).mapIdx fun i members =>
      ⟨toString i, recordCells (Origin.recordColumns records) members⟩ := by
  have rows := (Origin.records records).rows_grow []
  rw [List.append_nil, grow_nil] at rows
  have full (members : List (String × Json)) : fitted (Origin.recordColumns records).length
      (recordCells (Origin.recordColumns records) members) =
        recordCells (Origin.recordColumns records) members := fitted_full (by simp [recordCells])
  refine rows.trans (List.ext_getElem (by simp [Origin.pushes]) ?_)
  intro i _ _
  simp [Origin.pushes, Origin.names, Push.row, full]

theorem columns_ofRecords : (ofRecords records).value.columns = Origin.recordColumns records :=
  (Origin.records records).columns_grow []

theorem labels_ofRecords : (ofRecords records).value.labels =
    (List.range (records.filterMap Json.members?).length).map toString := by
  rw [labels, rows_ofRecords]
  apply List.ext_getElem <;> simp

variable {records} {row column : Nat} {members : List (String × Json)} {key : String}

theorem cell?_ofRecords (atRow : (records.filterMap Json.members?)[row]? = some members) :
    (ofRecords records).value.cell? row column =
      (ofRecords records).value.columns[column]?.map fun key =>
        ((members.lookup key).map Cell.ofJson).getD .null := by
  simp [cell?, rows_ofRecords, columns_ofRecords, atRow, recordCells]

theorem mem_columns_ofRecords :
    key ∈ (ofRecords records).value.columns ↔
      ∃ members ∈ records.filterMap Json.members?, key ∈ members.map Prod.fst := by
  rw [columns_ofRecords, Origin.recordColumns, mem_firstOccurrences, List.mem_flatMap]

theorem mem_of_lookup {value : Json} (found : members.lookup key = some value) :
    (key, value) ∈ members := by
  obtain ⟨before, after, rfl, -⟩ := List.lookup_eq_some_iff.1 found
  simp

/-- A member stands in one cell of its object's row. -/
theorem existsUnique_cell {value : Json}
    (atRow : (records.filterMap Json.members?)[row]? = some members)
    (found : members.lookup key = some value) :
    ∃! column, (ofRecords records).value.columns[column]? = some key ∧
      (ofRecords records).value.cell? row column = some (.ofJson value) := by
  have isKey : key ∈ members.map Prod.fst := List.mem_map_of_mem (mem_of_lookup found)
  have inColumns : key ∈ (ofRecords records).value.columns :=
    mem_columns_ofRecords.2 ⟨members, List.mem_of_getElem? atRow, isKey⟩
  obtain ⟨column, atColumn⟩ := List.mem_iff_getElem?.1 inColumns
  refine ⟨column, ⟨atColumn, by simp [cell?_ofRecords atRow, atColumn, found]⟩, ?_⟩
  rintro other ⟨atOther, -⟩
  have once : (ofRecords records).value.columns.Nodup := by
    rw [columns_ofRecords]
    exact nodup_firstOccurrences _
  have inside : other < (ofRecords records).value.columns.length :=
    (List.getElem?_eq_some_iff.1 atOther).1
  exact (List.getElem?_inj inside once).1 (atOther.trans atColumn.symm)

/-- A cell that is not null is a member's. -/
theorem exists_member {cell : Cell}
    (atRow : (records.filterMap Json.members?)[row]? = some members)
    (atColumn : (ofRecords records).value.cell? row column = some cell) (filled : cell ≠ .null) :
    ∃ key value, (ofRecords records).value.columns[column]? = some key ∧
      members.lookup key = some value ∧ cell = .ofJson value := by
  rw [cell?_ofRecords atRow, Option.map_eq_some_iff] at atColumn
  obtain ⟨key, isKey, rfl⟩ := atColumn
  cases found : members.lookup key with
  | none => simp [found] at filled
  | some value => exact ⟨key, value, isKey, found, by simp⟩

/-- A list of records as a table. Its columns are the keys of the objects, each once and in the order
of first occurrence, and its rows are the objects, numbered without gaps. A cell is what its row's
object has under its column's key and null if that is nothing, so every member has one cell and no
other cell is filled. Each record that is no object is warned of under its position in the list, and
leaving such records out changes nothing else. -/
theorem ofRecords_placement (records : List Json) :
    let objects := records.filterMap Json.members?
    let keys := objects.flatMap fun members => members.map Prod.fst
    let t := (ofRecords records).value
    (t.columns.Nodup ∧ (∀ key, key ∈ t.columns ↔ ∃ members ∈ objects, key ∈ members.map Prod.fst) ∧
      t.columns.Pairwise fun a b => keys.idxOf a < keys.idxOf b) ∧
    (t.rows.length = objects.length ∧ t.labels = (List.range objects.length).map toString) ∧
    (∀ row members, objects[row]? = some members →
      (∀ column key, t.columns[column]? = some key →
        t.cell? row column = some (((members.lookup key).map Cell.ofJson).getD .null)) ∧
      (∀ key value, members.lookup key = some value →
        ∃! column, t.columns[column]? = some key ∧ t.cell? row column = some (.ofJson value)) ∧
      ∀ column cell, t.cell? row column = some cell → cell ≠ .null →
        ∃ key value, t.columns[column]? = some key ∧ members.lookup key = some value ∧
          cell = .ofJson value) ∧
    (∃ positions : List Nat, positions.Pairwise (· < ·) ∧
      (∀ position, position ∈ positions ↔
        ∃ record, records[position]? = some record ∧ record.members? = none) ∧
      (ofRecords records).events.map (fun event => (event.level, event.message)) =
        positions.map fun position =>
          (.warn, "Skipping record " ++ toString position ++ ": expected a JSON object")) ∧
    ofRecords (records.filter (·.members?.isSome)) = ⟨t, []⟩ := by
  intro objects keys t
  have columns : t.columns = firstOccurrences keys := columns_ofRecords records
  refine ⟨⟨?_, fun _ => mem_columns_ofRecords, ?_⟩, ⟨?_, labels_ofRecords records⟩, ?_, ?_,
    ofRecords_filter records⟩
  · rw [columns]
    exact nodup_firstOccurrences keys
  · rw [columns]
    exact firstOccurrences_ascend keys
  · simp [t, objects, rows_ofRecords]
  · intro row members atRow
    refine ⟨?_, fun _ _ => existsUnique_cell atRow, fun _ _ => exists_member atRow⟩
    intro column key atColumn
    rw [cell?_ofRecords atRow, atColumn, Option.map_some]
  · refine ⟨skippedRecords records, skippedRecords_ascend records, fun _ => mem_skippedRecords, ?_⟩
    rw [ofRecords, List.map_map]
    rfl

/-- Two objects between other values, of which the second one has a key of its own. -/
theorem ofRecords_placement_between :
    let second : List (String × Json) := [("c", .text "y"), ("b", .null)]
    let records : List Json :=
      [.null, .object [("b", .boolean true), ("a", .null)], .text "x", .object second]
    let t := (ofRecords records).value
    (records.filterMap Json.members?)[1]? = some second ∧ second.lookup "c" = some (.text "y") ∧
      ∃! column, t.columns[column]? = some "c" ∧ t.cell? 1 column = some (.text "y") := by
  intro second records t
  obtain ⟨-, -, placed, -⟩ := ofRecords_placement records
  exact ⟨rfl, rfl, (placed 1 second rfl).2.1 "c" (.text "y") rfl⟩

end Placed

end Table

end PagedReport
