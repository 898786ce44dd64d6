import Mathlib.Tactic.MkIffOfInductiveProp
import PagedReport.Proofs.Table.History
import PagedReport.Proofs.Table.Refusal

/-! Which JSON is a table. `Split.Holds` says it without a reader: an object has each part once or not at
all, whatever its other members are, and a list has the parts in their order. Readers take exactly this,
from JSON and from text (`Table.accepts_iff_holds`), and the table is a function of the three parts. -/
namespace PagedReport

/-- The values of an object's members under a name. -/
def Json.under (name : String) (members : List (String × Json)) : List Json :=
  (members.filter (·.1 = name)).map Prod.snd

namespace Split

def IsTexts (value : Json) (texts : List String) : Prop := value = .array (texts.map .text)

/-- A list of lists of scalars, each the cell that its form gives. -/
def IsRows (value : Json) (data : List (List Cell)) : Prop :=
  ∃ rows : List (List Json), value = .array (rows.map .array) ∧
    (∀ row ∈ rows, ∀ cell ∈ row, cell.isScalar) ∧ data = rows.map (·.map .ofJson)

/-- No value, which is an empty part, or one value that is of a shape. -/
def Optionally {α : Type} (shape : Json → List α → Prop) (values : List Json) (part : List α) : Prop :=
  (values = [] ∧ part = []) ∨ ∃ value, values = [value] ∧ shape value part

/-- The JSON of a layout. -/
inductive Holds : Json → Split → Prop where
  | object {members : List (String × Json)} {s : Split} :
      (∃ value, Json.under "columns" members = [value] ∧ IsTexts value s.columns) →
      Optionally IsTexts (Json.under "index" members) s.index →
      Optionally IsRows (Json.under "data" members) s.data → Holds (.object members) s
  | list {first : Json} {more : List Json} {s : Split} : IsTexts first s.columns →
      Optionally IsTexts (more.take 1) s.index → Optionally IsRows (more.drop 1) s.data →
      Holds (.array (first :: more)) s

section Shape

theorem listOf_texts_iff (value : Json) (texts : List String) :
    listOf textOf value = .ok texts ↔ IsTexts value texts := by
  constructor
  · intro read
    obtain ⟨items, rfl, all⟩ := (listOf_eq_ok_iff textOf value texts).1 read
    obtain ⟨pairs, rfl, rfl, answers⟩ := pairs_of_map_eq all
    rw [IsTexts, List.map_map]
    congr 1
    apply List.map_congr_left
    intro pair member
    exact (textOf_eq_ok_iff pair.1 pair.2).1 (answers pair member)
  · rintro rfl
    exact listOf_texts texts

theorem cells_of_map_eq {row : List Json} {cells : List Cell} (all : row.map cellOf = cells.map .ok) :
    (∀ cell ∈ row, cell.isScalar) ∧ cells = row.map .ofJson := by
  obtain ⟨pairs, rfl, rfl, answers⟩ := pairs_of_map_eq all
  constructor
  · intro cell member
    obtain ⟨pair, inside, rfl⟩ := List.mem_map.1 member
    exact ((cellOf_eq_ok_iff pair.1 pair.2).1 (answers pair inside)).1
  · rw [List.map_map]
    apply List.map_congr_left
    intro pair member
    exact ((cellOf_eq_ok_iff pair.1 pair.2).1 (answers pair member)).2.symm

theorem rows_of_map_eq {items : List Json} {data : List (List Cell)}
    (all : items.map (listOf cellOf) = data.map .ok) : IsRows (.array items) data := by
  induction items generalizing data with
  | nil =>
    obtain rfl : data = [] := by simpa using all
    exact ⟨[], rfl, by simp, rfl⟩
  | cons item items ih =>
    cases data with
    | nil => simp at all
    | cons cells data =>
      obtain ⟨first, later⟩ := List.cons.inj all
      obtain ⟨row, rfl, each⟩ := (listOf_eq_ok_iff cellOf item cells).1 first
      obtain ⟨rowScalar, rfl⟩ := cells_of_map_eq each
      obtain ⟨rows, same, scalar, rfl⟩ := ih later
      obtain rfl := Json.array.inj same
      exact ⟨row :: rows, rfl, List.forall_mem_cons.2 ⟨rowScalar, scalar⟩, rfl⟩

theorem listOf_rows_iff (value : Json) (data : List (List Cell)) :
    listOf (listOf cellOf) value = .ok data ↔ IsRows value data := by
  constructor
  · intro read
    obtain ⟨items, rfl, all⟩ := (listOf_eq_ok_iff _ value data).1 read
    exact rows_of_map_eq all
  · rintro ⟨rows, rfl, scalar, rfl⟩
    exact listOf_rows scalar

variable {d next : Draft} {value : Json}

theorem setPart_columns_iff : d.setPart .columns value = .ok next ↔
    ∃ texts, IsTexts value texts ∧ { d with columns := some texts } = next := by
  simp only [Draft.setPart, Json.bind_eq_ok_iff, listOf_texts_iff, pure, Except.pure, Except.ok.injEq]

theorem setPart_index_iff : d.setPart .index value = .ok next ↔
    ∃ texts, IsTexts value texts ∧ { d with index := some texts } = next := by
  simp only [Draft.setPart, Json.bind_eq_ok_iff, listOf_texts_iff, pure, Except.pure, Except.ok.injEq]

theorem setPart_data_iff : d.setPart .data value = .ok next ↔
    ∃ data, IsRows value data ∧ { d with data := some data } = next := by
  simp only [Draft.setPart, Json.bind_eq_ok_iff, listOf_rows_iff, pure, Except.pure, Except.ok.injEq]

end Shape

section Slot

variable {α : Type} {shape : Json → α → Prop}

/-- Values put into a slot, which takes one and no more. -/
inductive Filled (shape : Json → α → Prop) : Option α → List Json → Option α → Prop where
  | kept {slot : Option α} : Filled shape slot [] slot
  | read {value : Json} {x : α} {values : List Json} {after : Option α} : shape value x →
      Filled shape (some x) values after → Filled shape none (value :: values) after

@[simp] theorem filled_nil_iff {before after : Option α} :
    Filled shape before [] after ↔ after = before := by
  constructor
  · rintro ⟨⟩
    rfl
  · rintro rfl
    exact .kept

theorem filled_cons_iff {before after : Option α} {value : Json} {values : List Json} :
    Filled shape before (value :: values) after ↔
      before = none ∧ ∃ x, shape value x ∧ Filled shape (some x) values after := by
  constructor
  · rintro (_ | ⟨read, later⟩)
    exact ⟨rfl, _, read, later⟩
  · rintro ⟨rfl, x, read, later⟩
    exact .read read later

theorem filled_append_iff {before after : Option α} {values more : List Json} :
    Filled shape before (values ++ more) after ↔
      ∃ between, Filled shape before values between ∧ Filled shape between more after := by
  induction values generalizing before with
  | nil => simp
  | cons value values ih =>
    simp only [List.cons_append, filled_cons_iff, ih]
    constructor
    · rintro ⟨rfl, x, read, between, first, later⟩
      exact ⟨between, ⟨rfl, x, read, first⟩, later⟩
    · rintro ⟨between, ⟨rfl, x, read, first⟩, later⟩
      exact ⟨rfl, x, read, between, first, later⟩

/-- An empty slot is filled by one value at most. -/
theorem filled_none_iff {values : List Json} {after : Option α} :
    Filled shape none values after ↔
      (values = [] ∧ after = none) ∨ ∃ value x, values = [value] ∧ shape value x ∧ after = some x := by
  cases values with
  | nil => simp
  | cons value values =>
    rw [filled_cons_iff]
    cases values with
    | nil => simp
    | cons other values => simp [filled_cons_iff]

end Slot

/-- What stands under the names of the parts fills a draft. -/
@[mk_iff] structure Fills (values : Part → List Json) (before after : Draft) : Prop where
  columns : Filled IsTexts before.columns (values .columns) after.columns
  index : Filled IsTexts before.index (values .index) after.index
  data : Filled IsRows before.data (values .data) after.data

theorem fills_nil_iff {before after : Draft} : Fills (fun _ => []) before after ↔ after = before := by
  constructor
  · rintro ⟨columns, index, data⟩
    cases before
    cases after
    simp_all
  · rintro rfl
    exact ⟨.kept, .kept, .kept⟩

theorem fills_append_iff {values more : Part → List Json} {before after : Draft} :
    Fills (fun part => values part ++ more part) before after ↔
      ∃ between, Fills values before between ∧ Fills more between after := by
  constructor
  · rintro ⟨columns, index, data⟩
    obtain ⟨columns, firstColumns, laterColumns⟩ := filled_append_iff.1 columns
    obtain ⟨index, firstIndex, laterIndex⟩ := filled_append_iff.1 index
    obtain ⟨data, firstData, laterData⟩ := filled_append_iff.1 data
    exact ⟨⟨columns, index, data⟩, ⟨firstColumns, firstIndex, firstData⟩,
      ⟨laterColumns, laterIndex, laterData⟩⟩
  · rintro ⟨between, first, later⟩
    exact ⟨filled_append_iff.2 ⟨_, first.columns, later.columns⟩,
      filled_append_iff.2 ⟨_, first.index, later.index⟩,
      filled_append_iff.2 ⟨_, first.data, later.data⟩⟩

/-- One value for one part. -/
def only (part : Part) (value : Json) (other : Part) : List Json := if other = part then [value] else []

theorem fills_only_iff {part : Part} {value : Json} {before after : Draft} :
    Fills (only part value) before after ↔
      before.has part = false ∧ before.setPart part value = .ok after := by
  obtain ⟨columns, index, data⟩ := after
  rw [fills_iff]
  cases part with
  | columns =>
    simp only [only, filled_cons_iff, filled_nil_iff, if_true, reduceCtorEq, if_false, Draft.has,
      Option.isSome_eq_false_iff, Option.isNone_iff_eq_none, setPart_columns_iff, Draft.mk.injEq]
    constructor
    · rintro ⟨⟨missing, texts, read, rfl⟩, rfl, rfl⟩
      exact ⟨missing, texts, read, rfl, rfl, rfl⟩
    · rintro ⟨missing, texts, read, rfl, rfl, rfl⟩
      exact ⟨⟨missing, texts, read, rfl⟩, rfl, rfl⟩
  | index =>
    simp only [only, filled_cons_iff, filled_nil_iff, if_true, reduceCtorEq, if_false, Draft.has,
      Option.isSome_eq_false_iff, Option.isNone_iff_eq_none, setPart_index_iff, Draft.mk.injEq]
    constructor
    · rintro ⟨rfl, ⟨missing, texts, read, rfl⟩, rfl⟩
      exact ⟨missing, texts, read, rfl, rfl, rfl⟩
    · rintro ⟨missing, texts, read, rfl, rfl, rfl⟩
      exact ⟨rfl, ⟨missing, texts, read, rfl⟩, rfl⟩
  | data =>
    simp only [only, filled_cons_iff, filled_nil_iff, if_true, reduceCtorEq, if_false, Draft.has,
      Option.isSome_eq_false_iff, Option.isNone_iff_eq_none, setPart_data_iff, Draft.mk.injEq]
    constructor
    · rintro ⟨rfl, rfl, missing, rows, read, rfl⟩
      exact ⟨missing, rows, read, rfl, rfl, rfl⟩
    · rintro ⟨missing, rows, read, rfl, rfl, rfl⟩
      exact ⟨rfl, rfl, missing, rows, read, rfl⟩

theorem name_of_ofName? {key : String} {part : Part} (named : Part.ofName? key = some part) :
    part.name = key := by
  have found := List.find?_some named
  simpa using found

theorem name_injective {part other : Part} (same : part.name = other.name) : part = other := by
  cases part <;> cases other <;> first | rfl | exact absurd same (by decide)

theorem setMember_iff {before after : Draft} (member : String × Json) :
    before.setMember member = .ok after ↔
      Fills (fun part => Json.under part.name [member]) before after := by
  obtain ⟨key, value⟩ := member
  cases named : Part.ofName? key with
  | none =>
    have other : (fun part : Part => Json.under part.name [(key, value)]) = fun _ => [] := by
      funext part
      have apart : key ≠ part.name := by
        rintro rfl
        rw [ofName?_name] at named
        contradiction
      simp [Json.under, apart]
    rw [other, fills_nil_iff, Draft.setMember, named]
    simp [eq_comm]
  | some part =>
    obtain rfl := name_of_ofName? named
    have one : (fun other : Part => Json.under other.name [(part.name, value)]) = only part value := by
      funext other
      by_cases same : other = part
      · subst same
        simp [Json.under, only]
      · have apart : part.name ≠ other.name := fun names => same (name_injective names).symm
        simp [Json.under, only, same, apart]
    rw [one, fills_only_iff, Draft.setMember, named]
    cases known : before.has part <;> simp [known]

theorem foldlM_setMember_iff {members : List (String × Json)} {before after : Draft} :
    members.foldlM Draft.setMember before = .ok after ↔
      Fills (fun part => Json.under part.name members) before after := by
  induction members generalizing before with
  | nil =>
    change Except.ok before = Except.ok after ↔ Fills (fun _ => []) before after
    rw [fills_nil_iff, Except.ok.injEq, eq_comm]
  | cons member members ih =>
    have split : (fun part : Part => Json.under part.name (member :: members)) =
        fun part => Json.under part.name [member] ++ Json.under part.name members := by
      funext part
      rw [Json.under, Json.under, Json.under, ← List.map_append, ← List.filter_append]
      rfl
    rw [foldlM_cons_eq_ok_iff, split, fills_append_iff]
    simp only [setMember_iff, ih]

theorem finish_iff {d : Draft} {s : Split} : d.finish = .ok s ↔
    d.columns = some s.columns ∧ s.index = d.index.getD [] ∧ s.data = d.data.getD [] := by
  obtain ⟨columns, index, data⟩ := s
  cases known : d.columns with
  | none => simp [Draft.finish, known]
  | some texts => simp [Draft.finish, known, eq_comm]

theorem optionally_iff {α : Type} {shape : Json → List α → Prop} {values : List Json} {part : List α} :
    Optionally shape values part ↔ ∃ slot, Filled shape none values slot ∧ part = slot.getD [] := by
  constructor
  · rintro (⟨rfl, rfl⟩ | ⟨value, rfl, read⟩)
    · exact ⟨none, .kept, rfl⟩
    · exact ⟨some part, .read read .kept, rfl⟩
  · rintro ⟨slot, filled, rfl⟩
    rcases filled_none_iff.1 filled with ⟨rfl, rfl⟩ | ⟨value, x, rfl, read, rfl⟩
    · exact .inl ⟨rfl, rfl⟩
    · exact .inr ⟨value, rfl, read⟩

theorem ofJson_object_iff {members : List (String × Json)} {s : Split} :
    ofJson (.object members) = .ok s ↔ Holds (.object members) s := by
  constructor
  · intro read
    obtain ⟨final, parts, finished⟩ := Json.bind_eq_ok_iff.1 read
    obtain ⟨columns, index, data⟩ := foldlM_setMember_iff.1 parts
    obtain ⟨hasColumns, indexEq, dataEq⟩ := finish_iff.1 finished
    rw [hasColumns] at columns
    refine .object ?_ (optionally_iff.2 ⟨_, index, indexEq⟩) (optionally_iff.2 ⟨_, data, dataEq⟩)
    rcases filled_none_iff.1 columns with ⟨-, none⟩ | ⟨value, texts, one, read, same⟩
    · contradiction
    · cases same
      exact ⟨value, one, read⟩
  · rintro (⟨⟨value, one, read⟩, index, data⟩)
    obtain ⟨indexSlot, fillsIndex, indexEq⟩ := optionally_iff.1 index
    obtain ⟨dataSlot, fillsData, dataEq⟩ := optionally_iff.1 data
    have columns : Filled IsTexts none (Json.under "columns" members) (some s.columns) :=
      filled_none_iff.2 (.inr ⟨value, s.columns, one, read, rfl⟩)
    exact Json.bind_eq_ok_iff.2 ⟨⟨some s.columns, indexSlot, dataSlot⟩,
      foldlM_setMember_iff.2 ⟨columns, fillsIndex, fillsData⟩, finish_iff.2 ⟨rfl, indexEq, dataEq⟩⟩

/-- The parts of a list are where their order puts them; what comes after them is not looked at. -/
theorem foldlM_setPlace_iff {first : Json} {more : List Json} {final : Draft} :
    (parts.zip (first :: more)).foldlM Draft.setPlace .blank = .ok final ↔
      (∃ texts, IsTexts first texts ∧ final.columns = some texts) ∧
      Filled IsTexts none (more.take 1) final.index ∧
      Filled IsRows none ((more.drop 1).take 1) final.data := by
  obtain ⟨columns, index, data⟩ := final
  cases more with
  | nil =>
    simp only [parts, List.zip_cons_cons, List.zip_nil_right, foldlM_cons_eq_ok_iff, List.foldlM_nil,
      Draft.setPlace, setPart_columns_iff, pure, Except.pure, Except.ok.injEq, List.take_nil,
      List.drop_nil, filled_nil_iff]
    constructor
    · rintro ⟨_, ⟨texts, isTexts, rfl⟩, ⟨⟩⟩
      exact ⟨⟨texts, isTexts, rfl⟩, rfl, rfl⟩
    · rintro ⟨⟨texts, isTexts, rfl⟩, rfl, rfl⟩
      exact ⟨_, ⟨texts, isTexts, rfl⟩, rfl⟩
  | cons second more =>
    cases more with
    | nil =>
      simp only [parts, List.zip_cons_cons, List.zip_nil_right, foldlM_cons_eq_ok_iff, List.foldlM_nil,
        Draft.setPlace, setPart_columns_iff, setPart_index_iff, pure, Except.pure, Except.ok.injEq,
        List.take_succ_cons, List.drop_succ_cons, List.take_nil, List.drop_nil, filled_nil_iff,
        filled_cons_iff]
      constructor
      · rintro ⟨_, ⟨texts, isTexts, rfl⟩, _, ⟨labels, isLabels, rfl⟩, ⟨⟩⟩
        exact ⟨⟨texts, isTexts, rfl⟩, ⟨trivial, labels, isLabels, rfl⟩, rfl⟩
      · rintro ⟨⟨texts, isTexts, rfl⟩, ⟨-, labels, isLabels, rfl⟩, rfl⟩
        exact ⟨_, ⟨texts, isTexts, rfl⟩, _, ⟨labels, isLabels, rfl⟩, rfl⟩
    | cons third more =>
      simp only [parts, List.zip_cons_cons, List.zip_nil_left, foldlM_cons_eq_ok_iff, List.foldlM_nil,
        Draft.setPlace, setPart_columns_iff, setPart_index_iff, setPart_data_iff, pure, Except.pure,
        Except.ok.injEq, List.take_succ_cons, List.drop_succ_cons, List.take_zero, List.drop_zero,
        filled_nil_iff, filled_cons_iff]
      constructor
      · rintro ⟨_, ⟨texts, isTexts, rfl⟩, _, ⟨labels, isLabels, rfl⟩, _, ⟨rows, isRows, rfl⟩, ⟨⟩⟩
        exact ⟨⟨texts, isTexts, rfl⟩, ⟨trivial, labels, isLabels, rfl⟩, trivial, rows, isRows, rfl⟩
      · rintro ⟨⟨texts, isTexts, rfl⟩, ⟨-, labels, isLabels, rfl⟩, -, rows, isRows, rfl⟩
        exact ⟨_, ⟨texts, isTexts, rfl⟩, _, ⟨labels, isLabels, rfl⟩, _, ⟨rows, isRows, rfl⟩, rfl⟩

theorem ofJson_list_iff {first : Json} {more : List Json} {s : Split} :
    ofJson (.array (first :: more)) = .ok s ↔ Holds (.array (first :: more)) s := by
  rw [ofJson_array, Json.bind_eq_ok_iff]
  constructor
  · rintro ⟨final, read, finished⟩
    by_cases many : 3 < (first :: more).length
    · rw [if_pos many] at finished
      contradiction
    · rw [if_neg many] at finished
      obtain ⟨⟨texts, isTexts, hasTexts⟩, index, data⟩ := foldlM_setPlace_iff.1 read
      obtain ⟨hasColumns, indexEq, dataEq⟩ := finish_iff.1 finished
      have few : (more.drop 1).take 1 = more.drop 1 := by
        apply List.take_of_length_le
        simp at many ⊢
        omega
      rw [few] at data
      cases hasTexts.symm.trans hasColumns
      exact .list isTexts (optionally_iff.2 ⟨_, index, indexEq⟩) (optionally_iff.2 ⟨_, data, dataEq⟩)
  · rintro (_ | ⟨isTexts, index, data⟩)
    have few : (more.drop 1).length ≤ 1 := by
      rcases data with ⟨none, -⟩ | ⟨value, one, -⟩
      · simp [none]
      · simp [one]
    obtain ⟨indexSlot, fillsIndex, indexEq⟩ := optionally_iff.1 index
    obtain ⟨dataSlot, fillsData, dataEq⟩ := optionally_iff.1 data
    refine ⟨⟨some s.columns, indexSlot, dataSlot⟩,
      foldlM_setPlace_iff.2 ⟨⟨s.columns, isTexts, rfl⟩, fillsIndex, ?_⟩, ?_⟩
    · rwa [List.take_of_length_le few]
    · have short : ¬ 3 < (first :: more).length := by
        simp at few ⊢
        omega
      rw [if_neg short]
      exact finish_iff.2 ⟨rfl, indexEq, dataEq⟩

/-- Readers of JSON take exactly the layouts. -/
theorem ofJson_iff (value : Json) (s : Split) : ofJson value = .ok s ↔ Holds value s := by
  cases value with
  | object members => exact ofJson_object_iff
  | array items =>
    cases items with
    | nil =>
      constructor
      · intro read
        contradiction
      · rintro ⟨⟩
    | cons first more => exact ofJson_list_iff
  | _ =>
    constructor
    · intro read
      contradiction
    · rintro ⟨⟩

end Split

namespace Table

/-- The table of a layout: its columns, and a row for each list of cells, under the label at its place or
that place itself. -/
theorem toTable_rows (s : Split) : s.toTable.columns = s.columns ∧
    s.toTable.rows = s.data.mapIdx fun i cells => ⟨s.index[i]?.getD (toString i),
      cells.take s.columns.length ++ List.replicate (s.columns.length - cells.length) .null⟩ := by
  rw [Split.toTable, Split.addRows_eq_grow]
  constructor
  · exact columns_grow _ _
  · rw [rows_grow]
    apply List.ext_getElem <;> simp [empty, Push.row, fitted]

/-- JSON is a table, read as such or from its compact text, if and only if it holds a layout; and the
table is a function of the layout's three parts. The text is read by any reader of decimals that gives
written numbers back. -/
theorem accepts_iff_holds [Json.FaithfulReader] (value : Json) :
    ((∃ t, ofJson value = .ok t) ↔ ∃ s, Split.Holds value s) ∧
    ((∃ t, ofText value.compact = .ok t) ↔ ∃ s, Split.Holds value s) ∧
    ∀ s, Split.Holds value s →
      ofJson value = .ok s.toTable ∧ ofText value.compact = .ok s.toTable ∧
      s.toTable.columns = s.columns ∧
      s.toTable.rows = s.data.mapIdx fun i cells => ⟨s.index[i]?.getD (toString i),
        cells.take s.columns.length ++ List.replicate (s.columns.length - cells.length) .null⟩ := by
  have asJson (s : Split) (holds : Split.Holds value s) : ofJson value = .ok s.toTable := by
    rw [ofJson, (Split.ofJson_iff value s).2 holds]
    rfl
  have asText (s : Split) (holds : Split.Holds value s) : ofText value.compact = .ok s.toTable := by
    rw [ofText, (Split.ofText_compact value s).2 ((Split.ofJson_iff value s).2 holds)]
  refine ⟨⟨?_, ?_⟩, ⟨?_, ?_⟩, ?_⟩
  · rintro ⟨t, read⟩
    rw [ofJson] at read
    cases split : Split.ofJson value with
    | error fault =>
      rw [split] at read
      contradiction
    | ok s => exact ⟨s, (Split.ofJson_iff value s).1 split⟩
  · rintro ⟨s, holds⟩
    exact ⟨_, asJson s holds⟩
  · rintro ⟨t, read⟩
    rw [ofText] at read
    cases split : Split.ofText value.compact with
    | error fault =>
      rw [split] at read
      contradiction
    | ok s => exact ⟨s, (Split.ofJson_iff value s).1 ((Split.ofText_compact value s).1 split)⟩
  · rintro ⟨s, holds⟩
    exact ⟨_, asText s holds⟩
  · intro s holds
    exact ⟨asJson s holds, asText s holds, toTable_rows s⟩

/-- Members in another order and one that names no part, a label for the first row only, and rows that are
too short and too long: the same table as the list of its parts. -/
theorem accepts_scrambled :
    let columns : Json := .array [.text "p", .text "q"]
    let index : Json := .array [.text "a"]
    let data : Json := .array [.array [.boolean true], .array [.null, .text "x", .null]]
    let scrambled : Json := .object [("data", data), ("note", .object [("deep", .array [.array []])]),
      ("index", index), ("columns", columns)]
    let list : Json := .array [columns, index, data]
    ∃ t, ofJson scrambled = .ok t ∧ ofText scrambled.compact = .ok t ∧
      ofJson list = .ok t ∧ ofText list.compact = .ok t ∧ t.columns = ["p", "q"] ∧
      t.rows = [⟨"a", [.boolean true, .null]⟩, ⟨"1", [.null, .text "x"]⟩] := by
  intro columns index data scrambled list
  let s : Split := ⟨["p", "q"], ["a"], [[.boolean true], [.null, .text "x", .null]]⟩
  have rows : Split.IsRows data s.data := by
    refine ⟨[[.boolean true], [.null, .text "x", .null]], rfl, by decide, rfl⟩
  have asObject : Split.Holds scrambled s :=
    .object ⟨columns, rfl, rfl⟩ (.inr ⟨index, rfl, rfl⟩) (.inr ⟨data, rfl, rows⟩)
  have asList : Split.Holds list s := .list rfl (.inr ⟨index, rfl, rfl⟩) (.inr ⟨data, rfl, rows⟩)
  obtain ⟨-, -, readsObject⟩ := accepts_iff_holds scrambled
  obtain ⟨-, -, readsList⟩ := accepts_iff_holds list
  obtain ⟨objectJson, objectText, names, cells⟩ := readsObject s asObject
  obtain ⟨listJson, listText, -⟩ := readsList s asList
  refine ⟨s.toTable, objectJson, objectText, listJson, listText, names, ?_⟩
  have second : toString 1 = "1" := by decide
  rw [cells, ← second]
  rfl

end Table

end PagedReport
