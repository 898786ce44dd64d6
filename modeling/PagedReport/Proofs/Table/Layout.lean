import PagedReport.Table.SplitText
import PagedReport.Proofs.Json.Skipped

/-! Layouts read from text as they are read from JSON. A scan follows a reader of JSON if it takes the
written form of whatever the reader takes, to the same result; texts, cells and lists do, and so does
a whole object, whose other members are passed over. What a layout holds can then be settled on JSON
alone. -/
namespace PagedReport

namespace Cell

/-- The first kind that takes a scalar is the kind of its form; no kind takes a list or an object. -/
theorem decode?_eq (value : Json) :
    decode? value = if value.isScalar then some (ofJson value) else none := by
  cases value with
  | number n =>
    cases whole : n.toInt64? <;>
      simp [decode?, kinds, List.findSome?, asNull?, asBoolean?, asInteger?, asFloat?, ofJson, whole,
        Json.isScalar]
  | _ => rfl

end Cell

namespace Split

section Reading

variable {ε α β : Type}

theorem foldlM_cons_eq_ok_iff {f : β → α → Except ε β} {start final : β} {x : α} {xs : List α} :
    (x :: xs).foldlM f start = .ok final ↔
      ∃ next, f start x = .ok next ∧ xs.foldlM f next = .ok final := by
  rw [List.foldlM_cons, Json.bind_eq_ok_iff]

theorem mapM_eq_ok_iff (f : α → Except ε β) (xs : List α) (ys : List β) :
    xs.mapM f = .ok ys ↔ xs.map f = ys.map .ok := by
  induction xs generalizing ys with
  | nil => cases ys <;> simp [pure, Except.pure]
  | cons x xs ih =>
    rw [List.mapM_cons]
    cases first : f x with
    | error reason => cases ys <;> simp [bind, Except.bind, first]
    | ok y =>
      cases later : xs.mapM f with
      | error reason => cases ys <;> simp [bind, Except.bind, first, ← ih, later]
      | ok rest => cases ys <;> simp [bind, Except.bind, pure, Except.pure, first, ← ih, later]

theorem pairs_of_map_eq {f : α → Except ε β} {xs : List α} {ys : List β}
    (all : xs.map f = ys.map .ok) : ∃ pairs : List (α × β), pairs.map Prod.fst = xs ∧
      pairs.map Prod.snd = ys ∧ ∀ pair ∈ pairs, f pair.1 = .ok pair.2 := by
  induction xs generalizing ys with
  | nil =>
    obtain rfl : ys = [] := by simpa using all
    exact ⟨[], rfl, rfl, by simp⟩
  | cons x xs ih =>
    cases ys with
    | nil => simp at all
    | cons y ys =>
      obtain ⟨first, later⟩ := List.cons.inj all
      obtain ⟨pairs, rfl, rfl, answers⟩ := ih later
      exact ⟨(x, y) :: pairs, rfl, rfl, List.forall_mem_cons.2 ⟨first, answers⟩⟩

theorem listOf_eq_ok_iff (item : Json → Except Fault α) (value : Json) (xs : List α) :
    listOf item value = .ok xs ↔ ∃ items, value = .array items ∧ items.map item = xs.map .ok := by
  cases value with
  | array items => simp [listOf, mapM_eq_ok_iff]
  | _ => simp [listOf]

theorem textOf_eq_ok_iff (value : Json) (text : String) :
    textOf value = .ok text ↔ value = .text text := by
  cases value <;> simp [textOf]

theorem cellOf_eq_ok_iff (value : Json) (cell : Cell) :
    cellOf value = .ok cell ↔ value.isScalar ∧ .ofJson value = cell := by
  cases scalar : value.isScalar <;> simp [cellOf, Cell.decode?_eq, scalar]

end Reading

theorem listOf_texts (texts : List String) :
    listOf textOf (.array (texts.map .text)) = .ok texts := by
  rw [listOf_eq_ok_iff]
  exact ⟨_, rfl, by simp [textOf]⟩

theorem listOf_rows {rows : List (List Json)} (scalar : ∀ row ∈ rows, ∀ value ∈ row, value.isScalar) :
    listOf (listOf cellOf) (.array (rows.map .array)) = .ok (rows.map (·.map .ofJson)) := by
  have cells : ∀ row ∈ rows, listOf cellOf (.array row) = .ok (row.map .ofJson) := by
    intro row member
    have each : ∀ value ∈ row, cellOf value = .ok (.ofJson value) := fun value inRow =>
      (cellOf_eq_ok_iff value _).2 ⟨scalar row member value inRow, rfl⟩
    rw [listOf_eq_ok_iff]
    exact ⟨row, rfl, by rw [List.map_map]; exact List.map_congr_left each⟩
  rw [listOf_eq_ok_iff]
  exact ⟨_, rfl, by rw [List.map_map, List.map_map]; exact List.map_congr_left cells⟩

theorem setPart_columns (d : Draft) (texts : List String) :
    d.setPart .columns (.array (texts.map .text)) = .ok { d with columns := some texts } := by
  rw [Draft.setPart, listOf_texts]
  rfl

theorem setPart_index (d : Draft) (texts : List String) :
    d.setPart .index (.array (texts.map .text)) = .ok { d with index := some texts } := by
  rw [Draft.setPart, listOf_texts]
  rfl

theorem setPart_data (d : Draft) {rows : List (List Json)}
    (scalar : ∀ row ∈ rows, ∀ value ∈ row, value.isScalar) :
    d.setPart .data (.array (rows.map .array)) =
      .ok { d with data := some (rows.map (·.map .ofJson)) } := by
  rw [Draft.setPart, listOf_rows scalar]
  rfl

@[simp] theorem ofName?_name (part : Part) : Part.ofName? part.name = some part := by
  cases part <;> decide

theorem setMember_part {d next : Draft} {part : Part} {value : Json} (missing : d.has part = false)
    (read : d.setPart part value = .ok next) : d.setMember (part.name, value) = .ok next := by
  simp [Draft.setMember, missing, read]

theorem ofJson_object {members : List (String × Json)} {final : Draft} {split : Split}
    (parts : members.foldlM Draft.setMember .blank = .ok final) (finished : final.finish = .ok split) :
    ofJson (.object members) = .ok split := Json.bind_eq_ok_iff.2 ⟨final, parts, finished⟩

variable (rounds : Nat)

/-- A scan that takes the written form of what a reader takes, unless the text is too long. -/
def Follows {α : Type} (item : Scan α) (reader : Json → Except Fault α) : Prop :=
  ∀ value x, reader value = .ok x → value.written.length < rounds →
    ∀ rest, Json.EndsNumber rest → item (value.written ++ rest) = .ok (x, rest)

theorem scanText_follows [Json.DecimalReader] : Follows rounds scanText textOf := by
  intro value text read _ rest _
  obtain rfl := (textOf_eq_ok_iff value text).1 read
  rw [Json.written_text, Json.quoted_append]
  change lifted (Json.readText (text.toList.flatMap Json.escaped ++ '"' :: rest)) = _
  rw [Json.readText_written]
  rfl

theorem scanCell_follows [Json.FaithfulReader] : Follows rounds (scanCell rounds) cellOf := by
  intro value cell read _ rest ends
  obtain ⟨scalar, rfl⟩ := (cellOf_eq_ok_iff value cell).1 read
  simp only [scanCell, Json.readValue_scalar rounds cellDepth scalar ends, lifted, Except.mapError,
    bind, Except.bind, Cell.decode?_eq, scalar, if_true]

theorem scanList_follows [Json.DecimalReader] {α : Type} {item : Scan α} {reader : Json → Except Fault α}
    (follows : Follows rounds item reader) : Follows rounds (scanList rounds item) (listOf reader) := by
  intro value xs read short rest _
  obtain ⟨items, rfl, all⟩ := (listOf_eq_ok_iff reader value xs).1 read
  obtain ⟨pairs, rfl, rfl, answers⟩ := pairs_of_map_eq all
  obtain ⟨count, each⟩ := Json.length_le_array (pairs.map Prod.fst)
  rw [List.length_map] at count
  have reads (pair : Json × α) (member : pair ∈ pairs) (s : List Char) (ends : Json.EndsNumber s) :
      item (pair.1.written ++ s) = .ok (pair.2, s) := by
    have shorter := each pair.1 (List.mem_map_of_mem member)
    exact follows pair.1 pair.2 (answers pair member) (Nat.lt_trans shorter short) s ends
  obtain ⟨s, text, scanned⟩ :=
    Json.readItems_array ofJsonFault pairs rest reads (Nat.lt_trans count short)
  rw [text]
  exact scanned

theorem scanPart_follows [Json.FaithfulReader] (d : Draft) (part : Part) :
    Follows rounds (d.scanPart rounds part) (d.setPart part) := by
  have texts := scanList_follows rounds (scanText_follows rounds)
  have rows := scanList_follows rounds (scanList_follows rounds (scanCell_follows rounds))
  intro value next read short rest ends
  cases part with
  | columns =>
    obtain ⟨columns, list, ⟨⟩⟩ := Json.bind_eq_ok_iff.1 read
    simp only [Draft.scanPart, texts value columns list short rest ends, bind, Except.bind]
  | index =>
    obtain ⟨index, list, ⟨⟩⟩ := Json.bind_eq_ok_iff.1 read
    simp only [Draft.scanPart, texts value index list short rest ends, bind, Except.bind]
  | data =>
    obtain ⟨data, list, ⟨⟩⟩ := Json.bind_eq_ok_iff.1 read
    simp only [Draft.scanPart, rows value data list short rest ends, bind, Except.bind]

/-- A member that names a part is read as that part, and any other is passed over. -/
theorem scanMembers_member [Json.FaithfulReader] {left : Nat} {isFirst : Bool} {d next : Draft}
    {key : String} {value : Json} {s rest : List Char}
    (begins : Json.nextKey? isFirst s = .ok (some
      (key.toList.flatMap Json.escaped ++ '"' :: ':' :: (value.written ++ rest))))
    (read : d.setMember (key, value) = .ok next) (short : value.written.length < rounds)
    (ends : Json.EndsNumber rest) :
    scanMembers rounds (left + 1) isFirst d s = scanMembers rounds left false next rest := by
  cases named : Part.ofName? key with
  | none =>
    simp only [Draft.setMember, named] at read
    cases read
    simp only [scanMembers, begins, lifted, Except.mapError, bind, Except.bind,
      Json.readText_written, named, Json.colon_written, Json.skipValue_written short ends]
  | some part =>
    simp only [Draft.setMember, named] at read
    cases known : d.has part with
    | true => simp [known] at read
    | false =>
      simp only [known] at read
      have scanned := scanPart_follows rounds d part value next read short rest ends
      simp only [scanMembers, begins, lifted, Except.mapError, bind, Except.bind,
        Json.readText_written, named, known, Json.colon_written, scanned]
      rfl

/-- The first member is read as if it followed a comma. -/
theorem scanMembers_first [Json.DecimalReader] (left : Nat) (d : Draft) (key : String) (value : Json)
    (members : List (String × Json)) (rest : List Char) :
    scanMembers rounds (left + 1) true d
        (Json.quoted key ++ ':' :: (value.written ++ (Json.writtenMembers members ++ rest))) =
      scanMembers rounds (left + 1) false d (Json.writtenMembers ((key, value) :: members) ++ rest) := by
  have text : Json.writtenMembers ((key, value) :: members) ++ rest =
      ',' :: (Json.quoted key ++ ':' :: (value.written ++ (Json.writtenMembers members ++ rest))) := by
    simp [Json.writtenMembers_cons]
  simp only [text, scanMembers, Json.nextKey?_first, Json.nextKey?_later, lifted, Except.mapError, bind,
    Except.bind]

theorem scanMembers_later [Json.FaithfulReader] {members : List (String × Json)} {d final : Draft}
    (short : ∀ member ∈ members, member.2.written.length < rounds)
    (read : members.foldlM Draft.setMember d = .ok final) {left : Nat} (enough : members.length < left)
    (rest : List Char) :
    scanMembers rounds left false d (Json.writtenMembers members ++ rest) = final.finishAt rest := by
  induction members generalizing d left with
  | nil =>
    obtain ⟨⟩ := read
    obtain ⟨left, rfl⟩ := Nat.exists_eq_add_one_of_ne_zero (Nat.ne_zero_of_lt enough)
    rfl
  | cons member members ih =>
    obtain ⟨key, value⟩ := member
    obtain ⟨left, rfl⟩ := Nat.exists_eq_add_one_of_ne_zero (Nat.ne_zero_of_lt enough)
    obtain ⟨firstShort, short⟩ := List.forall_mem_cons.1 short
    obtain ⟨next, first, later⟩ := foldlM_cons_eq_ok_iff.1 read
    rw [← scanMembers_first, scanMembers_member rounds (Json.nextKey?_first _ _) first firstShort
      (Json.endsNumber_writtenMembers members rest)]
    exact ih short later (by simpa using enough)

theorem scan_object [Json.FaithfulReader] {members : List (String × Json)} {final : Draft}
    (short : ∀ member ∈ members, member.2.written.length < rounds)
    (read : members.foldlM Draft.setMember .blank = .ok final) (enough : members.length < rounds) :
    scan rounds (Json.object members).written = final.finishAt [] := by
  obtain ⟨left, rfl⟩ := Nat.exists_eq_add_one_of_ne_zero (Nat.ne_zero_of_lt enough)
  cases members with
  | nil =>
    obtain ⟨⟩ := read
    rfl
  | cons member members =>
    obtain ⟨key, value⟩ := member
    have text : (Json.object ((key, value) :: members)).written =
        '{' :: (Json.quoted key ++ ':' :: (value.written ++ (Json.writtenMembers members ++ []))) := by
      simp [Json.written_object_cons]
    rw [text]
    change scanMembers (left + 1) (left + 1) true .blank _ = _
    rw [scanMembers_first]
    exact scanMembers_later (left + 1) short read enough []

/-- Reads an item of a list as the part at its place. -/
def Draft.setPlace (d : Draft) (place : Part × Json) : Except Fault Draft := d.setPart place.1 place.2

/-- The parts that a list may have, in their order. -/
def parts : List Part := [.columns, .index, .data]

theorem ofJson_array (item : Json) (items : List Json) :
    ofJson (.array (item :: items)) =
      (parts.zip (item :: items)).foldlM Draft.setPlace .blank >>= fun draft =>
        if 3 < (item :: items).length then .error (.tooLong (item :: items).length)
        else draft.finish := by
  by_cases many : 3 < (item :: items).length
  · simp only [ofJson, many, if_true]
    rfl
  · simp only [ofJson, many, if_false]
    rfl

/-- The first item is read as if it followed a comma. -/
theorem scanParts_first [Json.DecimalReader] (part : Part) (later : List Part) (d : Draft) (v : Json)
    (items : List Json) (rest : List Char) :
    scanParts rounds (part :: later) true d (v.written ++ (Json.writtenItems items ++ rest)) =
      scanParts rounds (part :: later) false d (Json.writtenItems (v :: items) ++ rest) := by
  simp only [Json.writtenItems_cons, List.cons_append, List.append_assoc, scanParts, Json.nextItem?_first,
    Json.nextItem?_later, lifted, Except.mapError, bind, Except.bind]

theorem scanParts_later [Json.FaithfulReader] {parts : List Part} {items : List Json} {d final : Draft}
    (short : ∀ v ∈ items, v.written.length < rounds)
    (read : (parts.zip items).foldlM Draft.setPlace d = .ok final)
    (few : items.length ≤ parts.length) (rest : List Char) :
    scanParts rounds parts false d (Json.writtenItems items ++ rest) = final.finishAt rest := by
  induction parts generalizing items d with
  | nil =>
    obtain rfl := List.length_eq_zero_iff.1 (Nat.le_zero.1 few)
    obtain ⟨⟩ := read
    rfl
  | cons part parts ih =>
    cases items with
    | nil =>
      obtain ⟨⟩ := read
      rfl
    | cons v items =>
      obtain ⟨firstShort, short⟩ := List.forall_mem_cons.1 short
      obtain ⟨next, first, later⟩ := foldlM_cons_eq_ok_iff.1 read
      have scanned := scanPart_follows rounds d part v next first firstShort _
        (Json.endsNumber_writtenItems items rest)
      have text : Json.writtenItems (v :: items) ++ rest =
          ',' :: (v.written ++ (Json.writtenItems items ++ rest)) := by simp [Json.writtenItems_cons]
      simp only [text, scanParts, Json.nextItem?_later, lifted, Except.mapError, bind, Except.bind,
        scanned]
      exact ih short later (Nat.le_of_succ_le_succ few)

theorem scan_array [Json.FaithfulReader] {item : Json} {items : List Json} {final : Draft}
    (short : ∀ v ∈ item :: items, v.written.length < rounds)
    (read : (parts.zip (item :: items)).foldlM Draft.setPlace .blank = .ok final)
    (few : (item :: items).length ≤ 3) :
    scan rounds (Json.array (item :: items)).written = final.finishAt [] := by
  have text : (Json.array (item :: items)).written =
      '[' :: (item.written ++ (Json.writtenItems items ++ [])) := by simp [Json.written_array_cons]
  rw [text]
  change scanParts rounds parts true .blank _ = _
  rw [parts, scanParts_first]
  exact scanParts_later rounds short read few []

theorem finishAt_of_finish {d : Draft} {split : Split} (finished : d.finish = .ok split) (s : List Char) :
    d.finishAt s = .ok (split, s) := by
  rw [Draft.finishAt, finished]

theorem scan_follows [Json.FaithfulReader] {value : Json} {split : Split} (read : ofJson value = .ok split)
    (short : value.written.length < rounds) : scan rounds value.written = .ok (split, []) := by
  cases value with
  | object members =>
    obtain ⟨final, parts, finished⟩ := Json.bind_eq_ok_iff.1 read
    obtain ⟨count, each⟩ := Json.length_le_object members
    rw [scan_object rounds (fun member inside => Nat.lt_trans (each member inside) short) parts
      (Nat.lt_trans count short)]
    exact finishAt_of_finish finished []
  | array items =>
    cases items with
    | nil => contradiction
    | cons item items =>
      rw [ofJson_array] at read
      obtain ⟨final, parts, finished⟩ := Json.bind_eq_ok_iff.1 read
      obtain ⟨-, each⟩ := Json.length_le_array (item :: items)
      by_cases many : 3 < (item :: items).length
      · rw [if_pos many] at finished
        contradiction
      · rw [if_neg many] at finished
        rw [scan_array rounds (fun v inside => Nat.lt_trans (each v inside) short) parts
          (Nat.le_of_not_lt many)]
        exact finishAt_of_finish finished []
  | _ => contradiction

/-- Whatever layout a value holds, its text holds, for a reader that gives written numbers back. -/
theorem ofText_of_ofJson [Json.FaithfulReader] {value : Json} {split : Split}
    (read : ofJson value = .ok split) :
    ofText value.compact = .ok split := by
  have text : value.compact.toList = value.written := String.toList_ofList
  have scanned := scan_follows (Json.roundsFor value.written) read (Nat.lt_succ_self _)
  rw [ofText, text, scanned]
  rfl

end Split

end PagedReport
