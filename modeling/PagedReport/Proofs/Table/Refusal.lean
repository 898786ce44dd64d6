import PagedReport.Proofs.Table.Layout

/-! Layouts that are refused. What is no layout as JSON is none as text either: a scan fails on the
written form of whatever its reader refuses, since the first character of a value already says whether
it is a text, a list or an object. Together with what scans take, a value and its text hold the same
layout or none (`ofText_compact`). -/
namespace PagedReport

/-- No result, whatever the fault. -/
def Fails {ε α : Type} (result : Except ε α) : Prop := ∃ fault, result = .error fault

section Failing

variable {ε α β : Type} {x : Except ε α} {f : α → Except ε β}

theorem Fails.bind (fails : Fails x) : Fails (x >>= f) := by
  obtain ⟨fault, rfl⟩ := fails
  exact ⟨fault, rfl⟩

theorem not_fails_ok (a : α) : ¬ Fails (.ok a : Except ε α) := by
  rintro ⟨fault, same⟩
  cases same

theorem mapM_fails_iff (f : α → Except ε β) (xs : List α) :
    Fails (xs.mapM f) ↔ ∃ x ∈ xs, Fails (f x) := by
  induction xs with
  | nil => simp [Fails, pure, Except.pure]
  | cons x xs ih =>
    simp only [List.mapM_cons, List.mem_cons, exists_eq_or_imp, ← ih]
    cases first : f x <;> cases later : xs.mapM f <;>
      simp [Fails, bind, Except.bind, pure, Except.pure]

end Failing

namespace Split

theorem mismatch_fails [Json.DecimalReader] {α : Type} (expected : Expected) (s : List Char) :
    Fails (mismatch expected s : Except (Json.Located TextFault) (α × List Char)) := by
  unfold mismatch
  split
  next => exact ⟨_, rfl⟩
  next => exact ⟨_, rfl⟩
  next =>
    cases lifted (Json.readValue 0 0 s) <;> exact ⟨_, rfl⟩

variable (rounds : Nat)

/-- A scan that fails on the written form of what a reader refuses. -/
def Refuses {α : Type} (item : Scan α) (reader : Json → Except Fault α) : Prop :=
  ∀ value, Fails (reader value) → value.written.length < rounds →
    ∀ rest, Json.EndsNumber rest → Fails (item (value.written ++ rest))

theorem scanText_refuses [Json.DecimalReader] : Refuses rounds scanText textOf := by
  intro value refused _ rest _
  obtain ⟨c, s, begins, ⟨visible, -⟩, isText, -⟩ := value.written_opens
  rw [begins, List.cons_append, scanText, Json.skipBlank_cons _ visible]
  split
  next same => cases same
  next same =>
    obtain ⟨text, rfl⟩ := isText (List.cons.inj same).1
    exact absurd refused (not_fails_ok _)
  next => exact mismatch_fails _ _

theorem isScalar_of_opened [Json.DecimalReader] {rounds depth : Nat} {c : Char} (opens : c = '[' ∨ c = '{')
    {s rest : List Char} {value : Json}
    (read : Json.readValue rounds depth (c :: s) = .ok (value, rest)) : value.isScalar = false := by
  cases depth with
  | zero =>
    rcases opens with rfl | rfl <;> contradiction
  | succ depth =>
    rcases opens with rfl | rfl
    · obtain ⟨⟨items, left⟩, -, ⟨⟩⟩ := Json.bind_eq_ok_iff.1 read
      rfl
    · obtain ⟨⟨members, left⟩, -, ⟨⟩⟩ := Json.bind_eq_ok_iff.1 read
      rfl

theorem scanCell_refuses [Json.DecimalReader] : Refuses rounds (scanCell rounds) cellOf := by
  intro value refused _ rest _
  have opened : ∃ c s, (c = '[' ∨ c = '{') ∧ value.written = c :: s := by
    cases scalar : value.isScalar with
    | true =>
      have read := (cellOf_eq_ok_iff value _).2 ⟨scalar, rfl⟩
      exact absurd (read ▸ refused) (not_fails_ok _)
    | false =>
      cases value with
      | array items =>
        obtain ⟨s, begins⟩ := Json.written_array items
        exact ⟨'[', s, .inl rfl, begins⟩
      | object members =>
        obtain ⟨s, begins⟩ := Json.written_object members
        exact ⟨'{', s, .inr rfl, begins⟩
      | _ => contradiction
  obtain ⟨c, s, opens, begins⟩ := opened
  rw [begins, List.cons_append, scanCell]
  cases read : Json.readValue rounds cellDepth (c :: (s ++ rest)) with
  | error fault => exact ⟨_, rfl⟩
  | ok result =>
    have noCell : Cell.decode? result.1 = none := by
      rw [Cell.decode?_eq, isScalar_of_opened opens read]
      rfl
    simp only [lifted, Except.mapError, bind, Except.bind, noCell]
    exact ⟨_, rfl⟩

section List

variable {α ε : Type} (lift : Json.Located Json.Fault → ε)
  {item : List Char → Except ε (α × List Char)} {items : List Json} (rest : List Char)
  (answers : ∀ v ∈ items, ∀ s, Json.EndsNumber s →
    (∃ x, item (v.written ++ s) = .ok (x, s)) ∨ Fails (item (v.written ++ s)))
  (refused : ∃ v ∈ items, ∀ s, Json.EndsNumber s → Fails (item (v.written ++ s)))

include answers refused in
/-- Items are read in turn, up to the first that fails. -/
theorem readItems_writtenItems_fails :
    Fails (Json.readItems lift item rounds false (Json.writtenItems items ++ rest)) := by
  induction items generalizing rounds with
  | nil =>
    obtain ⟨v, member, -⟩ := refused
    cases member
  | cons v items ih =>
    cases rounds with
    | zero => exact ⟨_, rfl⟩
    | succ rounds =>
      have ends := Json.endsNumber_writtenItems items rest
      simp only [Json.writtenItems_cons, List.cons_append, List.append_assoc, Json.readItems,
        Json.nextItem?_later, Except.mapError]
      rcases answers v (by simp) _ ends with ⟨x, read⟩ | failed
      · have later : ∃ w ∈ items, ∀ s, Json.EndsNumber s → Fails (item (w.written ++ s)) := by
          obtain ⟨w, member, fails⟩ := refused
          rcases List.mem_cons.1 member with rfl | later
          · exact absurd (read ▸ fails _ ends) (not_fails_ok _)
          · exact ⟨w, later, fails⟩
        have failed := ih rounds (fun w member => answers w (by simp [member])) later
        simp only [bind, Except.bind, read]
        exact failed.bind
      · exact failed.bind

include answers refused in
theorem readItems_array_fails : ∃ s, (Json.array items).written ++ rest = '[' :: s ∧
    Fails (Json.readItems lift item rounds true s) := by
  cases items with
  | nil =>
    obtain ⟨v, member, -⟩ := refused
    cases member
  | cons v items =>
    refine ⟨v.written ++ (Json.writtenItems items ++ rest), by simp [Json.written_array_cons], ?_⟩
    cases rounds with
    | zero => exact ⟨_, rfl⟩
    | succ rounds =>
      rw [Json.readItems_first]
      exact readItems_writtenItems_fails (rounds + 1) lift rest answers refused

end List

theorem scanList_refuses [Json.DecimalReader] {α : Type} {item : Scan α} {reader : Json → Except Fault α}
    (follows : Follows rounds item reader) (refuses : Refuses rounds item reader) :
    Refuses rounds (scanList rounds item) (listOf reader) := by
  intro value refused short rest _
  obtain ⟨c, s, begins, ⟨visible, -⟩, -, isList, -⟩ := value.written_opens
  by_cases list : ∃ items, value = .array items
  · obtain ⟨items, rfl⟩ := list
    obtain ⟨-, each⟩ := Json.length_le_array items
    obtain ⟨bad, member, badRefused⟩ := (mapM_fails_iff reader items).1 refused
    obtain ⟨s, text, failed⟩ := readItems_array_fails rounds ofJsonFault rest
      (fun v inside s ends => by
        have shorter := Nat.lt_trans (each v inside) short
        cases read : reader v with
        | ok x => exact .inl ⟨x, follows v x read shorter s ends⟩
        | error fault => exact .inr (refuses v ⟨fault, read⟩ shorter s ends))
      ⟨bad, member, fun s ends => refuses bad badRefused (Nat.lt_trans (each bad member) short) s ends⟩
    rw [text]
    exact failed
  · rw [begins, List.cons_append, scanList, Json.skipBlank_cons _ visible]
    split
    next same => cases same
    next same => exact absurd (isList (List.cons.inj same).1) list
    next => exact mismatch_fails _ _

theorem fails_of_bind_ok {ε α β : Type} {x : Except ε α} {f : α → β}
    (fails : Fails (x >>= fun a => Except.ok (f a))) : Fails x := by
  cases x with
  | error fault => exact ⟨fault, rfl⟩
  | ok a => exact absurd fails (not_fails_ok _)

theorem scanPart_refuses [Json.FaithfulReader] (d : Draft) (part : Part) :
    Refuses rounds (d.scanPart rounds part) (d.setPart part) := by
  have texts := scanList_refuses rounds (scanText_follows rounds) (scanText_refuses rounds)
  have rows := scanList_refuses rounds
    (scanList_follows rounds (scanCell_follows rounds))
    (scanList_refuses rounds (scanCell_follows rounds) (scanCell_refuses rounds))
  intro value refused short rest ends
  cases part with
  | columns => exact (texts value (fails_of_bind_ok refused) short rest ends).bind
  | index => exact (texts value (fails_of_bind_ok refused) short rest ends).bind
  | data => exact (rows value (fails_of_bind_ok refused) short rest ends).bind

theorem foldlM_cons_fails {ε α β : Type} {f : β → α → Except ε β} {start : β} {x : α} {xs : List α}
    (fails : Fails ((x :: xs).foldlM f start)) :
    Fails (f start x) ∨ ∃ next, f start x = .ok next ∧ Fails (xs.foldlM f next) := by
  rw [List.foldlM_cons] at fails
  cases first : f start x with
  | error fault => exact .inl ⟨fault, rfl⟩
  | ok next =>
    rw [first] at fails
    exact .inr ⟨next, rfl, fails⟩

theorem scanMembers_member_fails [Json.FaithfulReader] {left : Nat} {isFirst : Bool} {d : Draft}
    {key : String} {value : Json} {s rest : List Char}
    (begins : Json.nextKey? isFirst s = .ok (some
      (key.toList.flatMap Json.escaped ++ '"' :: ':' :: (value.written ++ rest))))
    (refused : Fails (d.setMember (key, value))) (short : value.written.length < rounds)
    (ends : Json.EndsNumber rest) : Fails (scanMembers rounds (left + 1) isFirst d s) := by
  cases named : Part.ofName? key with
  | none =>
    simp only [Draft.setMember, named] at refused
    exact absurd refused (not_fails_ok _)
  | some part =>
    simp only [Draft.setMember, named] at refused
    cases known : d.has part with
    | true =>
      simp only [scanMembers, begins, lifted, Except.mapError, bind, Except.bind,
        Json.readText_written, named, known]
      exact ⟨_, rfl⟩
    | false =>
      simp only [known] at refused
      have failed := scanPart_refuses rounds d part value refused short rest ends
      simp only [scanMembers, begins, lifted, Except.mapError, bind, Except.bind,
        Json.readText_written, named, known, Json.colon_written]
      exact failed.bind

theorem scanMembers_later_fails [Json.FaithfulReader] {members : List (String × Json)} {d : Draft}
    (short : ∀ member ∈ members, member.2.written.length < rounds)
    (refused : Fails (members.foldlM Draft.setMember d)) (left : Nat) (rest : List Char) :
    Fails (scanMembers rounds left false d (Json.writtenMembers members ++ rest)) := by
  induction members generalizing d left with
  | nil => exact absurd refused (not_fails_ok _)
  | cons member members ih =>
    obtain ⟨key, value⟩ := member
    cases left with
    | zero => exact ⟨_, rfl⟩
    | succ left =>
      obtain ⟨firstShort, short⟩ := List.forall_mem_cons.1 short
      have ends := Json.endsNumber_writtenMembers members rest
      rw [← scanMembers_first]
      rcases foldlM_cons_fails refused with failed | ⟨next, first, later⟩
      · exact scanMembers_member_fails rounds (Json.nextKey?_first _ _) failed firstShort ends
      · rw [scanMembers_member rounds (Json.nextKey?_first _ _) first firstShort ends]
        exact ih short later left

/-- A list of parts fails at a part that is refused or at the first item that is no part. -/
theorem scanParts_later_fails [Json.FaithfulReader] {parts : List Part} {items : List Json} {d : Draft}
    (short : ∀ v ∈ items, v.written.length < rounds)
    (refused : Fails ((parts.zip items).foldlM Draft.setPlace d) ∨ parts.length < items.length)
    (rest : List Char) :
    Fails (scanParts rounds parts false d (Json.writtenItems items ++ rest)) := by
  induction parts generalizing items d with
  | nil =>
    have long : 0 < items.length := refused.resolve_left (not_fails_ok d)
    obtain ⟨v, items, rfl⟩ := List.exists_cons_of_length_pos long
    rw [Json.writtenItems_cons, scanParts]
    simp only [List.cons_append, Json.skipBlank_cons _ (rfl : Json.isBlank ',' = false)]
    split <;> exact ⟨_, rfl⟩
  | cons part parts ih =>
    cases items with
    | nil =>
      rcases refused with failed | long
      · exact absurd failed (not_fails_ok _)
      · contradiction
    | cons v items =>
      obtain ⟨firstShort, short⟩ := List.forall_mem_cons.1 short
      have ends := Json.endsNumber_writtenItems items rest
      rw [← scanParts_first]
      simp only [scanParts, Json.nextItem?_first, lifted, Except.mapError]
      cases first : d.setPart part v with
      | error fault => exact (scanPart_refuses rounds d part v ⟨fault, first⟩ firstShort _ ends).bind
      | ok next =>
        have later : Fails ((parts.zip items).foldlM Draft.setPlace next) ∨
            parts.length < items.length := by
          refine refused.imp ?_ Nat.lt_of_succ_lt_succ
          intro failed
          have placed : d.setPlace (part, v) = .ok next := first
          rcases foldlM_cons_fails failed with failed | ⟨other, same, failed⟩
          · exact absurd (placed ▸ failed) (not_fails_ok _)
          · cases placed.symm.trans same
            exact failed
        have failed := ih short later
        simp only [bind, Except.bind, scanPart_follows rounds d part v next first firstShort _ ends]
        exact failed

theorem finishAt_fails {d : Draft} (unfinished : Fails d.finish) (s : List Char) :
    Fails (d.finishAt s) := by
  obtain ⟨fault, failed⟩ := unfinished
  rw [Draft.finishAt, failed]
  exact ⟨_, rfl⟩

theorem scan_object_fails [Json.FaithfulReader] {members : List (String × Json)}
    (refused : Fails (ofJson (.object members)))
    (short : (Json.object members).written.length < rounds) :
    Fails (scan rounds (Json.object members).written) := by
  obtain ⟨count, each⟩ := Json.length_le_object members
  have inside : ∀ member ∈ members, member.2.written.length < rounds := fun member inside =>
    Nat.lt_trans (each member inside) short
  cases parts : members.foldlM Draft.setMember .blank with
  | ok final =>
    rw [ofJson, parts] at refused
    rw [scan_object rounds inside parts (Nat.lt_trans count short)]
    exact finishAt_fails refused []
  | error fault =>
    obtain ⟨left, rfl⟩ := Nat.exists_eq_add_one_of_ne_zero (Nat.ne_zero_of_lt short)
    cases members with
    | nil => contradiction
    | cons member members =>
      obtain ⟨key, value⟩ := member
      have text : (Json.object ((key, value) :: members)).written =
          '{' :: (Json.quoted key ++ ':' :: (value.written ++ (Json.writtenMembers members ++ []))) := by
        simp [Json.written_object_cons]
      rw [text]
      change Fails (scanMembers (left + 1) (left + 1) true .blank _)
      rw [scanMembers_first]
      exact scanMembers_later_fails (left + 1) inside ⟨fault, parts⟩ (left + 1) []

theorem scan_array_fails [Json.FaithfulReader] {items : List Json} (refused : Fails (ofJson (.array items)))
    (short : (Json.array items).written.length < rounds) :
    Fails (scan rounds (Json.array items).written) := by
  obtain ⟨-, each⟩ := Json.length_le_array items
  have inside : ∀ v ∈ items, v.written.length < rounds := fun v inside =>
    Nat.lt_trans (each v inside) short
  cases items with
  | nil =>
    rw [Json.written_array_nil]
    exact ⟨_, rfl⟩
  | cons item items =>
    rw [ofJson_array] at refused
    have failed : Fails ((parts.zip (item :: items)).foldlM Draft.setPlace .blank) ∨
        3 < (item :: items).length → Fails (scan rounds (Json.array (item :: items)).written) := by
      intro reason
      have text : (Json.array (item :: items)).written =
          '[' :: (item.written ++ (Json.writtenItems items ++ [])) := by simp [Json.written_array_cons]
      rw [text]
      change Fails (scanParts rounds parts true .blank _)
      rw [parts, scanParts_first]
      exact scanParts_later_fails rounds inside reason []
    cases read : (parts.zip (item :: items)).foldlM Draft.setPlace .blank with
    | error fault => exact failed (.inl ⟨fault, read⟩)
    | ok final =>
      by_cases many : 3 < (item :: items).length
      · exact failed (.inr many)
      · rw [read] at refused
        simp only [bind, Except.bind, if_neg many] at refused
        rw [scan_array rounds inside read (Nat.le_of_not_lt many)]
        exact finishAt_fails refused []

theorem scan_refuses [Json.FaithfulReader] {value : Json} (refused : Fails (ofJson value))
    (short : value.written.length < rounds) : Fails (scan rounds value.written) := by
  by_cases list : ∃ items, value = .array items
  · obtain ⟨items, rfl⟩ := list
    exact scan_array_fails rounds refused short
  by_cases object : ∃ members, value = .object members
  · obtain ⟨members, rfl⟩ := object
    exact scan_object_fails rounds refused short
  obtain ⟨c, s, begins, ⟨visible, -⟩, -, isList, isObject⟩ := value.written_opens
  rw [begins, scan, Json.skipBlank_cons _ visible]
  split
  next same => cases same
  next same => exact absurd (isList (List.cons.inj same).1) list
  next same => exact absurd (isObject (List.cons.inj same).1) object
  next => exact mismatch_fails _ _

/-- A value and its text hold the same layout or none. -/
theorem ofText_compact [Json.FaithfulReader] (value : Json) (split : Split) :
    ofText value.compact = .ok split ↔ ofJson value = .ok split := by
  constructor
  · intro read
    cases answer : ofJson value with
    | ok other =>
      rw [ofText_of_ofJson answer] at read
      cases read
      rfl
    | error fault =>
      have text : value.compact.toList = value.written := String.toList_ofList
      have failed := scan_refuses (Json.roundsFor value.written) ⟨fault, answer⟩ (Nat.lt_succ_self _)
      rw [ofText, text] at read
      exact absurd (read ▸ failed.bind) (not_fails_ok split)
  · exact ofText_of_ofJson

end Split

end PagedReport
