import PagedReport.Proofs.Json.NumberText

/-! Written values read back. Texts are read escape by escape, and a scalar is read the same wherever
it stands. A list is read item by item: `readItems_array` asks only that each item be read from its own
written form, so it serves lists of texts, of cells and of rows alike. -/
namespace PagedReport.Json

theorem bind_eq_ok_iff {ε α β : Type} {x : Except ε α} {f : α → Except ε β} {y : β} :
    (x >>= f) = .ok y ↔ ∃ a, x = .ok a ∧ f a = .ok y := by
  cases x <;> simp [bind, Except.bind]

theorem hexValue?_hexDigit : ∀ n < 16, hexValue? (hexDigit n) = some n := by decide

theorem fourHex_written {n : Nat} (small : n < 256) (s : List Char) :
    fourHex ('0' :: '0' :: hexDigit (n / 16) :: hexDigit (n % 16) :: s) = .ok (n, s) := by
  have zero : hexValue? '0' = some 0 := rfl
  have high := hexValue?_hexDigit (n / 16) (by omega)
  have low := hexValue?_hexDigit (n % 16) (by omega)
  have value : 16 * (n / 16) + n % 16 = n := by omega
  simp [fourHex, zero, high, low, value]

theorem characters_escaped (c : Char) {s content rest : List Char}
    (more : characters 0 s = .ok (content, rest)) :
    characters 0 (escaped c ++ s) = .ok (c :: content, rest) := by
  unfold escaped
  split
  case h_8 =>
    split
    next control =>
      have read := fourHex_written (n := c.toNat) (by omega) s
      have noTrailing : isTrailingSurrogate c.toNat = false := by
        simp [isTrailingSurrogate]
        omega
      have noLeading : isLeadingSurrogate c.toNat = false := by
        simp [isLeadingSurrogate]
        omega
      simp [characters, escape, read, noTrailing, noLeading, more, bind, Except.bind, Char.ofNat_toNat]
    next visible =>
      simp [characters, visible, more, bind, Except.bind]
  all_goals simp [characters, escape, more, bind, Except.bind]

theorem readText_written (text : String) (rest : List Char) :
    readText (text.toList.flatMap escaped ++ '"' :: rest) = .ok (text, rest) := by
  have read (cs : List Char) :
      characters 0 (cs.flatMap escaped ++ '"' :: rest) = .ok (cs, rest) := by
    induction cs with
    | nil => rfl
    | cons c cs ih =>
      rw [List.flatMap_cons, List.append_assoc]
      exact characters_escaped c ih
  rw [readText, read]
  simp [bind, Except.bind]

theorem quoted_append (text : String) (rest : List Char) :
    quoted text ++ rest = '"' :: (text.toList.flatMap escaped ++ '"' :: rest) := by
  simp [quoted]

-- What each form is written as. Proofs go by these laws and leave the recursion closed.
theorem written_number (n : Number) : (Json.number n).written = n.written := rfl

theorem written_text (text : String) : (Json.text text).written = quoted text := rfl

theorem written_array_nil : (Json.array []).written = ['[', ']'] := rfl

theorem written_array_cons (item : Json) (items : List Json) :
    (Json.array (item :: items)).written = '[' :: item.written ++ writtenItems items := rfl

theorem written_object_nil : (Json.object []).written = ['{', '}'] := rfl

theorem written_object_cons (member : String × Json) (members : List (String × Json)) :
    (Json.object (member :: members)).written =
      '{' :: quoted member.1 ++ ':' :: member.2.written ++ writtenMembers members := rfl

theorem writtenItems_nil : writtenItems [] = [']'] := rfl

theorem writtenItems_cons (item : Json) (items : List Json) :
    writtenItems (item :: items) = ',' :: item.written ++ writtenItems items := rfl

theorem writtenMembers_nil : writtenMembers [] = ['}'] := rfl

theorem writtenMembers_cons (member : String × Json) (members : List (String × Json)) :
    writtenMembers (member :: members) =
      ',' :: quoted member.1 ++ ':' :: member.2.written ++ writtenMembers members := rfl

def isScalar : Json → Bool
  | .array _ | .object _ => false
  | _ => true

/-- A scalar is read back, whatever brackets would open. -/
theorem readValueWith_scalar [FaithfulReader] (opened : Char → Scan Json) {value : Json}
    (scalar : value.isScalar) {rest : List Char} (ends : EndsNumber rest) :
    readValueWith opened (value.written ++ rest) = .ok (value, rest) := by
  cases value with
  | null => rfl
  | boolean value => cases value <;> rfl
  | number n =>
    rw [written_number]
    exact readValueWith_number opened n ends
  | text text =>
    rw [written_text, quoted_append]
    change (readText _ >>= fun read => Except.ok (Json.text read.1, read.2)) = _
    rw [readText_written]
    rfl
  | array items => contradiction
  | object members => contradiction

theorem readValue_scalar [FaithfulReader] (rounds depth : Nat) {value : Json} (scalar : value.isScalar)
    {rest : List Char} (ends : EndsNumber rest) :
    readValue rounds depth (value.written ++ rest) = .ok (value, rest) := by
  cases depth with
  | zero => exact readValueWith_scalar _ scalar ends
  | succ depth => exact readValueWith_scalar _ scalar ends

theorem written_array (items : List Json) : ∃ s, (Json.array items).written = '[' :: s := by
  cases items with
  | nil => exact ⟨_, written_array_nil⟩
  | cons item items => exact ⟨_, by rw [written_array_cons, List.cons_append]⟩

theorem written_object (members : List (String × Json)) :
    ∃ s, (Json.object members).written = '{' :: s := by
  cases members with
  | nil => exact ⟨_, written_object_nil⟩
  | cons member members =>
    exact ⟨_, by rw [written_object_cons, List.cons_append, List.cons_append]⟩

/-- A value shows its form by its first character, which is no blank and no end of a list. -/
theorem written_opens (value : Json) : ∃ c s, value.written = c :: s ∧
    (isBlank c = false ∧ c ≠ ']') ∧ (c = '"' → ∃ text, value = .text text) ∧
    (c = '[' → ∃ items, value = .array items) ∧ (c = '{' → ∃ members, value = .object members) := by
  cases value with
  | null => exact ⟨'n', _, rfl, by decide, by simp⟩
  | boolean value =>
    cases value with
    | true => exact ⟨'t', _, rfl, by decide, by simp⟩
    | false => exact ⟨'f', _, rfl, by decide, by simp⟩
  | number n =>
    have ends : EndsNumber [] := by simp [EndsNumber]
    obtain ⟨negative, body, text, read⟩ := readNumber_written n ends
    obtain ⟨c, s, begins, digit⟩ := isDigit_of_readNumber read
    rw [List.append_nil] at begins
    rw [written_number, text, begins]
    cases negative with
    | true => exact ⟨'-', c :: s, rfl, by decide, by simp⟩
    | false =>
      have apart (d : Char) (noDigit : d.isDigit = false) : c ≠ d := ne_of_isDigit digit noDigit
      refine ⟨c, s, rfl, ⟨isBlank_of_isDigit digit, apart ']' rfl⟩, ?_, ?_, ?_⟩
      · exact fun same => absurd same (apart '"' rfl)
      · exact fun same => absurd same (apart '[' rfl)
      · exact fun same => absurd same (apart '{' rfl)
  | text text => exact ⟨'"', _, by rw [written_text, quoted, List.cons_append], by decide, by simp⟩
  | array items =>
    obtain ⟨s, begins⟩ := written_array items
    exact ⟨'[', s, begins, by decide, by simp⟩
  | object members =>
    obtain ⟨s, begins⟩ := written_object members
    exact ⟨'{', s, begins, by decide, by simp⟩

theorem written_begins (value : Json) :
    ∃ c s, value.written = c :: s ∧ isBlank c = false ∧ c ≠ ']' := by
  obtain ⟨c, s, begins, visible, -⟩ := value.written_opens
  exact ⟨c, s, begins, visible⟩

theorem endsNumber_cons {c : Char} (s : List Char) (noDigit : c.isDigit = false)
    (noPart : c ≠ '.' ∧ c ≠ 'e' ∧ c ≠ 'E') : EndsNumber (c :: s) := by
  rintro d ⟨⟩
  exact ⟨noDigit, noPart⟩

theorem endsNumber_writtenItems (items : List Json) (rest : List Char) :
    EndsNumber (writtenItems items ++ rest) := by
  cases items with
  | nil => exact endsNumber_cons rest rfl (by decide)
  | cons item items =>
    rw [writtenItems_cons]
    exact endsNumber_cons _ rfl (by decide)

section List

variable {ε α β : Type} (lift : Located Fault → ε) {item : List Char → Except ε (α × List Char)}
  {json : β → Json} {value : β → α}

theorem nextItem?_first (v : Json) (rest : List Char) :
    nextItem? true (v.written ++ rest) = .ok (some (v.written ++ rest)) := by
  obtain ⟨c, s, begins, visible, noEnd⟩ := v.written_begins
  rw [begins]
  simp [nextItem?, visible]

theorem nextItem?_later (v : Json) (rest : List Char) :
    nextItem? false (',' :: (v.written ++ rest)) = .ok (some (v.written ++ rest)) := by
  obtain ⟨c, s, begins, visible, noEnd⟩ := v.written_begins
  have comma : isBlank ',' = false := rfl
  rw [begins]
  simp [nextItem?, itemAfterComma, visible, noEnd, comma, Functor.map, Except.map]

theorem readItems_writtenItems (items : List β) (rest : List Char)
    (reads : ∀ x ∈ items, ∀ s, EndsNumber s → item ((json x).written ++ s) = .ok (value x, s))
    {rounds : Nat} (enough : items.length < rounds) :
    readItems lift item rounds false (writtenItems (items.map json) ++ rest) =
      .ok (items.map value, rest) := by
  induction items generalizing rounds with
  | nil =>
    cases rounds with
    | zero => exact absurd enough (Nat.not_lt_zero _)
    | succ rounds => rfl
  | cons x items ih =>
    cases rounds with
    | zero => exact absurd enough (Nat.not_lt_zero _)
    | succ rounds =>
      have first := reads x (by simp) _ (endsNumber_writtenItems (items.map json) rest)
      have more := ih (fun y member => reads y (List.mem_cons_of_mem x member))
        (Nat.lt_of_succ_lt_succ enough)
      simp only [List.map_cons, writtenItems_cons, List.cons_append, List.append_assoc, readItems,
        nextItem?_later, Except.mapError, bind, Except.bind, first, more]

/-- The first item is read as if it followed a comma. -/
theorem readItems_first (rounds : Nat) (v : Json) (items : List Json) (rest : List Char) :
    readItems lift item (rounds + 1) true (v.written ++ (writtenItems items ++ rest)) =
      readItems lift item (rounds + 1) false (writtenItems (v :: items) ++ rest) := by
  simp only [writtenItems_cons, List.cons_append, List.append_assoc, readItems, nextItem?_first,
    nextItem?_later, Except.mapError, bind, Except.bind]

theorem readItems_array (items : List β) (rest : List Char)
    (reads : ∀ x ∈ items, ∀ s, EndsNumber s → item ((json x).written ++ s) = .ok (value x, s))
    {rounds : Nat} (enough : items.length < rounds) :
    ∃ s, (Json.array (items.map json)).written ++ rest = '[' :: s ∧
      readItems lift item rounds true s = .ok (items.map value, rest) := by
  obtain ⟨rounds, rfl⟩ := Nat.exists_eq_add_one_of_ne_zero (Nat.ne_zero_of_lt enough)
  cases items with
  | nil => exact ⟨']' :: rest, by rw [List.map_nil, written_array_nil]; rfl, rfl⟩
  | cons x items =>
    refine ⟨(json x).written ++ (writtenItems (items.map json) ++ rest), by simp [written_array_cons], ?_⟩
    rw [readItems_first]
    exact readItems_writtenItems lift (x :: items) rest reads enough

end List

theorem nextKey?_first (text : String) (rest : List Char) :
    nextKey? true (quoted text ++ rest) =
      .ok (some (text.toList.flatMap escaped ++ '"' :: rest)) := by
  rw [quoted_append]
  rfl

theorem nextKey?_later (text : String) (rest : List Char) :
    nextKey? false (',' :: (quoted text ++ rest)) =
      .ok (some (text.toList.flatMap escaped ++ '"' :: rest)) := by
  rw [quoted_append]
  rfl

theorem colon_written (value : Json) (rest : List Char) :
    colon (':' :: (value.written ++ rest)) = .ok (value.written ++ rest) := rfl

theorem length_le_writtenItems (items : List Json) :
    items.length < (writtenItems items).length ∧
      ∀ v ∈ items, v.written.length < (writtenItems items).length := by
  induction items with
  | nil => simp [writtenItems_nil]
  | cons v items ih =>
    obtain ⟨count, each⟩ := ih
    simp only [writtenItems_cons, List.length_append, List.length_cons]
    refine ⟨by omega, ?_⟩
    intro w member
    rcases List.mem_cons.1 member with rfl | inItems
    · omega
    · have bound := each w inItems
      omega

theorem endsNumber_writtenMembers (members : List (String × Json)) (rest : List Char) :
    EndsNumber (writtenMembers members ++ rest) := by
  cases members with
  | nil => exact endsNumber_cons rest rfl (by decide)
  | cons member members =>
    rw [writtenMembers_cons]
    exact endsNumber_cons _ rfl (by decide)

theorem length_le_writtenMembers (members : List (String × Json)) :
    members.length < (writtenMembers members).length ∧
      ∀ member ∈ members, member.2.written.length < (writtenMembers members).length := by
  induction members with
  | nil => simp [writtenMembers_nil]
  | cons member members ih =>
    obtain ⟨count, each⟩ := ih
    obtain ⟨key, value⟩ := member
    simp only [writtenMembers_cons, List.length_append, List.length_cons, List.forall_mem_cons]
    refine ⟨by omega, by omega, ?_⟩
    intro other member
    have bound := each other member
    omega

/-- An opening bracket takes the place of the first comma. -/
theorem length_le_object (members : List (String × Json)) :
    members.length < (Json.object members).written.length ∧
      ∀ member ∈ members, member.2.written.length < (Json.object members).written.length := by
  cases members with
  | nil => simp [written_object_nil]
  | cons member members =>
    obtain ⟨key, value⟩ := member
    have same : (Json.object ((key, value) :: members)).written.length =
        (writtenMembers ((key, value) :: members)).length := by
      simp [written_object_cons, writtenMembers_cons]
    rw [same]
    exact length_le_writtenMembers _

theorem length_le_array (items : List Json) :
    items.length < (Json.array items).written.length ∧
      ∀ v ∈ items, v.written.length < (Json.array items).written.length := by
  cases items with
  | nil => simp [written_array_nil]
  | cons v items =>
    obtain ⟨count, each⟩ := length_le_writtenItems items
    simp only [written_array_cons, List.length_append, List.length_cons]
    refine ⟨by omega, ?_⟩
    intro w member
    rcases List.mem_cons.1 member with rfl | inItems
    · omega
    · have bound := each w inItems
      omega

end PagedReport.Json
