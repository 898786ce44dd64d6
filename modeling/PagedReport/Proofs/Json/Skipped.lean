import PagedReport.Json.Skip
import PagedReport.Proofs.Json.Written

/-! Written values passed over. Passing over a number or a text stops where reading it stops. Brackets
are opened at most once for each character, so what is enough rounds for a text is enough depth for its
values, and `skipValue_written` holds for a value of any shape. -/
namespace PagedReport.Json

section Number

variable {negative : Bool} {n : Number} {s rest : List Char}

theorem skipSomeDigits_cons (fault : List Char → Located Fault) {c : Char} (s : List Char)
    (digit : c.isDigit) : skipSomeDigits fault (c :: s) = .ok (skipDigits (c :: s)) := by
  rw [skipSomeDigits, List.head?_cons, Option.any_some, if_pos digit]

theorem skipSomeDigits_of_takeWhile (fault : List Char → Located Fault) {s : List Char}
    (some : ¬ (s.takeWhile Char.isDigit).isEmpty = true) :
    skipSomeDigits fault s = .ok (s.dropWhile Char.isDigit) := by
  cases s with
  | nil => simp at some
  | cons c s =>
    cases digit : c.isDigit with
    | true => exact skipSomeDigits_cons fault s digit
    | false => simp [digit] at some

/-- Where an exponent ends does not depend on what is read from it. -/
theorem skipExponent_of_readExponent {significand : Nat} {power : Int}
    (read : readExponent significand s = .ok (power, rest)) : skipExponent s = .ok rest := by
  unfold readExponent at read
  split at read
  next minus digits sign =>
    have skipped : skipSomeDigits (.next .badNumber) digits = .ok rest := by
      split at read
      next => contradiction
      next c tail =>
        split at read
        next => contradiction
        next digit =>
          rw [skipSomeDigits_cons _ tail (by simpa using digit)]
          dsimp only at read
          split at read
          next => contradiction
          next =>
            cases read
            rfl
    split at sign
    next => cases sign; exact skipped
    next => cases sign; exact skipped
    next noPlus noMinus =>
      cases sign
      unfold skipExponent
      split
      next => exact absurd rfl (noPlus _)
      next => exact absurd rfl (noMinus _)
      next => exact skipped

theorem rest_of_rounded [DecimalReader] {decimal : Decimal} {s : List Char}
    (read : rounded negative decimal s = .ok (n, rest)) : rest = s := by
  unfold rounded at read
  split at read
  next => cases read; rfl
  next => contradiction

theorem rest_of_integral [DecimalReader] {digits : Nat}
    (read : integral negative digits s = .ok (n, rest)) : rest = s := by
  obtain ⟨value, signed⟩ : ∃ value, (if negative then -(digits : Int) else digits) = value := ⟨_, rfl⟩
  simp only [integral, signed] at read
  split at read
  next => cases read; rfl
  next => exact rest_of_rounded read

theorem skipExponent_of_rounded [DecimalReader] {significand : Nat} {decimal : Int × List Char → Decimal}
    (read : (readExponent significand s >>= fun exponent =>
      rounded negative (decimal exponent) exponent.2) = .ok (n, rest)) : skipExponent s = .ok rest := by
  obtain ⟨⟨power, left⟩, exponent, value⟩ := bind_eq_ok_iff.1 read
  obtain rfl := rest_of_rounded value
  exact skipExponent_of_readExponent exponent

theorem skipFraction_of_readFraction [DecimalReader] {whole : List Char}
    (read : readFraction negative whole s = .ok (n, rest)) : skipFraction s = .ok rest := by
  unfold readFraction at read
  split at read
  next tail =>
    dsimp only at read
    split at read
    next => contradiction
    next some =>
      have digits := skipSomeDigits_of_takeWhile (fun s => .next .badNumber (skipDigits s)) some
      split at read
      next ahead =>
        rw [skipFraction, digits, ahead]
        exact skipExponent_of_rounded read
      next ahead =>
        rw [skipFraction, digits, ahead]
        exact skipExponent_of_rounded read
      next noE noE' =>
        obtain rfl := rest_of_rounded read
        rw [skipFraction, digits]
        simp only [bind, Except.bind]
        rfl
  next tail => exact skipExponent_of_rounded read
  next tail => exact skipExponent_of_rounded read
  next noPoint noE noE' =>
    obtain rfl := rest_of_integral read
    unfold skipFraction
    split
    next => exact absurd rfl (noPoint _)
    next => exact absurd rfl (noE _)
    next => exact absurd rfl (noE' _)
    next => rfl

theorem skipNumber_of_readNumber [DecimalReader] (read : readNumber negative s = .ok (n, rest)) :
    skipNumber s = .ok rest := by
  unfold readNumber at read
  split at read
  next => contradiction
  next tail =>
    rw [skipNumber]
    split at read
    next => contradiction
    next none =>
      rw [if_neg none]
      exact skipFraction_of_readFraction read
  next c tail nonzero =>
    split at read
    next first =>
      have digit := isDigit_of_isOneToNine first
      rw [List.dropWhile_cons_of_pos digit] at read
      have fraction := skipFraction_of_readFraction read
      unfold skipNumber
      split
      next same => exact absurd (List.cons.inj same).1 nonzero
      next same =>
        obtain ⟨rfl, rfl⟩ := List.cons.inj same
        rw [if_pos first]
        exact fraction
      next same => cases same
    next => contradiction

end Number

theorem skipText_escaped (c : Char) (s : List Char) : skipText 0 (escaped c ++ s) = skipText 0 s := by
  unfold escaped
  split
  case h_8 =>
    split
    next control =>
      have read := fourHex_written (n := c.toNat) (by omega) s
      simp [skipText, skipEscape, read, bind, Except.bind, pure, Except.pure]
    next visible =>
      simp [skipText, visible]
  all_goals simp [skipText, skipEscape, bind, Except.bind]

theorem skipText_written (text : String) (rest : List Char) :
    skipText 0 (text.toList.flatMap escaped ++ '"' :: rest) = .ok rest := by
  induction text.toList with
  | nil => rfl
  | cons c cs ih => rw [List.flatMap_cons, List.append_assoc, skipText_escaped, ih]

theorem skipKey_written (key : String) (value : Json) (rest : List Char) :
    skipKey (quoted key ++ ':' :: (value.written ++ rest)) = .ok (value.written ++ rest) := by
  rw [quoted_append]
  change (skipText 0 (key.toList.flatMap escaped ++ '"' :: ':' :: (value.written ++ rest)) >>= colon) = _
  rw [skipText_written]
  exact colon_written value rest

theorem skipDeep_digit (rounds depth : Nat) {c : Char} (s : List Char) (digit : c.isDigit) :
    skipDeep rounds depth (c :: s) = skipNumber (c :: s) := by
  have apart (d : Char) (noDigit : d.isDigit = false) : c ≠ d := ne_of_isDigit digit noDigit
  unfold skipDeep
  rw [skipBlank_cons s (isBlank_of_isDigit digit)]
  split
  next none => cases none
  next same => exact absurd (List.cons.inj same).1 (apart 'n' rfl)
  next same => exact absurd (List.cons.inj same).1 (apart 't' rfl)
  next same => exact absurd (List.cons.inj same).1 (apart 'f' rfl)
  next same => exact absurd (List.cons.inj same).1 (apart '-' rfl)
  next same => exact absurd (List.cons.inj same).1 (apart '"' rfl)
  next same =>
    obtain ⟨rfl, rfl⟩ := List.cons.inj same
    rw [if_pos digit]

theorem skipDeep_scalar (rounds depth : Nat) {value : Json} (scalar : value.isScalar)
    {rest : List Char} (ends : EndsNumber rest) :
    skipDeep rounds depth (value.written ++ rest) = .ok rest := by
  cases value with
  | null => cases depth <;> rfl
  | boolean value => cases value <;> cases depth <;> rfl
  | number n =>
    obtain ⟨negative, body, text, read⟩ := readNumber_written n ends
    have skipped := skipNumber_of_readNumber read
    rw [written_number, text, List.append_assoc]
    cases negative with
    | true => cases depth <;> exact skipped
    | false =>
      obtain ⟨c, t, begins, digit⟩ := isDigit_of_readNumber read
      change skipDeep rounds depth (body ++ rest) = _
      rw [begins] at skipped ⊢
      rw [skipDeep_digit rounds depth t digit, skipped]
  | text text =>
    rw [written_text, quoted_append]
    cases depth <;> exact skipText_written text rest
  | array items => contradiction
  | object members => contradiction

section Rest

variable {close : Char} {unclosed unseparated : Fault}
  {item : List Char → Except (Located Fault) (List Char)} {rest : List Char}

theorem endsNumber_pieces (pieces : List (List Char)) (ends : EndsNumber (close :: rest)) :
    EndsNumber (pieces.flatMap (',' :: ·) ++ close :: rest) := by
  cases pieces with
  | nil => exact ends
  | cons piece pieces =>
    rw [List.flatMap_cons]
    exact endsNumber_cons _ rfl (by decide)

/-- What stands between brackets is passed over piece by piece. -/
theorem skipRest_later (visible : isBlank close = false) (noComma : close ≠ ',')
    (ends : EndsNumber (close :: rest)) (pieces : List (List Char))
    (skips : ∀ piece ∈ pieces, ∀ s, EndsNumber s → item (piece ++ s) = .ok s)
    {rounds : Nat} (enough : pieces.length < rounds) :
    skipRest close unclosed unseparated item rounds false
      (pieces.flatMap (',' :: ·) ++ close :: rest) = .ok rest := by
  induction pieces generalizing rounds with
  | nil =>
    obtain ⟨rounds, rfl⟩ := Nat.exists_eq_add_one_of_ne_zero (Nat.ne_zero_of_lt enough)
    simp [skipRest, skipBlank_cons _ visible]
  | cons piece pieces ih =>
    obtain ⟨rounds, rfl⟩ := Nat.exists_eq_add_one_of_ne_zero (Nat.ne_zero_of_lt enough)
    have first := skips piece (by simp) _ (endsNumber_pieces pieces ends)
    have later := ih (fun other member => skips other (by simp [member])) (by simpa using enough)
    have comma : isBlank ',' = false := rfl
    have apart : ¬ ',' = close := fun same => noComma same.symm
    rw [List.flatMap_cons, List.append_assoc, List.cons_append, skipRest, skipBlank_cons _ comma]
    simp only [if_neg apart, Bool.false_eq_true, if_false, if_true, first, later, bind, Except.bind]

theorem skipRest_first (visible : isBlank close = false) (noComma : close ≠ ',')
    (ends : EndsNumber (close :: rest)) {c : Char} {s : List Char} (shown : isBlank c = false)
    (apart : c ≠ close) (pieces : List (List Char))
    (skips : ∀ piece ∈ (c :: s) :: pieces, ∀ s, EndsNumber s → item (piece ++ s) = .ok s)
    {rounds : Nat} (enough : pieces.length + 1 < rounds) :
    skipRest close unclosed unseparated item rounds true
      ((c :: s) ++ (pieces.flatMap (',' :: ·) ++ close :: rest)) = .ok rest := by
  obtain ⟨rounds, rfl⟩ := Nat.exists_eq_add_one_of_ne_zero (Nat.ne_zero_of_lt enough)
  have first := skips (c :: s) (by simp) _ (endsNumber_pieces pieces ends)
  have later : skipRest close unclosed unseparated item rounds false _ = .ok rest :=
    skipRest_later visible noComma ends pieces (fun other member => skips other (by simp [member]))
      (Nat.lt_of_succ_lt_succ enough)
  rw [List.cons_append] at first ⊢
  rw [skipRest, skipBlank_cons _ shown]
  simp only [if_neg apart, if_true, first, later, bind, Except.bind]

end Rest

theorem writtenItems_append (items : List Json) (rest : List Char) :
    writtenItems items ++ rest = (items.map written).flatMap (',' :: ·) ++ ']' :: rest := by
  induction items with
  | nil => rfl
  | cons item items ih => simp [writtenItems_cons, ih]

/-- A member with its key. -/
def writtenMember (member : String × Json) : List Char := quoted member.1 ++ ':' :: member.2.written

theorem writtenMembers_append (members : List (String × Json)) (rest : List Char) :
    writtenMembers members ++ rest =
      (members.map writtenMember).flatMap (',' :: ·) ++ '}' :: rest := by
  induction members with
  | nil => rfl
  | cons member members ih => simp [writtenMembers_cons, writtenMember, ih]

theorem skipDeep_list (rounds depth : Nat) (s : List Char) : skipDeep rounds (depth + 1) ('[' :: s) =
    skipRest ']' .endInList .missingListEnd (skipDeep rounds depth) rounds true s := rfl

theorem skipDeep_object (rounds depth : Nat) (s : List Char) : skipDeep rounds (depth + 1) ('{' :: s) =
    skipRest '}' .endInObject .missingObjectEnd
      (fun s => skipKey s >>= skipDeep rounds depth) rounds true s := rfl

section Nested

variable {rounds depth : Nat} (rest : List Char)

theorem skipDeep_array {items : List Json} (enough : items.length < rounds)
    (skips : ∀ v ∈ items, ∀ s, EndsNumber s → skipDeep rounds depth (v.written ++ s) = .ok s) :
    skipDeep rounds (depth + 1) ((Json.array items).written ++ rest) = .ok rest := by
  cases items with
  | nil =>
    obtain ⟨rounds, rfl⟩ := Nat.exists_eq_add_one_of_ne_zero (Nat.ne_zero_of_lt enough)
    rw [written_array_nil]
    rfl
  | cons item items =>
    obtain ⟨c, s, begins, visible, noEnd⟩ := item.written_begins
    have text : (Json.array (item :: items)).written ++ rest =
        '[' :: ((c :: s) ++ ((items.map written).flatMap (',' :: ·) ++ ']' :: rest)) := by
      rw [written_array_cons, List.append_assoc, writtenItems_append, ← begins]
      rfl
    rw [text, skipDeep_list]
    apply skipRest_first rfl (by decide) (endsNumber_cons rest rfl (by decide)) visible noEnd
    · rw [← begins, ← List.map_cons]
      exact List.forall_mem_map.2 skips
    · rwa [List.length_map]

theorem skipDeep_members {members : List (String × Json)} (enough : members.length < rounds)
    (skips : ∀ member ∈ members, ∀ s, EndsNumber s →
      skipDeep rounds depth (member.2.written ++ s) = .ok s) :
    skipDeep rounds (depth + 1) ((Json.object members).written ++ rest) = .ok rest := by
  have skipMember (member : String × Json) (inside : member ∈ members) (s : List Char)
      (ends : EndsNumber s) :
      (skipKey (writtenMember member ++ s) >>= skipDeep rounds depth) = .ok s := by
    rw [writtenMember, List.append_assoc, List.cons_append, skipKey_written]
    exact skips member inside s ends
  cases members with
  | nil =>
    obtain ⟨rounds, rfl⟩ := Nat.exists_eq_add_one_of_ne_zero (Nat.ne_zero_of_lt enough)
    rw [written_object_nil]
    rfl
  | cons member members =>
    obtain ⟨key, value⟩ := member
    have begins : writtenMember (key, value) =
        '"' :: (key.toList.flatMap escaped ++ '"' :: ':' :: value.written) := quoted_append key _
    have text : (Json.object ((key, value) :: members)).written ++ rest =
        '{' :: (writtenMember (key, value) ++
          ((members.map writtenMember).flatMap (',' :: ·) ++ '}' :: rest)) := by
      rw [written_object_cons, List.append_assoc, writtenMembers_append]
      rfl
    rw [text, skipDeep_object, begins]
    apply skipRest_first rfl (by decide) (endsNumber_cons rest rfl (by decide)) rfl (by decide)
    · rw [← begins, ← List.map_cons]
      exact List.forall_mem_map.2 skipMember
    · rwa [List.length_map]

end Nested

theorem skipDeep_written (rounds : Nat) {depth : Nat} {value : Json}
    (shallow : value.written.length ≤ depth) (short : value.written.length < rounds) {rest : List Char}
    (ends : EndsNumber rest) : skipDeep rounds depth (value.written ++ rest) = .ok rest := by
  -- Each bracket takes one of the depth, and what it encloses is shorter than itself.
  induction depth generalizing value rest with
  | zero =>
    obtain ⟨c, s, begins, -, -⟩ := value.written_begins
    rw [begins] at shallow
    contradiction
  | succ depth ih =>
    cases value with
    | array items =>
      obtain ⟨count, each⟩ := length_le_array items
      apply skipDeep_array rest (Nat.lt_trans count short)
      intro v member s ends
      have shorter := each v member
      exact ih (by omega) (by omega) ends
    | object members =>
      obtain ⟨count, each⟩ := length_le_object members
      apply skipDeep_members rest (Nat.lt_trans count short)
      intro member inside s ends
      have shorter := each member inside
      exact ih (by omega) (by omega) ends
    | _ => exact skipDeep_scalar rounds _ rfl ends

/-- A written value is passed over up to its end. -/
theorem skipValue_written {rounds : Nat} {value : Json} (short : value.written.length < rounds)
    {rest : List Char} (ends : EndsNumber rest) :
    skipValue rounds (value.written ++ rest) = .ok rest :=
  skipDeep_written rounds (Nat.le_of_lt short) short ends

end PagedReport.Json
