import ClusterOperator.Instant.Text
import ClusterOperator.Proofs.Instant.Calendar
import ClusterOperator.Proofs.Instant.Parts

/-!
# Written forms of instants

The written form of an instant is made up of the parts that say it. So it is read back, if a time
stamp can be that time at all.
-/

namespace ClusterOperator

namespace Text

/-- The text is a number in decimal digits, with zeros in front or without. -/
structure Spells (digits : List Char) (value : Nat) : Prop where
  isSome : digits ≠ []
  isDigit : ∀ c ∈ digits, c.isDigit
  value_eq : decimalValue digits = value

theorem toList_padded (width n : Nat) :
    (padded width n).toList =
      List.replicate (width - (Nat.toDigits 10 n).length) '0' ++ Nat.toDigits 10 n := by
  simp only [padded, String.toList_append, String.toList_ofList, Nat.toString_eq_repr,
    ← String.length_toList, Nat.toList_repr]

theorem spells_padded (width n : Nat) : Spells (padded width n).toList n where
  isSome := by
    rw [toList_padded]
    exact List.append_ne_nil_of_right_ne_nil _ Nat.toDigits_ne_nil
  isDigit := by
    rw [toList_padded]
    intro c there
    rcases List.mem_append.mp there with inFront | there
    · rw [List.eq_of_mem_replicate inFront]
      rfl
    · exact Nat.isDigit_of_mem_toDigits (by decide) (by decide) there
  value_eq := by
    rw [toList_padded, decimalValue_eq, Nat.ofDigitChars_append, Nat.ofDigitChars_replicate_zero,
      Nat.mul_zero, Nat.ofDigitChars_ten_toDigits]

theorem length_padded {width n : Nat} (wide : 0 < width) (small : n < Nat.pow 10 width) :
    (padded width n).toList.length = width := by
  have short : (Nat.toDigits 10 n).length ≤ width :=
    (Nat.length_toDigits_le_iff (by decide) wide).mpr small
  rw [toList_padded, List.length_append, List.length_replicate]
  omega

theorem isBlank_of_isDigit {c : Char} (digit : c.isDigit) : isBlank c = false := by
  simp only [Char.isDigit, Bool.and_eq_true, decide_eq_true_eq] at digit
  have low : 48 ≤ c.toNat := digit.1
  have high : c.toNat ≤ 57 := digit.2
  unfold isBlank
  grind

variable {digits rest : List Char} {value : Nat}

theorem trimStart_cons {c : Char} (visible : isBlank c = false) :
    trimStart (c :: rest) = c :: rest :=
  List.dropWhile_cons_of_neg (by simp [visible])

theorem Spells.trimStart_append (spells : Spells digits value) :
    trimStart (digits ++ rest) = digits ++ rest := by
  rcases List.exists_cons_of_ne_nil spells.isSome with ⟨first, others, rfl⟩
  exact trimStart_cons (isBlank_of_isDigit (spells.isDigit first (List.mem_cons_self ..)))

end Text

namespace Instant

open Text

variable {digits rest : List Char} {value : Nat}

/-- A number is read if it fills the width, or if no other digit follows. -/
theorem readDigits_append (spells : Spells digits value) {width : Nat}
    (ends : digits.length = width ∨
      digits.length ≤ width ∧ rest.takeWhile Char.isDigit = []) :
    readDigits width (digits ++ rest) = .ok (digits, rest) := by
  have run : ((digits ++ rest).takeWhile Char.isDigit).take width = digits := by
    rw [List.takeWhile_append_of_pos spells.isDigit]
    rcases ends with full | ⟨short, ended⟩
    · rw [← full, List.take_left]
    · rw [ended, List.append_nil, List.take_of_length_le short]
  rcases List.exists_cons_of_ne_nil spells.isSome with ⟨first, others, rfl⟩
  have isDigit : first.isDigit := spells.isDigit first (List.mem_cons_self ..)
  rw [List.cons_append] at run ⊢
  dsimp only [readDigits]
  rw [if_pos isDigit, run, ← List.cons_append, List.drop_left]

theorem readPart_padded {low high n : Nat} (above : low ≤ n) (below : n ≤ high)
    (small : high < 100) : readPart low high ((padded 2 n).toList ++ rest) = .ok (n, rest) := by
  have spells := spells_padded 2 n
  have full := length_padded (show 0 < 2 by decide) (Nat.lt_of_le_of_lt below small)
  have within : inRange (low ≤ n && n ≤ high) = .ok () := by
    rw [inRange_eq_ok_iff, Bool.and_eq_true, decide_eq_true_eq, decide_eq_true_eq]
    exact ⟨above, below⟩
  unfold readPart
  rw [spells.trimStart_append, readDigits_append spells (.inl full)]
  simp only [bind, Except.bind, spells.value_eq, within]
  rfl

theorem readSign_cons {sign : Char} (visible : isBlank sign = false) :
    readSign sign (sign :: rest) = .ok rest := by
  unfold readSign
  rw [trimStart_cons visible]
  exact if_pos rfl

theorem readDigits_upTo (spells : Spells digits value) :
    readDigits (digits ++ '-' :: rest).length (digits ++ '-' :: rest) =
      .ok (digits, '-' :: rest) := by
  refine readDigits_append spells (.inr ⟨?_, rfl⟩)
  rw [List.length_append]
  exact Nat.le_add_right ..

theorem inRange_year {year : Int} (small : year.natAbs ≤ 2147483647) :
    inRange (-2147483648 ≤ year && year ≤ 2147483647) = .ok () := by
  rw [inRange_eq_ok_iff, Bool.and_eq_true, decide_eq_true_eq, decide_eq_true_eq]
  omega

/-- A year without a sign. -/
theorem readYear_plain (spells : Spells digits value) (full : digits.length = 4)
    (small : value ≤ 9999) :
    readYear (digits ++ rest) = .ok (value, rest) := by
  have inWord : (value : Int).natAbs ≤ 2147483647 := by omega
  have unsigned {sign : Char} {others : List Char} (starts : digits ++ rest = sign :: others) :
      sign.isDigit := by
    rcases List.exists_cons_of_ne_nil spells.isSome with ⟨first, _, rfl⟩
    rw [List.cons_append, List.cons.injEq] at starts
    rw [← starts.1]
    exact spells.isDigit first (List.mem_cons_self ..)
  unfold readYear
  rw [spells.trimStart_append]
  split
  · rename_i starts
    cases unsigned starts
  · rename_i starts
    cases unsigned starts
  · simp only [readDigits_append spells (.inl full), bind, Except.bind, spells.value_eq,
      Bool.false_eq_true, ↓reduceIte, inRange_year inWord]
    rfl

theorem readYear_signed (spells : Spells digits value) (small : value ≤ 2147483647) :
    readYear ('-' :: (digits ++ '-' :: rest)) = .ok (-value, '-' :: rest) ∧
      readYear ('+' :: (digits ++ '-' :: rest)) = .ok (value, '-' :: rest) := by
  have before : (-(value : Int)).natAbs ≤ 2147483647 := by omega
  have after : (value : Int).natAbs ≤ 2147483647 := by omega
  unfold readYear
  rw [trimStart_cons rfl, trimStart_cons rfl]
  simp only [readDigits_upTo spells, bind, Except.bind, spells.value_eq, Bool.false_eq_true,
    ↓reduceIte, inRange_year before, inRange_year after]
  exact ⟨rfl, rfl⟩

/-- A year is read back if a dash follows. -/
theorem readYear_yearText {year : Int} (within : isYearInRange year) :
    readYear ((yearText year).toList ++ '-' :: rest) = .ok (year, '-' :: rest) := by
  simp only [isYearInRange, Bool.and_eq_true, decide_eq_true_eq] at within
  unfold yearText
  split
  · rename_i unsigned
    have same : (year.toNat : Int) = year := by omega
    have small : year.toNat < 10000 := by omega
    have full : (padded 4 year.toNat).toList.length = 4 := length_padded (by decide) small
    rw [readYear_plain (spells_padded 4 year.toNat) full (by omega), same]
  · rcases @readYear_signed _ rest _ (spells_padded 4 year.natAbs) (by omega) with ⟨before, after⟩
    split
    · rename_i negative
      have same : -(year.natAbs : Int) = year := by omega
      have sign : "-".toList = ['-'] := rfl
      rw [String.toList_append, sign, List.append_assoc, List.singleton_append, before, same]
    · rename_i positive
      have same : (year.natAbs : Int) = year := by omega
      have sign : "+".toList = ['+'] := rfl
      rw [String.toList_append, sign, List.append_assoc, List.singleton_append, after, same]

theorem readFraction_append (spells : Spells digits value) (short : digits.length ≤ 9) :
    readFraction ('.' :: (digits ++ ['Z'])) =
      .ok (value * Nat.pow 10 (9 - digits.length), ['Z']) := by
  rw [readFraction, readDigits_append spells (.inr ⟨short, rfl⟩)]
  dsimp only [bind, Except.bind]
  rw [spells.value_eq]
  rfl

theorem readFraction_fractionText {nanos : Nat} (small : nanos < 1_000_000_000) :
    readFraction ((fractionText nanos).toList ++ ['Z']) = .ok (nanos, ['Z']) := by
  have inDigits {width value : Nat} (wide : 0 < width) (short : width ≤ 9)
      (fits : value < Nat.pow 10 width) (same : value * Nat.pow 10 (9 - width) = nanos) :
      readFraction (("." ++ padded width value).toList ++ ['Z']) = .ok (nanos, ['Z']) := by
    have full := length_padded wide fits
    have few : (padded width value).toList.length ≤ 9 := Nat.le_trans (Nat.le_of_eq full) short
    have isRead := readFraction_append (spells_padded width value) few
    have point : ".".toList = ['.'] := rfl
    rw [String.toList_append, point, List.append_assoc, List.singleton_append, isRead, full, same]
  unfold fractionText
  split
  · rename_i isZero
    rw [isZero]
    rfl
  · split
    · have small : nanos / 1_000_000 < 1000 := by omega
      have same : nanos / 1_000_000 * 1_000_000 = nanos := by omega
      exact inDigits (by decide) (by decide) small same
    · split
      · have small : nanos / 1000 < 1_000_000 := by omega
        have same : nanos / 1000 * 1000 = nanos := by omega
        exact inDigits (by decide) (by decide) small same
      · exact inDigits (by decide) (by decide) small (Nat.mul_one nanos)

/-- The parts of a time in Universal Time. The leap second is the sixtieth of its minute. -/
def parts (time : Instant) : Parts :=
  let date := CivilDate.ofDays (time.seconds.fdiv 86400)
  let second := (time.seconds.fmod 86400).toNat
  let leap := if time.nanos < 1_000_000_000 then 0 else 1
  { year := date.year
    month := date.month
    day := date.day
    hour := second / 3600
    minute := second % 3600 / 60
    second := second % 60 + leap
    fraction := time.nanos % 1_000_000_000
    offset := 0 }

theorem toList_toText (time : Instant) :
    time.toText.toList =
      (yearText time.parts.year).toList ++
        '-' :: ((padded 2 time.parts.month).toList ++
          '-' :: ((padded 2 time.parts.day).toList ++
            'T' :: ((padded 2 time.parts.hour).toList ++
              ':' :: ((padded 2 time.parts.minute).toList ++
                ':' :: ((padded 2 time.parts.second).toList ++
                  ((fractionText time.parts.fraction).toList ++ ['Z'])))))) := by
  have dash : "-".toList = ['-'] := rfl
  have separator : "T".toList = ['T'] := rfl
  have colon : ":".toList = [':'] := rfl
  have zone : "Z".toList = ['Z'] := rfl
  simp only [toText, wholeText, String.toList_append, dash, separator, colon, zone,
    List.append_assoc, List.cons_append, List.nil_append]
  rfl

/-- A time, taken apart into its day and the seconds of that. -/
theorem ofDay (time : Instant) {second : Nat}
    (isSecond : second = (time.seconds.fmod 86400).toNat) :
    second < 86400 ∧ time.seconds.fdiv 86400 * 86400 + second = time.seconds ∧
      time.seconds.fmod 60 = (second % 60 : Nat) := by
  have day : (0 : Int) ≤ 86400 := by decide
  have minute : (0 : Int) ≤ 60 := by decide
  rw [Int.fmod_eq_emod_of_nonneg _ day] at isSecond
  rw [Int.fdiv_eq_ediv_of_nonneg _ day, Int.fmod_eq_emod_of_nonneg _ minute]
  omega

/-- The nanoseconds of a time are a fraction of a second, but for those of a leap second. -/
theorem Representable.leap {time : Instant} (representable : time.Representable)
    {second leap : Nat} (isSecond : second = (time.seconds.fmod 86400).toNat)
    (isLeap : leap = if time.nanos < 1_000_000_000 then 0 else 1) :
    (leap = 0 ∨ leap = 1 ∧ second % 60 = 59) ∧
      time.nanos % 1_000_000_000 + leap * 1_000_000_000 = time.nanos := by
  rcases time.ofDay isSecond with ⟨_, _, ofMinute⟩
  have nanos := representable.nanos
  rw [ofMinute] at nanos
  split at isLeap <;> omega

/-- The hours, minutes and seconds of a day, of which the last second of a minute may be counted as
the sixtieth. -/
theorem clock_eq {second leap : Nat} (isLeap : leap = 0 ∨ leap = 1 ∧ second % 60 = 59) :
    (second % 60 + leap) / 60 = leap ∧
      second / 3600 * 3600 + second % 3600 / 60 * 60 + (second % 60 + leap - leap) = second := by
  omega

/-- The parts of a time say it on its day. -/
theorem Representable.time_parts {time : Instant} (representable : time.Representable) :
    time.parts.time (CivilDate.ofDays (time.seconds.fdiv 86400)) = time := by
  rcases representable.leap rfl rfl with ⟨isLeap, sameNanos⟩
  rcases time.ofDay rfl with ⟨_, isSum, _⟩
  have sameDay := CivilDate.toDays_ofDays (time.seconds.fdiv 86400)
  rcases clock_eq isLeap with ⟨isLast, isClock⟩
  have sameSeconds : (time.parts.time (CivilDate.ofDays (time.seconds.fdiv 86400))).seconds =
      time.seconds := by
    simp only [Parts.time, parts]
    rw [sameDay, isLast]
    omega
  have sameParts : (time.parts.time (CivilDate.ofDays (time.seconds.fdiv 86400))).nanos =
      time.nanos := by
    simp only [Parts.time, parts]
    rw [isLast]
    exact sameNanos
  exact congr (congrArg Instant.mk sameSeconds) sameParts

/-- The written form of a time is made up of its parts. -/
theorem Representable.makeUp_parts {time : Instant} (representable : time.Representable) :
    time.parts.MakeUp time.toText.toList := by
  rcases CivilDate.le_of_of? (CivilDate.of?_ofDays (time.seconds.fdiv 86400)) with
    ⟨month_pos, month_le, day_pos, day_le⟩
  rcases representable.leap rfl rfl with ⟨isLeap, _⟩
  rcases time.ofDay rfl with ⟨inDay, _, _⟩
  have hour_le : time.parts.hour ≤ 23 := by
    simp only [parts]
    omega
  have minute_le : time.parts.minute ≤ 59 := by
    simp only [parts]
    omega
  have second_le : time.parts.second ≤ 60 := by
    simp only [parts]
    omega
  rw [toList_toText]
  exact .intro
    (readYear_yearText representable.year)
    (readSign_cons rfl)
    (readPart_padded month_pos month_le (by decide))
    (readSign_cons rfl)
    (readPart_padded day_pos day_le (by decide))
    rfl
    (readPart_padded (Nat.zero_le _) hour_le (by decide))
    (readSign_cons rfl)
    (readPart_padded (Nat.zero_le _) minute_le (by decide))
    (readSign_cons rfl)
    (readPart_padded (Nat.zero_le _) second_le (by decide))
    (readFraction_fractionText (Nat.mod_lt _ (by decide)))
    rfl
    rfl

theorem read?_eq_some_iff {text : String} {time : Instant} :
    read? text = some time ↔ read text = .ok time := by
  unfold read?
  cases read text with
  | error fault => exact ⟨nofun, nofun⟩
  | ok other =>
      constructor
      · rintro ⟨⟩
        rfl
      · rintro ⟨⟩
        rfl

/-- The written form of a time says that time if a time stamp can be that time at all. -/
theorem read?_toText_iff {time : Instant} :
    read? time.toText = some time ↔ time.Representable := by
  rw [read?_eq_some_iff]
  constructor
  · exact representable_of_read
  · intro representable
    have isDate : readDate time.parts.year time.parts.month time.parts.day =
        .ok (CivilDate.ofDays (time.seconds.fdiv 86400)) := by
      dsimp only [parts]
      rw [readDate, CivilDate.of?_ofDays]
      exact if_pos representable.year
    exact read_eq_ok_iff.mpr ⟨time.parts, _, representable.makeUp_parts, isDate,
      Nat.succ_pos 86399, representable.time_parts, representable.year⟩

end Instant

end ClusterOperator
