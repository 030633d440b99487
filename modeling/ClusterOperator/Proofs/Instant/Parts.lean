import ClusterOperator.Instant.Text
import ClusterOperator.Proofs.Except

/-!
# The parts of a time stamp

A time stamp is read if it is made up of parts, one after the other, that say a time which there is.
Times are in a range of years. They lie between two seconds, or a second later at the end of a
minute, for offsets are in whole minutes.
-/

namespace ClusterOperator

namespace Text

theorem decimalValue_eq (digits : List Char) :
    decimalValue digits = Nat.ofDigitChars 10 digits 0 := by
  simp only [decimalValue, Nat.ofDigitChars, digitValue, Nat.mul_comm]

/-- A number is small if it has few digits. -/
theorem decimalValue_lt {digits : List Char} (isDigit : ∀ c ∈ digits, c.isDigit) :
    decimalValue digits < Nat.pow 10 digits.length := by
  rw [decimalValue_eq]
  induction digits with
  | nil => decide
  | cons first others ih =>
      have after := ih fun c there => isDigit c (List.mem_cons_of_mem _ there)
      have small : first.toNat - '0'.toNat ≤ 9 := by
        have digit := isDigit first (List.mem_cons_self ..)
        simp only [Char.isDigit, Bool.and_eq_true, decide_eq_true_eq] at digit
        exact Nat.sub_le_sub_right digit.2 48
      rw [Nat.ofDigitChars_cons, Nat.ofDigitChars_eq_ofDigitChars_zero, List.length_cons]
      calc 10 ^ others.length * (10 * 0 + (first.toNat - '0'.toNat)) + Nat.ofDigitChars 10 others 0
        _ < 10 ^ others.length * (10 * 0 + (first.toNat - '0'.toNat)) + 10 ^ others.length :=
          Nat.add_lt_add_left after _
        _ = 10 ^ others.length * (first.toNat - '0'.toNat + 1) := by
          rw [Nat.mul_zero, Nat.zero_add, Nat.mul_succ]
        _ ≤ 10 ^ others.length * 10 := Nat.mul_le_mul_left _ (Nat.succ_le_succ small)

end Text

namespace Instant

open Text

theorem inRange_eq_ok_iff {isAllowed : Bool} {done : Unit} :
    inRange isAllowed = .ok done ↔ isAllowed = true := by
  cases isAllowed
  · exact ⟨nofun, nofun⟩
  · exact ⟨fun _ => rfl, fun _ => rfl⟩

/-- The parts of the text of a time stamp. -/
structure Parts where
  year : Int
  month : Nat
  day : Nat
  hour : Nat
  minute : Nat
  second : Nat
  fraction : Nat
  offset : Int

/-- The time that the parts say on a day. -/
def Parts.time (parts : Parts) (date : CivilDate) : Instant :=
  let leap := parts.second / 60
  let clock : Int := parts.hour * 3600 + parts.minute * 60 + (parts.second - leap : Nat)
  ⟨date.toDays * 86400 + clock - parts.offset, parts.fraction + leap * 1_000_000_000⟩

/-- The text is made of the parts, from left to right, and of nothing else. -/
inductive Parts.MakeUp (parts : Parts) (text : List Char) : Prop where
  | intro {afterYear month afterMonth day afterDay hour afterHour minute afterMinute second
        afterSecond offset afterOffset : List Char}
      (isYear : readYear text = .ok (parts.year, afterYear))
      (dash : readSign '-' afterYear = .ok month)
      (isMonth : readPart 1 12 month = .ok (parts.month, afterMonth))
      (nextDash : readSign '-' afterMonth = .ok day)
      (isDay : readPart 1 31 day = .ok (parts.day, afterDay))
      (separator : readSeparator afterDay = .ok hour)
      (isHour : readPart 0 23 hour = .ok (parts.hour, afterHour))
      (colon : readSign ':' afterHour = .ok minute)
      (isMinute : readPart 0 59 minute = .ok (parts.minute, afterMinute))
      (nextColon : readSign ':' afterMinute = .ok second)
      (isSecond : readPart 0 60 second = .ok (parts.second, afterSecond))
      (isFraction : readFraction afterSecond = .ok (parts.fraction, offset))
      (isOffset : readOffset (trimStart offset) = .ok (parts.offset, afterOffset))
      (ends : trimStart afterOffset = [])

/-- A time stamp is read if its text is made up of parts that say a time which there is. -/
theorem read_eq_ok_iff {text : String} {time : Instant} :
    read text = .ok time ↔ ∃ (parts : Parts) (date : CivilDate),
      parts.MakeUp text.toList ∧
        readDate parts.year parts.month parts.day = .ok date ∧
        parts.offset.natAbs < 86400 ∧ parts.time date = time ∧
        isYearInRange (CivilDate.ofDays (time.seconds.fdiv 86400)).year := by
  unfold read
  simp only [Except.bind_eq_ok_iff, Prod.exists]
  constructor
  · rintro ⟨year, _, isYear, _, dash, month, _, isMonth, _, nextDash, day, _, isDay, _, separator,
      hour, _, isHour, _, colon, minute, _, isMinute, _, nextColon, second, _, isSecond, fraction,
      _, isFraction, offset, rest, isOffset, isRead⟩
    split at isRead
    · cases isRead
    rename_i ends
    rcases Except.bind_eq_ok_iff.mp isRead with ⟨date, isDate, isRead⟩
    rcases Except.bind_eq_ok_iff.mp isRead with ⟨_, near, isRead⟩
    split at isRead
    · rename_i inYears
      cases isRead
      refine ⟨⟨year, month, day, hour, minute, second, fraction, offset⟩, date, ?_, isDate,
        of_decide_eq_true (inRange_eq_ok_iff.mp near), rfl, inYears⟩
      exact ⟨isYear, dash, isMonth, nextDash, isDay, separator, isHour, colon, isMinute, nextColon,
        isSecond, isFraction, isOffset, Decidable.not_not.mp ends⟩
    · cases isRead
  · rintro ⟨parts, date, makeUp, isDate, near, rfl, inYears⟩
    rcases makeUp with ⟨isYear, dash, isMonth, nextDash, isDay, separator, isHour, colon, isMinute,
      nextColon, isSecond, isFraction, isOffset, ends⟩
    refine ⟨_, _, isYear, _, dash, _, _, isMonth, _, nextDash, _, _, isDay, _, separator, _, _,
      isHour, _, colon, _, _, isMinute, _, nextColon, _, _, isSecond, _, _, isFraction, _, _,
      isOffset, ?_⟩
    rw [if_neg (Decidable.not_not.mpr ends)]
    refine Except.bind_eq_ok_iff.mpr ⟨date, isDate, ?_⟩
    refine Except.bind_eq_ok_iff.mpr ⟨(), inRange_eq_ok_iff.mpr (decide_eq_true near), ?_⟩
    exact if_pos inYears

/-! ### Bounds of the parts -/

theorem of_readDigits {width : Nat} {text digits rest : List Char}
    (isRead : readDigits width text = .ok (digits, rest)) :
    digits.length ≤ width ∧ ∀ c ∈ digits, c.isDigit := by
  unfold readDigits at isRead
  split at isRead
  · cases isRead
  · split at isRead
    · cases isRead
      refine ⟨List.length_take_le .., ?_⟩
      intro c there
      exact List.all_eq_true.mp List.all_takeWhile c (List.mem_of_mem_take there)
    · cases isRead

theorem fraction_lt_of_readFraction {text rest : List Char} {fraction : Nat}
    (isRead : readFraction text = .ok (fraction, rest)) : fraction < 1_000_000_000 := by
  unfold readFraction at isRead
  split at isRead
  · rcases Except.bind_eq_ok_iff.mp isRead with ⟨⟨digits, _⟩, areDigits, isValue⟩
    cases isValue
    rcases of_readDigits areDigits with ⟨short, isDigit⟩
    calc decimalValue digits * 10 ^ (9 - digits.length)
      _ < 10 ^ digits.length * 10 ^ (9 - digits.length) :=
        Nat.mul_lt_mul_of_pos_right (decimalValue_lt isDigit) (Nat.pow_pos (by decide))
      _ = 10 ^ 9 := by rw [← Nat.pow_add, Nat.add_sub_cancel' short]
  · cases isRead
    decide

theorem le_of_readPart {low high value : Nat} {text rest : List Char}
    (isRead : readPart low high text = .ok (value, rest)) : low ≤ value ∧ value ≤ high := by
  rcases Except.bind_eq_ok_iff.mp isRead with ⟨⟨digits, _⟩, _, isRead⟩
  rcases Except.bind_eq_ok_iff.mp isRead with ⟨_, within, isValue⟩
  cases isValue
  have both := inRange_eq_ok_iff.mp within
  rw [Bool.and_eq_true, decide_eq_true_eq, decide_eq_true_eq] at both
  exact both

theorem dvd_of_readOffsetTime {text rest : List Char} {offset : Int}
    (isRead : readOffsetTime text = .ok (offset, rest)) : 60 ∣ offset := by
  rcases Except.bind_eq_ok_iff.mp isRead with ⟨⟨tens, ones, _⟩, _, isRead⟩
  rcases Except.bind_eq_ok_iff.mp isRead with ⟨⟨tensOfMinutes, onesOfMinutes, _⟩, _, isRead⟩
  rcases Except.bind_eq_ok_iff.mp isRead with ⟨_, _, isValue⟩
  cases isValue
  omega

/-- Offsets are in whole minutes. -/
theorem dvd_of_readOffset {text rest : List Char} {offset : Int}
    (isRead : readOffset text = .ok (offset, rest)) : 60 ∣ offset := by
  have west {text : List Char} (isRead : (readOffsetTime text >>= fun opposite =>
      pure (-opposite.1, opposite.2)) = .ok (offset, rest)) : 60 ∣ offset := by
    rcases Except.bind_eq_ok_iff.mp isRead with ⟨⟨opposite, _⟩, isOpposite, isValue⟩
    cases isValue
    exact Int.dvd_neg.mpr (dvd_of_readOffsetTime isOpposite)
  unfold readOffset at isRead
  split at isRead
  · cases isRead
    exact Int.dvd_zero _
  · split at isRead
    · cases isRead
      exact Int.dvd_zero _
    · cases isRead
      exact Int.dvd_zero _
    · exact dvd_of_readOffsetTime isRead
    · exact west isRead
    · exact west isRead
    · cases isRead
    · cases isRead

/-- A time stamp can be that time. It is in the years that there are, and it has no more nanoseconds
than a second, or than two at the end of a minute. -/
structure Representable (time : Instant) : Prop where
  year : isYearInRange (CivilDate.ofDays (time.seconds.fdiv 86400)).year
  nanos : time.nanos < 1_000_000_000 ∨
    time.seconds.fmod 60 = 59 ∧ time.nanos < 2_000_000_000

/-- A time that was read is one that a time stamp can be. -/
theorem representable_of_read {text : String} {time : Instant} (isRead : read text = .ok time) :
    time.Representable := by
  rcases read_eq_ok_iff.mp isRead with ⟨parts, date, makeUp, _, _, rfl, inYears⟩
  cases makeUp with
  | intro _ _ _ _ _ _ _ _ _ _ isSecond isFraction isOffset =>
      have second := le_of_readPart isSecond
      have fraction := fraction_lt_of_readFraction isFraction
      have offset := dvd_of_readOffset isOffset
      refine ⟨inYears, ?_⟩
      rw [Int.fmod_eq_emod_of_nonneg _ (show (0 : Int) ≤ 60 by decide)]
      have isLeap : parts.second / 60 = 0 ∨ parts.second = 60 := by omega
      dsimp only [Parts.time]
      rcases isLeap with none | leap
      · left
        omega
      · right
        omega

end Instant

end ClusterOperator
