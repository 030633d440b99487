import ClusterOperator.Duration.Reader

/-!
# The grammar of durations

A text is read as a duration if and only if, but for the blanks around it, it is a single zero or a
sequence of terms, each a number with its unit. How the text is to be cut into terms need not be
said: numbers have no characters in common with units, so there is one way at most. Soundness goes
along the runs that the reader cuts, completeness along the terms.
-/

namespace ClusterOperator.Duration

open Text

/-! ### Terms -/

/-- A decimal number, with its digits and the number of them behind the point: there is at least one
digit, and at most one point among them. -/
inductive Numeral : List Char → List Char → Nat → Prop
  | whole {digits : List Char} (isDigit : ∀ c ∈ digits, c.isDigit) (someDigit : digits ≠ []) :
      Numeral digits digits 0
  | decimal {whole fraction : List Char} (isDigit : ∀ c ∈ whole ++ fraction, c.isDigit)
      (someDigit : whole ++ fraction ≠ []) :
      Numeral (whole ++ '.' :: fraction) (whole ++ fraction) fraction.length

/-- A unit, with its length in seconds. -/
inductive IsUnit : List Char → Float → Prop
  | hour : IsUnit ['h'] 3600
  | minute : IsUnit ['m'] 60
  | second : IsUnit ['s'] 1
  | millisecond : IsUnit ['m', 's'] 0.001

/-- A sequence of numbers with their units, which added up from left to right lead from one sum of
seconds to another. Numbers, products and sums are those of binary64. -/
inductive Terms : Float → List Char → Float → Prop
  | nil (sum : Float) : Terms sum [] sum
  | term {sum total scale : Float} {number digits unit rest : List Char} {places : Nat}
      (numeral : Numeral number digits places) (isUnit : IsUnit unit scale)
      (terms : Terms (sum + Float.ofScientific (decimalValue digits) true places * scale) rest
        total) :
      Terms sum (number ++ (unit ++ rest)) total

variable {number digits unit rest run : List Char} {places : Nat} {value scale sum total : Float}

/-! ### Runs -/

theorem flatten_runs (text : List Char) : (runs text).flatten = text := by
  induction text with
  | nil => rfl
  | cons c rest ih =>
      rw [runs]
      split
      · rename_i isRuns
        rw [isRuns] at ih
        split <;> simpa using ih
      · simpa using ih

theorem exists_runs_cons (c : Char) (rest : List Char) :
    ∃ run others, runs (c :: rest) = (c :: run) :: others := by
  rw [runs]
  split
  · split
    · exact ⟨_, _, rfl⟩
    · exact ⟨_, _, rfl⟩
  · exact ⟨_, _, rfl⟩

/-- Text of one kind in front of text of the other kind is a run of its own. -/
theorem runs_append {kind : Bool} (nonempty : run ≠ []) (isKind : ∀ c ∈ run, isNumeral c = kind)
    (turns : ∀ c, rest.head? = some c → isNumeral c ≠ kind) :
    runs (run ++ rest) = run :: runs rest := by
  induction run with
  | nil => exact absurd rfl nonempty
  | cons c others ih =>
      have first := isKind c (List.mem_cons_self ..)
      cases others with
      | nil =>
          cases rest with
          | nil => rfl
          | cons d later =>
              have apart : isNumeral c ≠ isNumeral d := by
                rw [first]
                exact (turns d rfl).symm
              rcases exists_runs_cons d later with ⟨run, others, cut⟩
              rw [List.singleton_append, runs, cut]
              simp [apart]
      | cons d others =>
          have next := isKind d (by simp)
          have cut := ih (List.cons_ne_nil d others) fun e there =>
            isKind e (List.mem_cons_of_mem _ there)
          rw [List.cons_append, runs, cut]
          simp [first, next]

/-! ### Numbers and units -/

theorem Numeral.ne_nil (numeral : Numeral number digits places) : number ≠ [] := by
  cases numeral with
  | whole isDigit someDigit => exact someDigit
  | decimal isDigit someDigit => simp

theorem Numeral.isNumeral (numeral : Numeral number digits places) :
    ∀ c ∈ number, Duration.isNumeral c = true := by
  intro c there
  cases numeral with
  | whole isDigit someDigit => simp [Duration.isNumeral, isDigit c there]
  | decimal isDigit someDigit =>
      simp only [List.mem_append, List.mem_cons] at there isDigit
      rcases there with there | rfl | there
      · simp [Duration.isNumeral, isDigit c (.inl there)]
      · rfl
      · simp [Duration.isNumeral, isDigit c (.inr there)]

theorem IsUnit.ne_nil (isUnit : IsUnit unit scale) : unit ≠ [] := by
  cases isUnit <;> simp

theorem IsUnit.isNumeral (isUnit : IsUnit unit scale) :
    ∀ c ∈ unit, Duration.isNumeral c = false := by
  cases isUnit <;> simp [Duration.isNumeral]

theorem unitSeconds?_eq_some_iff : unitSeconds? unit = some scale ↔ IsUnit unit scale := by
  constructor
  · intro isUnit
    unfold unitSeconds? at isUnit
    split at isUnit
    · subst unit
      cases isUnit
      exact .hour
    · split at isUnit
      · subst unit
        cases isUnit
        exact .minute
      · split at isUnit
        · subst unit
          cases isUnit
          exact .second
        · split at isUnit
          · subst unit
            cases isUnit
            exact .millisecond
          · cases isUnit
  · intro isUnit
    cases isUnit <;> rfl

/-- What is read as a number consists of the digits in front, then nothing or a point and only digits
after it. -/
theorem exists_numeral_of_number? (isNumber : number? run = some value) : ∃ digits places,
    Numeral run digits places ∧ value = Float.ofScientific (decimalValue digits) true places := by
  unfold number? at isNumber
  dsimp only at isNumber
  split at isNumber
  · rename_i good
    rcases good with ⟨isPoint, isFraction, someDigit⟩
    have isWhole : ∀ c ∈ run.takeWhile Char.isDigit, c.isDigit := by
      intro c there
      exact List.all_eq_true.mp List.all_takeWhile c there
    have whole : run.takeWhile Char.isDigit ++ run.dropWhile Char.isDigit = run :=
      List.takeWhile_append_dropWhile
    cases after : run.dropWhile Char.isDigit with
    | nil =>
        simp only [after, List.append_nil, List.drop_nil] at whole isNumber someDigit
        rw [whole] at isWhole isNumber someDigit
        exact ⟨run, 0, .whole isWhole someDigit, (Option.some.inj isNumber).symm⟩
    | cons c fraction =>
        simp only [after, List.take_succ_cons, List.take_zero, List.drop_succ_cons,
          List.drop_zero] at isPoint isFraction isNumber someDigit whole
        have point : c = '.' := by simpa using isPoint
        subst point
        rw [← whole]
        refine ⟨_, _, .decimal ?_ someDigit, (Option.some.inj isNumber).symm⟩
        intro c there
        rcases List.mem_append.mp there with there | there
        · exact isWhole c there
        · exact List.all_eq_true.mp isFraction c there
  · cases isNumber

theorem Numeral.number?_eq (numeral : Numeral number digits places) :
    number? number = some (Float.ofScientific (decimalValue digits) true places) := by
  unfold number?
  cases numeral with
  | whole isDigit someDigit =>
      have taken : number.takeWhile Char.isDigit = number := by
        simpa using @List.takeWhile_append_of_pos _ Char.isDigit number [] isDigit
      have dropped : number.dropWhile Char.isDigit = [] := by
        simpa using @List.dropWhile_append_of_pos _ Char.isDigit number [] isDigit
      simp [taken, dropped, someDigit]
  | @decimal whole fraction isDigit someDigit =>
      have isWhole : ∀ c ∈ whole, c.isDigit := fun c there =>
        isDigit c (List.mem_append_left _ there)
      have isFraction : fraction.all Char.isDigit := List.all_eq_true.mpr fun c there =>
        isDigit c (List.mem_append_right _ there)
      have taken : (whole ++ '.' :: fraction).takeWhile Char.isDigit = whole := by
        rw [List.takeWhile_append_of_pos isWhole, List.takeWhile_cons_of_neg (by decide),
          List.append_nil]
      have dropped : (whole ++ '.' :: fraction).dropWhile Char.isDigit = '.' :: fraction := by
        rw [List.dropWhile_append_of_pos isWhole, List.dropWhile_cons_of_neg (by decide)]
      rw [taken, dropped]
      exact if_pos ⟨.inr rfl, isFraction, someDigit⟩

/-! ### Sums -/

theorem Terms.head_isNumeral {text : List Char} (terms : Terms sum text total) :
    ∀ c, text.head? = some c → isNumeral c = true := by
  intro c first
  cases terms with
  | nil => cases first
  | @term _ _ _ number _ unit rest _ numeral isUnit terms =>
      apply numeral.isNumeral
      cases number with
      | nil => exact absurd rfl numeral.ne_nil
      | cons d others => exact List.mem_of_head? first

/-- The runs of a sequence of terms are its numbers and units. -/
theorem Terms.addTerms_runs {text : List Char} (terms : Terms sum text total) :
    addTerms sum (runs text) = some total := by
  induction terms with
  | nil sum => rfl
  | @term sum total scale number digits unit rest places numeral isUnit terms ih =>
      have afterUnit : ∀ c, rest.head? = some c → isNumeral c ≠ false := by
        intro c first
        simp [terms.head_isNumeral c first]
      have afterNumber : ∀ c, (unit ++ rest).head? = some c → isNumeral c ≠ true := by
        intro c first
        cases unit with
        | nil => exact absurd rfl isUnit.ne_nil
        | cons d others => simp [isUnit.isNumeral c (List.mem_of_head? first)]
      rw [runs_append numeral.ne_nil numeral.isNumeral afterNumber,
        runs_append isUnit.ne_nil isUnit.isNumeral afterUnit, addTerms,
        numeral.number?_eq, unitSeconds?_eq_some_iff.mpr isUnit]
      exact ih

/-- Runs that can be added up are numbers and units in turn. -/
theorem terms_of_addTerms {cut : List (List Char)} (adds : addTerms sum cut = some total) :
    Terms sum cut.flatten total := by
  fun_induction addTerms sum cut with
  | case1 sum =>
      cases adds
      exact .nil total
  | case2 => cases adds
  | case3 sum number unit rest value scale isUnit isNumber ih =>
      rcases exists_numeral_of_number? isNumber with ⟨digits, places, numeral, rfl⟩
      simp only [List.flatten_cons]
      exact .term numeral (unitSeconds?_eq_some_iff.mp isUnit) (ih adds)
  | case4 => cases adds

theorem addTerms_runs_eq_some_iff {text : List Char} :
    addTerms sum (runs text) = some total ↔ Terms sum text total := by
  constructor
  · intro adds
    have terms := terms_of_addTerms adds
    rwa [flatten_runs] at terms
  · intro terms
    exact terms.addTerms_runs

theorem not_terms_zero : ¬ Terms 0 ['0'] total := by
  intro terms
  cases terms.addTerms_runs

theorem read?_eq_some_iff {text : String} {span : Duration} : read? text = some span ↔
    trim text.toList = ['0'] ∧ span = zero ∨
      trim text.toList ≠ [] ∧ ∃ total, Terms 0 (trim text.toList) total ∧
        ofSeconds? total = some span := by
  unfold read?
  split
  · rename_i blank
    simp [blank]
  · rename_i isZero
    simp [isZero, not_terms_zero, eq_comm]
  · rename_i isBlank isZero
    have notBlank : trim text.toList ≠ [] := isBlank
    have notZero : trim text.toList ≠ ['0'] := isZero
    simp [notBlank, notZero, Option.bind_eq_some_iff, addTerms_runs_eq_some_iff]

/-- A text is read as a duration if and only if, but for the blanks around it, it is a single zero,
or not empty and a sequence of terms whose sum is a number of seconds that a duration can have; then
it is read as that. Every other text is refused, by an error that quotes it. -/
theorem read_iff_terms (text : String) :
    (∀ span, read text = .ok span ↔
      trim text.toList = ['0'] ∧ span = zero ∨
        trim text.toList ≠ [] ∧ ∃ total, Terms 0 (trim text.toList) total ∧
          ofSeconds? total = some span) ∧
      ((∀ span, read text ≠ .ok span) →
        read text = .error (.serialization ("invalid duration " ++ quote text))) := by
  constructor
  · intro span
    rw [← read?_eq_some_iff, read]
    cases read? text <;> simp
  · intro refused
    unfold read at refused ⊢
    cases isRead : read? text with
    | none => rfl
    | some span =>
        rw [isRead] at refused
        exact absurd rfl (refused span)

end ClusterOperator.Duration
