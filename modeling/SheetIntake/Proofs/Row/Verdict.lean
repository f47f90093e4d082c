import SheetIntake.Proofs.Decimal.IntegerRange
import SheetIntake.Proofs.Outcome
import SheetIntake.Row.Check

/-!
# What the check of a row finds

A rule is met by a blank value that is not required, and by any other value that its kind accepts
and that is one of the allowed words. `Rule.Finds` says what is found under a rule: nothing if the
rule is met, and otherwise one complaint for each of its conditions that fails. The check of a row
finds this for each rule, in the order of the rules, and `checkRow_eq_ok_iff` says that it finds
nothing else.
-/

namespace SheetIntake

open Calendar Decimal

/-- A value that shows that nothing was entered. The field of an absent column is null. -/
inductive Value.IsBlank : Value → Prop
  | null : IsBlank .null
  | emptyText : IsBlank (.text "")
  | notANumber {held : Float} (undefined : Decimal.isNotANumber held = true) : IsBlank (.float held)

theorem Value.isEmpty_iff {value : Value} : value.isEmpty = true ↔ value.IsBlank := by
  constructor
  · intro empty
    cases value with
    | null => exact .null
    | text content =>
      obtain rfl := String.isEmpty_iff.mp empty
      exact .emptyText
    | float held => exact .notANumber empty
    | bool _ | int _ | moment _ | stamp _ | date _ | time _ | duration _ | list _ | record _ =>
      cases empty
  · rintro (_ | _ | undefined)
    · rfl
    · rfl
    · exact undefined

theorem Value.isEmpty_eq_false_iff {value : Value} : value.isEmpty = false ↔ ¬ value.IsBlank := by
  rw [← isEmpty_iff, Bool.not_eq_true]

/-- A number that is read is finite. -/
theorem Value.isFinite_of_readNumber {value : Value} {number : Float}
    (read : value.readNumber = .ok (some number)) : isFinite number = true := by
  have known : ∀ {held : Float}, finite? held = some number → isFinite number = true := by
    intro held found
    unfold finite? at found
    split at found
    · next finite =>
      cases found
      exact finite
    · cases found
  cases value with
  | int whole =>
    rw [readNumber] at read
    split at read
    · next nearest found =>
      cases read
      exact isFinite_of_ofInteger? found
    · cases read
  | float held => exact known (Except.ok.inj read)
  | text content =>
    obtain ⟨held, _, finite⟩ := Option.bind_eq_some_iff.mp (Except.ok.inj read)
    exact known finite
  | null | bool _ | moment _ | stamp _ | date _ | time _ | duration _ | list _ | record _ =>
    cases read

/-- Whether two date-times are in one month of one year. -/
def Calendar.DateTime.SharesMonth (clock other : DateTime) : Prop :=
  clock.date.month = other.date.month ∧ clock.date.year = other.date.year

/-- The values that a kind accepts. -/
inductive RuleKind.Accepts (site : Site) (now : DateTime) : RuleKind → Value → Prop
  /-- A text. -/
  | text (content : String) : Accepts site now .text (.text content)
  /-- What is read as a finite number that is not below the least. -/
  | number {least : Option Float} {value : Value} {number : Float}
    (read : value.readNumber = .ok (some number)) (finite : isFinite number = true)
    (fits : ∀ limit, least = some limit → ¬ number < limit) : Accepts site now (.number least) value
  /-- What is read as a date, of the current month if that is asked for. -/
  | date {currentMonth : Bool} {value : Value} {clock : DateTime}
    (read : value.readDate site = .ok (some clock))
    (current : currentMonth = true → clock.SharesMonth now) :
    Accepts site now (.date currentMonth) value

/-- What is said of the values that a kind does not accept. -/
inductive RuleKind.Rejects (site : Site) (now : DateTime) : RuleKind → Value → String → Prop
  | notText {value : Value} (other : ∀ content, value ≠ .text content) :
    Rejects site now .text value "must be a string."
  | notNumber {least : Option Float} {value : Value} (unread : value.readNumber = .ok none) :
    Rejects site now (.number least) value "must be numeric."
  | tooLow {limit : Float} {value : Value} {number : Float}
    (read : value.readNumber = .ok (some number)) (below : number < limit) :
    Rejects site now (.number (some limit)) value
      ("must be greater than " ++ limitText limit ++ ".")
  | notDate {currentMonth : Bool} {value : Value} (unread : value.readDate site = .ok none) :
    Rejects site now (.date currentMonth) value "must be a valid date."
  | otherMonth {value : Value} {clock : DateTime} (read : value.readDate site = .ok (some clock))
    (outside : ¬ clock.SharesMonth now) :
    Rejects site now (.date true) value "must be within the current month."

/-- Whether a value is one of the allowed words, if there is a list of these. -/
def Rule.Allows (rule : Rule) (value : Value) : Prop :=
  ∀ words, rule.allowed = some words → ∃ word ∈ words, value = .text word

/-- What is said of a value that is none of the allowed words. -/
def notAmong (words : List String) : String :=
  "must be one of " ++ ", ".intercalate words ++ "."

/-- A value that meets a rule. -/
inductive Rule.Meets (site : Site) (rule : Rule) (value : Value) (now : DateTime) : Prop
  | blank (blank : value.IsBlank) (optional : rule.required = false)
  | entered (entered : ¬ value.IsBlank) (accepted : rule.kind.Accepts site now value)
    (allowed : rule.Allows value)

/-- What is found under a rule: one complaint for each condition of the rule that fails. -/
inductive Rule.Finds (site : Site) (rule : Rule) (value : Value) (now : DateTime) :
    List String → Prop
  | nothing (meets : rule.Meets site value now) : Finds site rule value now []
  | missing (blank : value.IsBlank) (required : rule.required = true) :
    Finds site rule value now ["is required."]
  | ofKind {complaint : String} (entered : ¬ value.IsBlank)
    (refused : ¬ rule.kind.Accepts site now value)
    (rejected : rule.kind.Rejects site now value complaint)
    (allowed : rule.Allows value) : Finds site rule value now [complaint]
  | ofWords {words : List String} (entered : ¬ value.IsBlank)
    (accepted : rule.kind.Accepts site now value) (listed : rule.allowed = some words)
    (unlisted : ¬ rule.Allows value) : Finds site rule value now [notAmong words]
  | ofBoth {complaint : String} {words : List String} (entered : ¬ value.IsBlank)
    (refused : ¬ rule.kind.Accepts site now value)
    (rejected : rule.kind.Rejects site now value complaint)
    (listed : rule.allowed = some words) (unlisted : ¬ rule.Allows value) :
    Finds site rule value now [complaint, notAmong words]

/-! The conditions of a kind. -/

namespace RuleKind

variable {site : Site} {kind : RuleKind} {value : Value} {now : DateTime}

theorem textComplaint?_eq_none_iff :
    textComplaint? value = none ↔ ∃ content, value = .text content := by
  cases value <;> simp [textComplaint?]

theorem numberComplaint?_some_eq_none_iff {least : Option Float} {number : Float} :
    numberComplaint? least (some number) = none ↔
      ∀ limit, least = some limit → ¬ number < limit := by
  cases least with
  | none => simp [numberComplaint?]
  | some limit => simp [numberComplaint?]

theorem dateComplaint?_some_eq_none_iff {currentMonth : Bool} {clock : DateTime} :
    dateComplaint? currentMonth now (some clock) = none ↔
      (currentMonth = true → clock.SharesMonth now) := by
  simp [dateComplaint?, DateTime.SharesMonth]

/-- A kind has no complaint about the values that it accepts, and about no others. -/
theorem complaint?_eq_none_iff :
    kind.complaint? site value now = .ok none ↔ kind.Accepts site now value := by
  constructor
  · intro quiet
    cases kind with
    | text =>
      obtain ⟨content, rfl⟩ := textComplaint?_eq_none_iff.mp (Except.ok.inj quiet)
      exact .text content
    | number least =>
      obtain ⟨found, read, none⟩ := Outcome.map_eq_ok_iff.mp quiet
      cases found with
      | none => cases none
      | some number =>
        exact .number read (Value.isFinite_of_readNumber read)
          (numberComplaint?_some_eq_none_iff.mp none)
    | date currentMonth =>
      obtain ⟨found, read, none⟩ := Outcome.map_eq_ok_iff.mp quiet
      cases found with
      | none => cases none
      | some clock => exact .date read (dateComplaint?_some_eq_none_iff.mp none)
  · intro accepted
    cases accepted with
    | text content => rfl
    | number read finite fits =>
      exact Outcome.map_eq_ok_iff.mpr ⟨_, read, numberComplaint?_some_eq_none_iff.mpr fits⟩
    | date read current =>
      exact Outcome.map_eq_ok_iff.mpr ⟨_, read, dateComplaint?_some_eq_none_iff.mpr current⟩

/-- A kind says of the values that it rejects why it does, and nothing of any others. -/
theorem complaint?_eq_some_iff {complaint : String} :
    kind.complaint? site value now = .ok (some complaint) ↔
      kind.Rejects site now value complaint := by
  constructor
  · intro complained
    cases kind with
    | text =>
      have said := Except.ok.inj complained
      unfold textComplaint? at said
      split at said
      · cases said
      · next other =>
        cases said
        exact .notText other
    | number least =>
      obtain ⟨found, read, said⟩ := Outcome.map_eq_ok_iff.mp complained
      unfold numberComplaint? at said
      split at said
      · cases said
        exact .notNumber read
      · split at said
        · split at said
          · next below =>
            cases said
            exact .tooLow read below
          · cases said
        · cases said
    | date currentMonth =>
      obtain ⟨found, read, said⟩ := Outcome.map_eq_ok_iff.mp complained
      unfold dateComplaint? at said
      split at said
      · cases said
        exact .notDate read
      · split at said
        · next outside =>
          obtain ⟨rfl, differs⟩ := outside
          cases said
          exact .otherMonth read fun shared => differs (Prod.ext shared.1 shared.2)
        · cases said
  · intro rejected
    cases rejected with
    | notText other =>
      cases value with
      | text content => exact absurd rfl (other content)
      | null | bool _ | int _ | float _ | moment _ | stamp _ | date _ | time _ | duration _ | list _
      | record _ => rfl
    | notNumber unread => exact Outcome.map_eq_ok_iff.mpr ⟨_, unread, rfl⟩
    | tooLow read below =>
      exact Outcome.map_eq_ok_iff.mpr ⟨_, read, by simp [numberComplaint?, below]⟩
    | notDate unread => exact Outcome.map_eq_ok_iff.mpr ⟨_, unread, rfl⟩
    | otherMonth read outside =>
      refine Outcome.map_eq_ok_iff.mpr ⟨_, read, if_pos ⟨rfl, fun same => outside ?_⟩⟩
      exact ⟨congrArg Prod.fst same, congrArg Prod.snd same⟩

/-- No value is both accepted and rejected. -/
theorem Rejects.not_accepts {complaint : String}
    (rejected : kind.Rejects site now value complaint) :
    ¬ kind.Accepts site now value := by
  intro accepted
  have complained := complaint?_eq_some_iff.mpr rejected
  rw [complaint?_eq_none_iff.mpr accepted] at complained
  cases complained

end RuleKind

namespace Rule

variable {site : Site} {rule : Rule} {value : Value} {now : DateTime}

theorem isAllowed_iff {words : List String} :
    isAllowed words value = true ↔ ∃ word ∈ words, value = .text word := by
  cases value with
  | text content => simp [isAllowed]
  | null | bool _ | int _ | float _ | moment _ | stamp _ | date _ | time _ | duration _ | list _
  | record _ => simp [isAllowed]

theorem allowedComplaint?_eq_none_iff :
    allowedComplaint? rule.allowed value = none ↔ rule.Allows value := by
  unfold allowedComplaint? Allows
  split
  · next free => simp [free]
  · next words listed => simp [listed, ← isAllowed_iff]

theorem allowedComplaint?_eq_some_iff {complaint : String} :
    allowedComplaint? rule.allowed value = some complaint ↔
      ¬ rule.Allows value ∧ ∃ words, rule.allowed = some words ∧ complaint = notAmong words := by
  unfold allowedComplaint? Allows
  split
  · next free => simp [free]
  · next words listed =>
    simp only [listed, Option.some.injEq, forall_eq', exists_eq_left', ← isAllowed_iff]
    split
    · next allowed => simp [allowed]
    · next unlisted =>
      rw [and_iff_right unlisted, Option.some.injEq]
      exact eq_comm

theorem complaints_of_blank (blank : value.IsBlank) :
    rule.complaints site value now = .ok (if rule.required then ["is required."] else []) := by
  rw [complaints, if_pos (Value.isEmpty_iff.mpr blank)]

/-- A value that is not blank is looked at twice: by its kind, and among the allowed words. -/
theorem complaints_of_entered (entered : ¬ value.IsBlank) {found : List String} :
    rule.complaints site value now = .ok found ↔
      ∃ complaint, rule.kind.complaint? site value now = .ok complaint ∧
        found = complaint.toList ++ (allowedComplaint? rule.allowed value).toList := by
  rw [complaints, if_neg (by simpa [Value.isEmpty_iff] using entered), Outcome.bind_eq_ok_iff]
  simp [pure, Except.pure, eq_comm]

/-- Under a rule exactly its complaints are found. -/
theorem complaints_eq_ok_iff {found : List String} :
    rule.complaints site value now = .ok found ↔ rule.Finds site value now found := by
  by_cases blank : value.IsBlank
  · rw [complaints_of_blank blank]
    constructor
    · intro complained
      cases complained
      cases required : rule.required with
      | false => exact .nothing (.blank blank required)
      | true => exact .missing blank required
    · intro finds
      cases finds with
      | nothing meets =>
        cases meets with
        | blank _ optional => simp [optional]
        | entered entered => exact absurd blank entered
      | missing _ required => simp [required]
      | ofKind entered | ofWords entered | ofBoth entered => exact absurd blank entered
  · rw [complaints_of_entered blank]
    constructor
    · rintro ⟨complaint, looked, rfl⟩
      cases listed : allowedComplaint? rule.allowed value with
      | none =>
        have allowed := allowedComplaint?_eq_none_iff.mp listed
        cases complaint with
        | none =>
          have accepted := RuleKind.complaint?_eq_none_iff.mp looked
          exact .nothing (.entered blank accepted allowed)
        | some said =>
          have rejected := RuleKind.complaint?_eq_some_iff.mp looked
          exact .ofKind blank rejected.not_accepts rejected allowed
      | some other =>
        obtain ⟨unlisted, words, given, rfl⟩ := allowedComplaint?_eq_some_iff.mp listed
        cases complaint with
        | none => exact .ofWords blank (RuleKind.complaint?_eq_none_iff.mp looked) given unlisted
        | some said =>
          have rejected := RuleKind.complaint?_eq_some_iff.mp looked
          exact .ofBoth blank rejected.not_accepts rejected given unlisted
    · intro finds
      cases finds with
      | nothing meets =>
        cases meets with
        | blank isBlank => exact absurd isBlank blank
        | entered _ accepted allowed =>
          refine ⟨none, RuleKind.complaint?_eq_none_iff.mpr accepted, ?_⟩
          simp [allowedComplaint?_eq_none_iff.mpr allowed]
      | missing isBlank => exact absurd isBlank blank
      | ofKind _ _ rejected allowed =>
        refine ⟨some _, RuleKind.complaint?_eq_some_iff.mpr rejected, ?_⟩
        simp [allowedComplaint?_eq_none_iff.mpr allowed]
      | ofWords _ accepted listed unlisted =>
        refine ⟨none, RuleKind.complaint?_eq_none_iff.mpr accepted, ?_⟩
        simp [allowedComplaint?_eq_some_iff.mpr ⟨unlisted, _, listed, rfl⟩]
      | ofBoth _ _ rejected listed unlisted =>
        refine ⟨some _, RuleKind.complaint?_eq_some_iff.mpr rejected, ?_⟩
        simp [allowedComplaint?_eq_some_iff.mpr ⟨unlisted, _, listed, rfl⟩]

/-- Nothing is found under a rule exactly when the rule is met. -/
theorem complaints_eq_nil_iff :
    rule.complaints site value now = .ok [] ↔ rule.Meets site value now := by
  rw [complaints_eq_ok_iff]
  constructor
  · intro finds
    cases finds with
    | nothing meets => exact meets
  · exact .nothing

end Rule

/-- What the texts of all errors of a column of a row begin with. -/
def errorStart (number : Int) (column : String) : String :=
  "Row " ++ toString number ++ ": \"" ++ column ++ "\" "

/-- Whether an error is that of a complaint about a column of a row. -/
structure RowError.Reports (error : RowError) (number : Int) (column complaint : String) :
    Prop where
  row : (error.row : Int) = number
  message : error.message = errorStart number column ++ complaint

/-- An error carries the number of its row and the text that is reported. -/
theorem RowError.report_eq_ok_iff {error : RowError} {number : Int} {column complaint : String} :
    RowError.report number (complaintText number column complaint) = .ok error ↔
      error.Reports number column complaint := by
  unfold RowError.report
  constructor
  · intro reported
    split at reported
    · next positive =>
      cases reported
      exact ⟨by simp only; omega, rfl⟩
    · cases reported
  · rintro ⟨same, message⟩
    obtain ⟨row, text, positive⟩ := error
    obtain rfl : text = complaintText number column complaint := message
    obtain rfl : (row : Int) = number := same
    exact dif_pos positive

/-- Whether errors are those of a column of a row: one for each complaint that is found. -/
def Row.HasErrors (site : Site) (row : Row) (number : Int) (now : DateTime)
    (entry : String × Rule) (errors : List RowError) : Prop :=
  ∃ complaints, entry.2.Finds site (row.field entry.1) now complaints ∧
    List.Forall₂ (fun complaint error => error.Reports number entry.1 complaint) complaints errors

section

variable {site : Site} {row : Row} {number : Int} {now : DateTime}

theorem checkColumn_eq_ok_iff {column : String} {rule : Rule} {errors : List RowError} :
    checkColumn site row number now column rule = .ok errors ↔
      row.HasErrors site number now (column, rule) errors := by
  unfold checkColumn Row.HasErrors
  simp only [Outcome.bind_eq_ok_iff, Outcome.mapM_eq_ok_iff, Rule.complaints_eq_ok_iff,
    RowError.report_eq_ok_iff]

/-- The errors of a row are those of its columns, in the order of the rules. -/
theorem checkRow_eq_ok_iff {schema : Schema} {errors : List RowError} :
    checkRow site row schema number now = .ok errors ↔
      ∃ found, List.Forall₂ (row.HasErrors site number now) schema.rules found ∧
        errors = found.flatten := by
  unfold checkRow
  simp only [Outcome.bind_eq_ok_iff, Outcome.mapM_eq_ok_iff, checkColumn_eq_ok_iff]
  simp [pure, Except.pure, eq_comm]

/-- Rows whose columns have the same outcomes have the same outcome. -/
theorem checkRow_congr {other : Row} {schema : Schema}
    (agree : ∀ entry ∈ schema.rules,
      checkColumn site row number now entry.1 entry.2 =
        checkColumn site other number now entry.1 entry.2) :
    checkRow site row schema number now = checkRow site other schema number now := by
  unfold checkRow
  rw [Outcome.mapM_congr agree]

/-- The outcome of a column depends on what the row holds there. -/
theorem checkColumn_congr {other : Row} {column : String} {rule : Rule}
    (same : row.field column = other.field column) :
    checkColumn site row number now column rule =
      checkColumn site other number now column rule := by
  unfold checkColumn
  rw [same]

/-- A column has no errors exactly when it meets its rule. -/
theorem Row.HasErrors.eq_nil_iff {entry : String × Rule} {errors : List RowError}
    (has : row.HasErrors site number now entry errors) :
    errors = [] ↔ entry.2.Meets site (row.field entry.1) now := by
  obtain ⟨complaints, finds, reported⟩ := has
  rw [← Rule.complaints_eq_nil_iff, Rule.complaints_eq_ok_iff.mpr finds, Except.ok.injEq,
    ← List.length_eq_zero_iff, ← List.length_eq_zero_iff, reported.length_eq]

/-- All errors of a row carry its number. -/
theorem number_of_mem_checkRow {schema : Schema} {errors : List RowError}
    (checked : checkRow site row schema number now = .ok errors) {error : RowError}
    (present : error ∈ errors) : (error.row : Int) = number := by
  obtain ⟨found, has, rfl⟩ := checkRow_eq_ok_iff.mp checked
  obtain ⟨ofColumn, inFound, inColumn⟩ := List.mem_flatten.mp present
  obtain ⟨entry, _, complaints, _, reported⟩ := Outcome.exists_matched_of_mem has.flip inFound
  obtain ⟨complaint, _, reports⟩ := Outcome.exists_matched_of_mem reported.flip inColumn
  exact reports.row

/-- A row has no errors exactly when its columns have none, which is when they meet their rules. -/
theorem flatten_eq_nil_iff_meets {rules : List (String × Rule)} {found : List (List RowError)}
    (has : List.Forall₂ (row.HasErrors site number now) rules found) :
    found.flatten = [] ↔ ∀ entry ∈ rules, entry.2.Meets site (row.field entry.1) now := by
  induction has with
  | nil => simp
  | cons here _ inductionHypothesis =>
    rw [List.flatten_cons, List.append_eq_nil_iff, here.eq_nil_iff, inductionHypothesis,
      List.forall_mem_cons]

end

/-- The check of a row is sound and complete. It finds nothing exactly when every ruled column meets
its rule: when it is blank and not required, or when it is not blank, accepted by its kind and one
of the allowed words. In general its errors are those of the columns in the order of the rules, each
with the number of the row and a text that begins with that number and the column. A column has no
error if it meets its rule, one if it is blank and required, and otherwise one for not being
accepted and one for not being allowed, where either is so. -/
theorem checkRow_sound_and_complete {site : Site} {row : Row} {schema : Schema} {number : Int}
    {now : DateTime} {errors : List RowError}
    (checked : checkRow site row schema number now = .ok errors) :
    (errors = [] ↔ ∀ entry ∈ schema.rules, entry.2.Meets site (row.field entry.1) now) ∧
      ∃ found, errors = found.flatten ∧
        List.Forall₂ (row.HasErrors site number now) schema.rules found := by
  obtain ⟨found, has, rfl⟩ := checkRow_eq_ok_iff.mp checked
  exact ⟨flatten_eq_nil_iff_meets has, found, rfl, has⟩

/-- A row without a name, with an amount that is too low, a date of another month and a mark that is
neither a text nor allowed. -/
def rowOfFaults : Row :=
  [("Amount", .text " 0 "), ("Date", .text "2023-12-31"), ("Verified", .bool true)]

/-- The errors of that row as the seventh of a worksheet, in January 2024. -/
def errorsOfFaults : List RowError :=
  [⟨7, "Row 7: \"Name\" is required.", by decide⟩,
    ⟨7, "Row 7: \"Amount\" must be greater than 0.01.", by decide⟩,
    ⟨7, "Row 7: \"Date\" must be within the current month.", by decide⟩,
    ⟨7, "Row 7: \"Verified\" must be a string.", by decide⟩,
    ⟨7, "Row 7: \"Verified\" must be one of Yes, No.", by decide⟩]

/-- A day on which rows are checked. -/
def dayOfCheck : DateTime := .atMidnight ⟨2024, 1, 22, by decide⟩

/-- A site where they are, with a clock of universal time. -/
def siteOfCheck : Site := .universal dayOfCheck

theorem checkRow_of_faults :
    checkRow siteOfCheck rowOfFaults .builtin 7 dayOfCheck = .ok errorsOfFaults ∧
      (errorsOfFaults = [] ↔ ∀ entry ∈ Schema.builtin.rules,
        entry.2.Meets siteOfCheck (rowOfFaults.field entry.1) dayOfCheck) ∧
      ∃ found, errorsOfFaults = found.flatten ∧
        List.Forall₂ (rowOfFaults.HasErrors siteOfCheck 7 dayOfCheck) Schema.builtin.rules
          found := by
  have checked : checkRow siteOfCheck rowOfFaults .builtin 7 dayOfCheck = .ok errorsOfFaults := by
    decide
  exact ⟨checked, checkRow_sound_and_complete checked⟩

end SheetIntake
