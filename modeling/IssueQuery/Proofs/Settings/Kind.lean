import IssueQuery.Proofs.Number.Line
import IssueQuery.Proofs.Table
import IssueQuery.Settings.Choice

/-!
# Kinds of settings

Every value goes through the same three steps to become a setting.  It is read in the type of the
setting, it has to meet what is demanded of the setting, and it is kept in the usual form.  What the
steps are only depends on the kind of the setting.
-/

namespace IssueQuery

namespace Number

theorem isPositive_int (n : Int) : isPositive (.int n) = decide (0 < n) := by
  rw [isPositive, compare?_int, Bool.eq_iff_iff, beq_iff_eq, Option.some.injEq,
    compare_lt_iff_lt, decide_eq_true_eq]

end Number

namespace Settings

/-- The settings that values are taken for in the same way. -/
inductive Kind where
  /-- An address. -/
  | address
  /-- A text that may be missing. -/
  | optionalText
  /-- A positive integer. -/
  | count
  /-- A positive double. -/
  | amount
  /-- A level of logging. -/
  | level
  deriving DecidableEq

end Settings

/-- The kind of a setting. -/
def Setting.kind : Setting → Settings.Kind
  | .apiUrl => .address
  | .username | .password | .authToken => .optionalText
  | .pageSize | .taskConcurrency => .count
  | .requestTimeout | .queryTimeout | .maxComplexity => .amount
  | .logLevel => .level

namespace Settings.Kind

/-- A value in the type of the kind. -/
def coerce (reader : Reader) : Kind → Value → Except Fault Value
  | .address, v | .level, v => (reader.text v).map .string
  | .optionalText, v => (Settings.optionalText reader v).map .ofString?
  | .count, v => (reader.integer v).map .int
  | .amount, v => (reader.double v).map .double

/-- Whether a value in the type of the kind meets what is demanded of it: numbers are greater than
zero, and a level has a name that is known in capitals. -/
def meets : Kind → Value → Bool
  | .count, .number n | .amount, .number n => n.isPositive
  | .level, .string s => (Logging.level? (Text.upper s)).isSome
  | _, _ => true

/-- What is wrong with a value that does not meet the demand. -/
def breach : Kind → Fault
  | .level => .unknownLevel
  | _ => .notPositive

/-- The form in which a value of the kind is kept: an address without slashes at its end, a level in
capitals. -/
def keep : Kind → Value → Value
  | .address, .string s => .string (stripSlashes s)
  | .level, .string s => .string (Text.upper s)
  | _, v => v

/-- What a value becomes as a setting of the kind, or why it does not fit. -/
def settle (reader : Reader) : Kind → Value → Except Fault Value
  | .address, v => (Settings.address reader v).map .string
  | .optionalText, v => (Settings.optionalText reader v).map .ofString?
  | .count, v => (positiveInteger reader v).map .nat
  | .amount, v => (positiveDouble reader v).map .double
  | .level, v => (Settings.level reader v).map .string

variable {reader : Reader}

theorem settle_count (reader : Reader) (v : Value) :
    settle reader .count v =
      match coerce reader .count v with
      | .error f => .error f
      | .ok r => if meets .count r then .ok (keep .count r) else .error (breach .count) := by
  simp only [settle, positiveInteger, coerce]
  cases reader.integer v with
  | error f => rfl
  | ok n =>
      simp only [Except.map, Value.int, meets, Number.isPositive_int, decide_eq_true_eq]
      by_cases hn : 0 < n
      · have hcast : ((n.toNat : Nat) : Int) = n := Int.toNat_of_nonneg hn.le
        simp [hn, bind, Except.bind, pure, Except.pure, keep, Value.nat, hcast]
      · simp [hn, bind, Except.bind, throw, throwThe, MonadExceptOf.throw, breach]

/-- A value becomes a setting by being read in its type, tested and brought into the usual form. -/
theorem settle_eq (reader : Reader) (k : Kind) (v : Value) :
    k.settle reader v =
      match k.coerce reader v with
      | .error f => .error f
      | .ok r => if k.meets r then .ok (k.keep r) else .error k.breach := by
  cases k with
  | address =>
      simp only [settle, Settings.address, coerce]
      cases reader.text v <;> rfl
  | optionalText =>
      simp only [settle, coerce]
      cases Settings.optionalText reader v with
      | error f => rfl
      | ok s? => cases s? <;> rfl
  | count => exact settle_count reader v
  | amount =>
      simp only [settle, positiveDouble, coerce]
      cases reader.double v with
      | error f => rfl
      | ok x =>
          have hmeets : meets .amount (.double x) = (Number.double x).isPositive := rfl
          simp only [Except.map, bind, Except.bind, hmeets]
          by_cases hx : (Number.double x).isPositive
          · rw [if_pos hx, if_pos hx]
            rfl
          · rw [if_neg hx, if_neg hx]
            rfl
  | level =>
      simp only [settle, Settings.level, coerce]
      cases reader.text v with
      | error f => rfl
      | ok s =>
          have hmeets : meets .level (.string s) = (Logging.level? (Text.upper s)).isSome := rfl
          simp only [Except.map, bind, Except.bind, hmeets]
          by_cases hs : (Logging.level? (Text.upper s)).isSome
          · rw [if_pos hs, if_pos hs]
            rfl
          · rw [if_neg hs, if_neg hs]
            rfl

/-- A value is taken for a setting of the kind, where it is kept as `w`. -/
def Takes (reader : Reader) (k : Kind) (v w : Value) : Prop :=
  ∃ r, k.coerce reader v = .ok r ∧ k.meets r ∧ k.keep r = w

/-- A value does not fit a setting of the kind: it is not read in its type, or it does not meet the
demand. -/
def Refuses (reader : Reader) (k : Kind) (v : Value) (f : Fault) : Prop :=
  k.coerce reader v = .error f ∨
    ∃ r, k.coerce reader v = .ok r ∧ k.meets r = false ∧ k.breach = f

theorem settle_eq_ok_iff {k : Kind} {v w : Value} :
    k.settle reader v = .ok w ↔ k.Takes reader v w := by
  rw [settle_eq, Takes]
  cases k.coerce reader v with
  | error f => simp
  | ok r => by_cases hr : k.meets r <;> simp [hr]

theorem settle_eq_error_iff {k : Kind} {v : Value} {f : Fault} :
    k.settle reader v = .error f ↔ k.Refuses reader v f := by
  rw [settle_eq, Refuses]
  cases k.coerce reader v with
  | error f => simp
  | ok r => by_cases hr : k.meets r <;> simp [hr]

/-! ## What settings hold -/

/-- A value is the usual form of one that meets the demand. -/
def Fits (k : Kind) (w : Value) : Prop :=
  ∃ r, k.meets r ∧ k.keep r = w

theorem Takes.fits {k : Kind} {v w : Value} (h : k.Takes reader v w) : k.Fits w := by
  obtain ⟨r, -, hmeets, hkeep⟩ := h
  exact ⟨r, hmeets, hkeep⟩

theorem Fits.pos {n : Nat} (h : Fits .count (.nat n)) : 0 < n := by
  obtain ⟨r, hmeets, rfl⟩ := h
  have hpos : Number.isPositive (.int n) := hmeets
  rw [Number.isPositive_int, decide_eq_true_eq] at hpos
  exact Int.natCast_pos.mp hpos

theorem Fits.isPositive {x : Double} (h : Fits .amount (.double x)) :
    Number.isPositive (.double x) := by
  obtain ⟨r, hmeets, rfl⟩ := h
  exact hmeets

theorem getLast?_stripSlashes (s : String) : (stripSlashes s).toList.getLast? ≠ some '/' := by
  rw [stripSlashes, String.toList_ofList, List.getLast?_reverse]
  intro hhead
  have hslash := List.head?_dropWhile_not (fun c => decide (c = '/')) s.toList.reverse
  rw [hhead] at hslash
  exact absurd hslash (by decide)

theorem Fits.getLast? {s : String} (h : Fits .address (.string s)) :
    s.toList.getLast? ≠ some '/' := by
  obtain ⟨r, -, hkeep⟩ := h
  cases r with
  | string t =>
      obtain rfl : stripSlashes t = s := Value.string.inj hkeep
      exact getLast?_stripSlashes t
  | _ => cases hkeep

/-- The names of the levels are written in capitals. -/
theorem upper_of_isSome_level? {name : String} (h : (Logging.level? name).isSome) :
    Text.upper name = name := by
  have hlevels : ∀ l ∈ Logging.levels, Text.upper l.1 = l.1 := by decide +kernel
  obtain ⟨number, hnumber⟩ := Option.isSome_iff_exists.mp h
  have hmem : (name, number) ∈ Logging.levels := Table.mem_of_lookup hnumber
  exact hlevels (name, number) hmem

theorem Fits.level {s : String} (h : Fits .level (.string s)) :
    (Logging.level? s).isSome ∧ Text.upper s = s := by
  obtain ⟨r, hknown, hkeep⟩ := h
  cases r with
  | string t =>
      obtain rfl : Text.upper t = s := Value.string.inj hkeep
      exact ⟨hknown, upper_of_isSome_level? hknown⟩
  | _ => cases hkeep

end Settings.Kind

end IssueQuery
