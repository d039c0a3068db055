/-
Which numbers cross between JavaScript and SQLite unchanged.

`paraql__parse_value` converts every number to an `int64_t` to see whether it is one,
although C leaves the conversion undefined out of range.  `paraql__on_after_step` makes a
number of every integer, although a number has 53 bits.
-/

import ParaQL.NativeValues

namespace ParaQL

/-- The number is bound as the integer it equals, or else as a double, and is converted only
in the range of the conversion. -/
structure BoundExactly (engine : JsEngine) (n : Double) : Prop where
  converts : ∀ converted ∈ (engine.parseValue (.number n)).conversions, CastDefined converted
  integer : ∀ i : Int64, n.value = some (i.toInt : ℚ) → engine.Binds (.number n) (.int64 i)
  double : (∀ i : Int64, n.value ≠ some (i.toInt : ℚ)) → engine.Binds (.number n) (.double n)

/-- An integer in any column of any row becomes a number that equals it. -/
def ReadExactly (engine : JsEngine) (i : Int64) : Prop :=
  ∀ (columns : List (String × SqliteValue)) (column : Nat) (name : String),
    columns[column]? = some (name, .integer i) →
    ∃ n, (engine.row columns)[column]? = some (name, .number n) ∧ n.value = some (i.toInt : ℚ)

private theorem int64OfDouble_of_truncation (engine : JsEngine) {n : Double} {truncated : Int}
    (isTruncation : n.truncation = some truncated) (least : -2 ^ 63 ≤ truncated)
    (most : truncated < 2 ^ 63) : engine.int64OfDouble n = Int64.ofInt truncated := by
  unfold JsEngine.int64OfDouble
  rw [isTruncation]
  exact if_pos ⟨least, most⟩

private theorem equal_doubleOfInt64_iff (n : Double) (i : Int64) :
    n.equal (doubleOfInt64 i) = true ↔ n.value = some (binary64.roundInt i.toInt : ℚ) := by
  cases n with
  | finite value represented => exact decide_eq_true_iff.trans Option.some_inj.symm
  | infinity negative => exact iff_of_false nofun nofun
  | nan => exact iff_of_false nofun nofun

section Bound

variable {engine : JsEngine} (documented : engine.Documented)
include documented

private theorem parseValue_number (n : Double) : engine.parseValue (.number n) =
    ⟨[n], .value (if n.equal (doubleOfInt64 (engine.int64OfDouble n)) then
      { type := .number, isDouble := false, value := .i (engine.int64OfDouble n) }
      else { type := .number, isDouble := true, value := .d n })⟩ := by
  unfold JsEngine.parseValue
  rw [documented.typeOf]
  dsimp only [HostValue.type]
  rw [documented.valueDouble]
  dsimp only
  split
  · rfl
  · rfl

private theorem binds_integer {n : Double}
    (isEqual : n.equal (doubleOfInt64 (engine.int64OfDouble n)) = true) :
    engine.Binds (.number n) (.int64 (engine.int64OfDouble n)) := by
  apply JsEngine.binds_iff.2
  rw [parseValue_number documented, if_pos isEqual]
  exact ⟨_, rfl, rfl⟩

private theorem binds_double {n : Double}
    (differs : ¬n.equal (doubleOfInt64 (engine.int64OfDouble n)) = true) :
    engine.Binds (.number n) (.double n) := by
  apply JsEngine.binds_iff.2
  rw [parseValue_number documented, if_neg differs]
  exact ⟨_, rfl, rfl⟩

omit documented in
/-- In the range, the test finds the integers out. -/
theorem equal_iff_of_castDefined {n : Double} (inRange : CastDefined n) :
    n.equal (doubleOfInt64 (engine.int64OfDouble n)) = true ↔
      n.value = some ((engine.int64OfDouble n).toInt : ℚ) := by
  obtain ⟨truncated, isTruncation, least, most⟩ := inRange
  have converted := int64OfDouble_of_truncation engine isTruncation least most
  have back : (Int64.ofInt truncated).toInt = truncated := Int64.toInt_ofInt_of_le least most
  rw [equal_doubleOfInt64_iff, converted, back]
  constructor
  · intro isRounded
    -- A number that equals a rounded integer is an integer, so that nothing was cut off.
    have same := Binary.Number.truncation_of_value isRounded
    rw [isTruncation] at same
    rw [isRounded, ← Option.some.inj same]
  · intro isInteger
    cases n with
    | finite value represented =>
        cases isInteger
        have fits : binary64.Fits truncated := back ▸ fits_int64 (Int64.ofInt truncated)
        have exact := (Binary.roundInt_nearest fits).eq_of_represents represented
        exact congrArg some exact.symm
    | infinity negative => cases isInteger
    | nan => cases isInteger

private theorem boundExactly_iff (n : Double) : BoundExactly engine n ↔ CastDefined n := by
  constructor
  · intro exactly
    apply exactly.converts n
    rw [parseValue_number documented]
    exact List.mem_singleton_self n
  · intro inRange
    have found : _ ↔ n.value = some ((engine.int64OfDouble n).toInt : ℚ) :=
      equal_iff_of_castDefined inRange
    constructor
    · intro converted member
      rw [parseValue_number documented] at member
      rw [List.mem_singleton.1 member]
      exact inRange
    · intro i isInteger
      obtain ⟨truncated, isTruncation, least, most⟩ := inRange
      have same := Binary.Number.truncation_of_value isInteger
      have converted : engine.int64OfDouble n = i := by
        rw [int64OfDouble_of_truncation engine isTruncation least most]
        rw [isTruncation] at same
        rw [Option.some.inj same, Int64.ofInt_toInt]
      rw [converted] at found
      have bound : n.equal _ = true → engine.Binds _ _ := binds_integer documented
      rw [converted] at bound
      exact bound (found.2 isInteger)
    · intro noInteger
      apply binds_double documented
      intro isEqual
      exact noInteger _ (found.1 isEqual)

omit documented in
private theorem row_getElem? (columns : List (String × SqliteValue)) (column : Nat) :
    (engine.row columns)[column]? = columns[column]?.map fun entry =>
      ((readColumn entry.1 entry.2).name, engine.createValue (readColumn entry.1 entry.2)) := by
  unfold JsEngine.row
  rw [List.getElem?_map, List.getElem?_map, Option.map_map]
  rfl

omit documented in
private theorem readExactly_iff_created (i : Int64) :
    ReadExactly engine i ↔ (engine.createInt64 i).value = some (i.toInt : ℚ) := by
  constructor
  · intro exactly
    obtain ⟨n, read, equals⟩ := exactly [("", .integer i)] 0 "" rfl
    rw [row_getElem?] at read
    cases read
    exact equals
  · intro created columns column name here
    refine ⟨engine.createInt64 i, ?_, created⟩
    rw [row_getElem?, here]
    rfl

private theorem readExactly_iff (i : Int64) :
    ReadExactly engine i ↔ binary64.Represents (i.toInt : ℚ) := by
  rw [readExactly_iff_created]
  obtain ⟨value, isValue, nearest⟩ := documented.createInt64 i
  rw [isValue]
  constructor
  · intro same
    rw [← Option.some.inj same]
    exact nearest.represented
  · intro represented
    rw [nearest.eq_of_represents represented]

end Bound

/-- Numbers are bound exactly when their integral part is in the range, and integers are read
exactly when 53 bits hold them, up to zeros at the end. -/
theorem crossesExactly_iff (engine : JsEngine) (documented : engine.Documented) :
    (∀ n, BoundExactly engine n ↔ CastDefined n) ∧
    ∀ i : Int64, ReadExactly engine i ↔
      ∃ (significand : Int) (shift : Nat), |significand| < 2 ^ 53 ∧
        i.toInt = significand * 2 ^ shift := by
  refine ⟨boundExactly_iff documented, fun i => ?_⟩
  rw [readExactly_iff documented]
  exact Binary.represents_int_iff (fits_int64 i)

theorem crossesExactly_saturating :
    (∀ n, BoundExactly .saturating n ↔ CastDefined n) ∧
    ∀ i : Int64, ReadExactly .saturating i ↔
      ∃ (significand : Int) (shift : Nat), |significand| < 2 ^ 53 ∧
        i.toInt = significand * 2 ^ shift :=
  crossesExactly_iff .saturating JsEngine.saturating_documented

/-! ### The first numbers that do not cross -/

def twoToThe63 : Double :=
  .finite ((2 ^ 63 : Int) : ℚ) ⟨1, 63, by decide, by decide, by decide, by norm_num⟩

private theorem twoToThe63_truncation : twoToThe63.truncation = some (2 ^ 63) :=
  Binary.Number.truncation_of_value rfl

private theorem twoToThe63_not_castDefined : ¬CastDefined twoToThe63 := by
  intro ⟨truncated, isTruncation, _, most⟩
  rw [twoToThe63_truncation] at isTruncation
  cases isTruncation
  omega

private theorem twoToThe63_saturates :
    JsEngine.saturating.int64OfDouble twoToThe63 = Int64.maxValue := by
  have positive : (0 : ℚ) < ((2 ^ 63 : Int) : ℚ) := by norm_num
  have saturates : JsEngine.saturating.castOutOfRange twoToThe63 = Int64.maxValue := by
    change (if (0 : ℚ) < ((2 ^ 63 : Int) : ℚ) then Int64.maxValue else Int64.minValue) = _
    rw [if_pos positive]
  unfold JsEngine.int64OfDouble
  rw [twoToThe63_truncation, ← saturates]
  exact if_neg (by omega)

/-- The greatest integer is rounded up. -/
theorem roundInt_maxValue : binary64.roundInt Int64.maxValue.toInt = 2 ^ 63 := by
  have size : Nat.size Int64.maxValue.toInt.natAbs = 63 := by
    apply Nat.le_antisymm
    · exact Nat.size_le.2 (by decide)
    · exact Nat.lt_size.2 (by decide)
  unfold Binary.Format.roundInt
  rw [size]
  decide

private theorem twoToThe53_succ_not_represented :
    ¬∃ (significand : Int) (shift : Nat), |significand| < 2 ^ 53 ∧
      (2 ^ 53 + 1 : Int64).toInt = significand * 2 ^ shift := by
  have value : (2 ^ 53 + 1 : Int64).toInt = 2 ^ 53 + 1 := by decide
  rw [value]
  intro ⟨significand, shift, small, same⟩
  cases shift with
  | zero =>
      have := (abs_lt.1 small).2
      omega
  | succ shift =>
      rw [pow_succ (2 : Int) shift, ← mul_assoc] at same
      omega

/-- A platform that saturates binds the greatest integer for `2 ** 63`.  The integer
`2 ** 53 + 1` is read as another one. -/
theorem crossesExactly_fails :
    JsEngine.saturating.Binds (.number twoToThe63) (.int64 Int64.maxValue) ∧
      ¬BoundExactly .saturating twoToThe63 ∧ ¬ReadExactly .saturating (2 ^ 53 + 1) := by
  have documented := JsEngine.saturating_documented
  refine ⟨?_, ?_, ?_⟩
  · have isEqual : twoToThe63.equal (doubleOfInt64
        (JsEngine.saturating.int64OfDouble twoToThe63)) = true := by
      rw [equal_doubleOfInt64_iff, twoToThe63_saturates, roundInt_maxValue]
      rfl
    have bound := binds_integer documented isEqual
    rw [twoToThe63_saturates] at bound
    exact bound
  · intro exactly
    exact twoToThe63_not_castDefined ((boundExactly_iff documented _).1 exactly)
  · intro exactly
    have represented := (readExactly_iff documented _).1 exactly
    exact twoToThe53_succ_not_represented
      ((Binary.represents_int_iff (fits_int64 _)).1 represented)

end ParaQL
