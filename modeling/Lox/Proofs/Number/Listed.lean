import Lox.CommandLine

/-! Numbers in the token list. A small whole number is written by way of a machine
integer, which holds it exactly; the sign of a zero is all that is lost on the way. -/

namespace Lox

/-! ### Whole numbers as machine integers -/

namespace Magnitude

variable {magnitude : Magnitude} {whole : Nat}

theorem scale_ne_zero (magnitude : Magnitude) : magnitude.scale ≠ 0 := by
  rw [scale, Nat.one_shiftLeft]
  exact Nat.ne_of_gt (Nat.two_pow_pos _)

theorem divisor_pos (magnitude : Magnitude) : 0 < magnitude.divisor := by
  rw [divisor, Nat.one_shiftLeft]
  exact Nat.two_pow_pos _

/-- The division that a whole number comes from has no remainder. -/
theorem scaled_of_whole? (isWhole : magnitude.whole? = some whole) :
    magnitude.mantissa * magnitude.scale = whole * magnitude.divisor := by
  unfold whole? at isWhole
  dsimp only at isWhole
  split at isWhole
  · next noRemainder =>
    rw [← Option.some.inj isWhole]
    exact (Nat.div_mul_cancel (Nat.dvd_of_mod_eq_zero noRemainder)).symm
  · cases isWhole

theorem truncated_of_whole? (isWhole : magnitude.whole? = some whole) :
    magnitude.truncated = whole := by
  rw [truncated, scaled_of_whole? isWhole, Nat.mul_div_cancel _ magnitude.divisor_pos]

theorem isBelow_iff (isWhole : magnitude.whole? = some whole) (limit : Nat) :
    magnitude.isBelow limit = true ↔ whole < limit := by
  rw [isBelow, scaled_of_whole? isWhole, decide_eq_true_iff,
    Nat.mul_lt_mul_right magnitude.divisor_pos]

theorem mantissa_eq_zero_iff (isWhole : magnitude.whole? = some whole) :
    magnitude.mantissa = 0 ↔ whole = 0 := by
  have scaled := scaled_of_whole? isWhole
  constructor
  · intro isZero
    rw [isZero, Nat.zero_mul] at scaled
    exact (Nat.mul_eq_zero.1 scaled.symm).resolve_right (Nat.ne_of_gt magnitude.divisor_pos)
  · rintro rfl
    rw [Nat.zero_mul] at scaled
    exact (Nat.mul_eq_zero.1 scaled).resolve_right magnitude.scale_ne_zero

theorem whole?_of_mantissa_eq_zero (isZero : magnitude.mantissa = 0) :
    magnitude.whole? = some 0 := by
  rw [whole?, isZero, Nat.zero_mul, Nat.zero_mod, Nat.zero_div]
  rfl

end Magnitude

namespace Quantity

theorem finite_of_isWhole {quantity : Quantity} (isWhole : quantity.isWhole = true) :
    ∃ negative magnitude whole,
      quantity = .finite negative magnitude ∧ magnitude.whole? = some whole := by
  cases quantity with
  | finite negative magnitude =>
      obtain ⟨whole, found⟩ := Option.isSome_iff_exists.1 isWhole
      exact ⟨negative, magnitude, whole, rfl, found⟩
  | _ => cases isWhole

def isNegativeZero : Quantity → Bool
  | .finite negative magnitude => negative && magnitude.mantissa == 0
  | .infinite _ | .undefined => false

theorem small_of_isNegativeZero {quantity : Quantity} (isZero : quantity.isNegativeZero = true) :
    quantity.isWhole = true ∧ quantity.isBelow Token.integerLimit = true := by
  cases quantity with
  | finite negative magnitude =>
      obtain ⟨-, noMantissa⟩ := Bool.and_eq_true_iff.1 isZero
      have found := Magnitude.whole?_of_mantissa_eq_zero (eq_of_beq noMantissa)
      exact ⟨Option.isSome_of_eq_some found, (Magnitude.isBelow_iff found _).2 (by decide)⟩
  | _ => cases isZero

/-- No whole number below the limit is beyond the machine integers. -/
theorem toInt_toInt64 {magnitude : Magnitude} {whole : Nat} (negative : Bool)
    (isWhole : magnitude.whole? = some whole) (small : whole < Token.integerLimit) :
    (Quantity.finite negative magnitude).toInt64.toInt =
      if negative then -(whole : Int) else whole := by
  have bound : whole < 10 ^ 15 := small
  rw [toInt64, Magnitude.truncated_of_whole? isWhole]
  apply Int64.toInt_ofIntClamp
  · rw [Int64.toInt_minValue]
    split <;> omega
  · rw [Int64.toInt_maxValue]
    split <;> omega

theorem isNegativeZero_ofFields (negative : Bool) (biased fraction : Nat) :
    (ofFields negative biased fraction).isNegativeZero = true ↔
      negative = true ∧ biased = 0 ∧ fraction = 0 := by
  unfold ofFields
  split
  · next isTop =>
    subst isTop
    split <;> exact ⟨nofun, fun fields => absurd fields.2.1 (by decide)⟩
  · split
    · next isBottom => simp [isNegativeZero, isBottom]
    · next isNormal => simp [isNegativeZero, isNormal]

/-- The zero of negative sign is one double, of which the sign is the only bit. -/
theorem isNegativeZero_ofFloat (value : Float) :
    (ofFloat value).isNegativeZero = true ↔ value.toBits = 0x8000000000000000 := by
  have bound := value.toBits.toNat_lt
  rw [ofFloat, isNegativeZero_ofFields, ← UInt64.toNat_inj, beq_iff_eq, Nat.shiftRight_eq_div_pow,
    Nat.shiftRight_eq_div_pow, Nat.one_shiftLeft]
  change _ ↔ value.toBits.toNat = 0x8000000000000000
  omega

end Quantity

/-- An integer shows a sign only where it is not zero. -/
theorem toList_toString_signed (negative : Bool) (whole : Nat) :
    (toString (if negative then -(whole : Int) else whole)).toList =
      (if negative && whole != 0 then ['-'] else []) ++ Nat.toDigits 10 whole := by
  cases negative with
  | false => exact Nat.toList_repr
  | true =>
      cases whole with
      | zero => rfl
      | succ rest =>
          change ("-" ++ (rest + 1).repr).toList = _
          rw [String.toList_append, Nat.toList_repr]
          rfl

namespace NumberForm

/-- In full, a whole number has its exact digits, and a sign where the form keeps it. -/
theorem toList_quantityText_whole {magnitude : Magnitude} {whole : Nat} (negative : Bool)
    (isWhole : magnitude.whole? = some whole) :
    (listed.quantityText (.finite negative magnitude)).toList =
      (if negative && whole != 0 then ['-'] else []) ++ Nat.toDigits 10 whole ++ ".0".toList := by
  have same : (magnitude.mantissa != 0) = (whole != 0) :=
    Bool.eq_iff_iff.2 (by rw [bne_iff_ne, bne_iff_ne, ne_eq, ne_eq,
      Magnitude.mantissa_eq_zero_iff isWhole])
  have digits : listed.magnitudeText magnitude = Nat.toDigits 10 whole ++ ".0".toList := by
    unfold magnitudeText
    rw [isWhole]
    rfl
  rw [quantityText, finiteText, String.toList_ofList, digits, ← List.append_assoc, signText, same]
  rfl

/-- The two forms differ in the text of one zero. -/
theorem listed_eq_prefixed_iff (quantity : Quantity) :
    listed.quantityText quantity = prefixed.quantityText quantity ↔
      quantity.isNegativeZero = false := by
  cases quantity with
  | infinite _ | undefined => exact ⟨fun _ => rfl, fun _ => rfl⟩
  | finite negative magnitude =>
      have digits : listed.magnitudeText magnitude = prefixed.magnitudeText magnitude := rfl
      rw [quantityText, quantityText, finiteText, finiteText, digits, String.ofList_inj,
        List.append_left_inj, signText, signText, Quantity.isNegativeZero]
      cases negative with
      | false => exact ⟨fun _ => rfl, fun _ => rfl⟩
      | true => cases isZero : magnitude.mantissa == 0 <;> simp [listed, prefixed, bne, isZero]

end NumberForm

/-! ### Numbers as they are listed -/

/-- The three ways in which a number is listed come to one form, which drops the sign of
zero and nothing else. -/
theorem Token.numberText_eq_listed (value : Float) :
    numberText value = NumberForm.listed.text value := by
  rw [numberText, NumberForm.text]
  generalize Quantity.ofFloat value = quantity
  have signed (notZero : quantity.isNegativeZero ≠ true) :
      NumberForm.prefixed.quantityText quantity = NumberForm.listed.quantityText quantity :=
    ((NumberForm.listed_eq_prefixed_iff quantity).2 (Bool.eq_false_iff.2 notZero)).symm
  split
  · next notWhole =>
    refine signed fun isZero => ?_
    rw [(Quantity.small_of_isNegativeZero isZero).1] at notWhole
    cases notWhole
  · next isWhole =>
    rw [Bool.not_eq_true', Bool.not_eq_false] at isWhole
    split
    · next small =>
      obtain ⟨negative, magnitude, whole, rfl, found⟩ := Quantity.finite_of_isWhole isWhole
      have converted := Quantity.toInt_toInt64 negative found
        ((Magnitude.isBelow_iff found _).1 small)
      apply String.toList_inj.1
      rw [NumberForm.toList_quantityText_whole negative found, String.toList_append,
        ← toList_toString_signed, ← converted]
      rfl
    · next large => exact signed fun isZero => large (Quantity.small_of_isNegativeZero isZero).2

/-- The token list shows a number as the prefix form of its literal does, unless it is the
zero of negative sign. -/
theorem Token.literalText_eq_prefixForm_iff (value : Float) (lexeme : String) (line : Nat) :
    (Token.mk (.number value) lexeme line).literalText = (Literal.number value).prefixForm ↔
      value.toBits ≠ 0x8000000000000000 := by
  rw [ne_eq, ← Quantity.isNegativeZero_ofFloat, Bool.not_eq_true,
    ← NumberForm.listed_eq_prefixed_iff]
  change numberText value = NumberForm.prefixed.text value ↔ _
  rw [numberText_eq_listed]
  rfl

/-- A source of a negative zero only: its token shows no sign, and its prefix form does. -/
theorem CommandLine.negative_zero_shown_apart :
    (tokenize "-0").output = "NUMBER -0 0.0\nEOF  null\n" ∧
      (parse "-0" false).output = "-0.0\n" := by
  constructor <;> decide +kernel

end Lox
