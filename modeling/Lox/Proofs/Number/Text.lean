import Lox.Number.Numeral

/-! The texts of finite numbers. A number in full is digits, with a point and a sign at
most, and is never empty; one with an exponent has a mark and a sign more. -/

namespace Lox

/-- A stretch of characters of one class ends at the first that is not of the class. -/
theorem stretch_unique {isInside : Char → Bool} {text text' rest rest' : List Char}
    (inside : ∀ character ∈ text, isInside character = true)
    (inside' : ∀ character ∈ text', isInside character = true)
    (ends : ∀ character ∈ rest.head?, isInside character = false)
    (ends' : ∀ character ∈ rest'.head?, isInside character = false)
    (same : text ++ rest = text' ++ rest') : text = text' ∧ rest = rest' := by
  have stretch {text rest : List Char} (inside : ∀ character ∈ text, isInside character = true)
      (ends : ∀ character ∈ rest.head?, isInside character = false) :
      (text ++ rest).takeWhile isInside = text := by
    rw [List.takeWhile_append_of_pos inside]
    cases rest with
    | nil => simp
    | cons first rest => simp [ends first rfl]
  have sameText : text = text' := by rw [← stretch inside ends, same, stretch inside' ends']
  subst sameText
  exact ⟨rfl, List.append_cancel_left same⟩

def Quantity.isFinite : Quantity → Bool
  | .finite _ _ => true
  | .infinite _ | .undefined => false

def isNumeric (character : Char) : Bool :=
  character.isDigit || character == '.' || character == '-'

def Numeric (text : List Char) : Prop := ∀ character ∈ text, isNumeric character = true

theorem Numeric.append {front back : List Char} (numeric : Numeric front)
    (numeric' : Numeric back) : Numeric (front ++ back) :=
  List.forall_mem_append.2 ⟨numeric, numeric'⟩

theorem Numeric.cons {first : Char} {rest : List Char} (isFirst : isNumeric first = true)
    (numeric : Numeric rest) : Numeric (first :: rest) :=
  List.forall_mem_cons.2 ⟨isFirst, numeric⟩

theorem numeric_nil : Numeric [] := nofun

theorem numeric_toDigits (number : Nat) : Numeric (Nat.toDigits 10 number) := by
  intro digit member
  have isDigit := Nat.isDigit_of_mem_toDigits (by decide) (by decide) member
  rw [isNumeric, isDigit]
  rfl

theorem numeric_zeros (count : Nat) : Numeric (zeros count) := by
  intro digit member
  rw [List.eq_of_mem_replicate member]
  rfl

theorem Decimal.numeric_positional (decimal : Decimal) : Numeric decimal.positional := by
  have digits : Numeric decimal.digitText := numeric_toDigits _
  unfold Decimal.positional
  dsimp only
  split
  · exact digits.append (numeric_zeros _)
  · split
    · exact .append (fun _ member => digits _ (List.mem_of_mem_take member))
        (.cons rfl fun _ member => digits _ (List.mem_of_mem_drop member))
    · exact .append (.cons rfl (.cons rfl (numeric_zeros _))) digits

theorem Decimal.positional_ne_nil (decimal : Decimal) : decimal.positional ≠ [] := by
  unfold Decimal.positional
  dsimp only
  split
  · exact List.append_ne_nil_of_left_ne_nil Nat.toDigits_ne_nil _
  · split
    · exact List.append_ne_nil_of_right_ne_nil _ nofun
    · exact nofun

/-! ### Numbers with an exponent -/

def isNumeral (character : Char) : Bool :=
  isNumeric character || character == 'e' || character == '+'

def Numeral (text : List Char) : Prop :=
  text ≠ [] ∧ ∀ character ∈ text, isNumeral character = true

theorem Numeric.all_numeral {text : List Char} (numeric : Numeric text) :
    ∀ character ∈ text, isNumeral character = true := by
  intro character member
  rw [isNumeral, numeric character member]
  rfl

theorem Numeric.numeral {text : List Char} (numeric : Numeric text) (notEmpty : text ≠ []) :
    Numeral text :=
  ⟨notEmpty, numeric.all_numeral⟩

theorem numeral_toDigits (number : Nat) : Numeral (Nat.toDigits 10 number) :=
  (numeric_toDigits number).numeral Nat.toDigits_ne_nil

theorem Numeral.append {front back : List Char} (numeral : Numeral front)
    (more : ∀ character ∈ back, isNumeral character = true) : Numeral (front ++ back) :=
  ⟨List.append_ne_nil_of_left_ne_nil numeral.1 _, List.forall_mem_append.2 ⟨numeral.2, more⟩⟩

theorem Numeral.cons {first : Char} {rest : List Char} (isFirst : isNumeral first = true)
    (more : ∀ character ∈ rest, isNumeral character = true) : Numeral (first :: rest) :=
  ⟨List.cons_ne_nil _ _, List.forall_mem_cons.2 ⟨isFirst, more⟩⟩

theorem Decimal.numeral_exponentText (form : NumberForm) (exponent : Int) :
    Numeral (exponentText form exponent) := by
  have digits (padding : Nat) := ((numeric_zeros padding).append
    (numeric_toDigits exponent.natAbs)).all_numeral
  unfold exponentText
  dsimp only
  split
  · exact .cons rfl (digits _)
  · exact .cons rfl (digits _)

theorem Decimal.numeral_scientific {form : NumberForm} (plain : form.mantissaSuffix = "")
    (decimal : Decimal) : Numeral (decimal.scientific form) := by
  have digits : ∀ character ∈ decimal.digitText, isNumeral character = true :=
    (numeric_toDigits _).all_numeral
  have exponent := numeral_exponentText form decimal.leadingExponent
  unfold scientific
  dsimp only
  refine ⟨List.append_ne_nil_of_right_ne_nil _ nofun,
    List.forall_mem_append.2 ⟨?_, List.forall_mem_cons.2 ⟨rfl, exponent.2⟩⟩⟩
  split
  · exact nofun
  · next digit isOne =>
    rw [isOne] at digits
    rw [plain]
    exact digits
  · next digit more _ several =>
    rw [several] at digits
    obtain ⟨first, rest⟩ := List.forall_mem_cons.1 digits
    exact List.forall_mem_cons.2 ⟨first, List.forall_mem_cons.2 ⟨rfl, rest⟩⟩

namespace NumberForm

theorem numeric_magnitudeText (magnitude : Magnitude) :
    Numeric (prefixed.magnitudeText magnitude) ∧ prefixed.magnitudeText magnitude ≠ [] := by
  have full (whole : Bool) (exponent : Int) : prefixed.inFull whole exponent = true := rfl
  unfold magnitudeText
  simp only [full, if_true]
  split
  · exact ⟨(numeric_toDigits _).append (.cons rfl (.cons rfl numeric_nil)),
      List.append_ne_nil_of_left_ne_nil Nat.toDigits_ne_nil _⟩
  · exact ⟨Decimal.numeric_positional _, Decimal.positional_ne_nil _⟩

/-- The prefix form of a finite number has no letters, and something to read. -/
theorem numeric_text {value : Float} (finite : (Quantity.ofFloat value).isFinite = true) :
    Numeric (prefixed.text value).toList ∧ (prefixed.text value).toList ≠ [] := by
  unfold text
  cases isFinite : Quantity.ofFloat value with
  | finite negative magnitude =>
      obtain ⟨numeric, notEmpty⟩ := numeric_magnitudeText magnitude
      rw [quantityText, finiteText, String.toList_ofList]
      refine ⟨.append ?_ numeric, List.append_ne_nil_of_right_ne_nil _ notEmpty⟩
      unfold signText
      split
      · exact .cons rfl numeric_nil
      · exact numeric_nil
  | _ =>
      rw [isFinite] at finite
      cases finite

theorem numeral_serialized_magnitudeText (magnitude : Magnitude) :
    Numeral (serialized.magnitudeText magnitude) := by
  unfold magnitudeText
  dsimp only
  split
  · split
    · exact (numeral_toDigits _).append
        (Numeric.all_numeral (.cons rfl (.cons rfl numeric_nil)))
    · exact (Decimal.numeric_positional _).numeral (Decimal.positional_ne_nil _)
  · exact Decimal.numeral_scientific rfl _

/-- The serialized form of a number has something to read, and nothing in it but digits,
a point, signs and the mark of an exponent. -/
theorem numeral_serialized {quantity : Quantity} {text : String}
    (written : serialized.finite? quantity = some text) : Numeral text.toList := by
  cases quantity with
  | finite negative magnitude =>
      cases written
      have digits := numeral_serialized_magnitudeText magnitude
      rw [finiteText, String.toList_ofList, signText]
      split
      · exact .cons rfl digits.2
      · exact digits
  | _ => cases written

end NumberForm

end Lox
