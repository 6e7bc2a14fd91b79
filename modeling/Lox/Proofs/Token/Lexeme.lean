import Mathlib
import Lox.Token.Stream

/-! Lexemes. Each kind of token is a set of texts, and so is layout. Nothing here says
where in a source text a lexeme ends: that is left to the rule that the longest wins. -/

namespace Lox.Stream

def lineBreaks (text : List Char) : Nat := text.count '\n'

def Digits (text : List Char) : Prop := text ≠ [] ∧ ∀ digit ∈ text, digit.isDigit = true

/-- Digits, or digits on both sides of a point, with the double nearest to the decimal. -/
inductive Numeral : List Char → Float → Prop where
  | whole {digits : List Char} :
      Digits digits → Numeral digits (Reading.nearest (Reading.naturalOf digits) 0)
  | fractional {digits places : List Char} :
      Digits digits → Digits places →
      Numeral (digits ++ '.' :: places)
        (Reading.nearest (Reading.naturalOf (digits ++ places)) (-(places.length : Int)))

inductive Word : List Char → Prop where
  | word {first : Char} {rest : List Char} :
      (first.isAlpha = true ∨ first = '_') →
      (∀ character ∈ rest, character.isAlphanum = true ∨ character = '_') → Word (first :: rest)

/-- The lexemes and what they stand for. Only some places let a numeral have a sign. -/
inductive Lexeme (signed : Bool) : List Char → Content → Prop where
  | blank {character : Char} :
      character ∈ [' ', '\r', '\t', '\n'] → Lexeme signed [character] .layout
  | comment {body : List Char} : '\n' ∉ body → Lexeme signed ('/' :: '/' :: body) .layout
  | mark (mark : Mark) : Lexeme signed mark.spelling.toList (.token (.mark mark))
  | number {text : List Char} {value : Float} :
      Numeral text value → Lexeme signed text (.token (.number value))
  | negative {text : List Char} {value : Float} :
      signed = true → Numeral text value → Lexeme signed ('-' :: text) (.token (.number (-value)))
  | keyword (word : Keyword) : Lexeme signed word.spelling.toList (.token (.keyword word))
  | identifier {text : List Char} :
      Word text → (∀ word : Keyword, word.spelling.toList ≠ text) →
      Lexeme signed text (.token .identifier)
  | string {body : List Char} :
      '"' ∉ body → Lexeme signed ('"' :: body ++ ['"']) (.token (.string (String.ofList body)))

/-! ### Digits in front of a text -/

theorem takeWhile_digits {digits : List Char} (rest : List Char)
    (isDigits : ∀ digit ∈ digits, digit.isDigit = true) (ends : startsWithDigit rest = false) :
    (digits ++ rest).takeWhile Char.isDigit = digits ∧
      (digits ++ rest).dropWhile Char.isDigit = rest := by
  rw [List.takeWhile_append_of_pos isDigits, List.dropWhile_append_of_pos isDigits]
  cases rest with
  | nil => simp
  | cons next rest =>
      rw [startsWithDigit] at ends
      simp [ends]

theorem startsWithDigit_takeWhile (text : List Char) :
    startsWithDigit text = !(text.takeWhile Char.isDigit).isEmpty := by
  cases text with
  | nil => rfl
  | cons first rest =>
      rw [startsWithDigit, List.takeWhile_cons]
      split
      · assumption
      · rename_i notDigit
        simpa using notDigit

theorem Digits.startsWithDigit {digits rest : List Char} (isDigits : Digits digits) :
    startsWithDigit (digits ++ rest) = true := by
  obtain ⟨notEmpty, all⟩ := isDigits
  cases digits with
  | nil => exact absurd rfl notEmpty
  | cons first digits => exact all first List.mem_cons_self

theorem Numeral.startsWithDigit {text : List Char} {value : Float}
    (numeral : Numeral text value) (rest : List Char) : startsWithDigit (text ++ rest) = true := by
  cases numeral with
  | whole isDigits => exact isDigits.startsWithDigit
  | fractional isDigits _ =>
      rw [List.append_assoc]
      exact isDigits.startsWithDigit

theorem digits_takeWhile {text : List Char} (starts : startsWithDigit text = true) :
    Digits (text.takeWhile Char.isDigit) := by
  rw [startsWithDigit_takeWhile, Bool.not_eq_true', List.isEmpty_eq_false_iff] at starts
  exact ⟨starts, List.all_eq_true.1 List.all_takeWhile⟩

/-! ### What a numeral is worth -/

theorem unsigned?_of_startsWithDigit {text : List Char} (starts : startsWithDigit text = true) :
    Reading.unsigned? text =
      let whole := text.takeWhile Char.isDigit
      let (places, rest) := Reading.fraction (text.dropWhile Char.isDigit)
      (Reading.exponent? rest).map fun exponent =>
        Reading.nearest (Reading.naturalOf (whole ++ places)) (exponent - places.length) := by
  have notEmpty := (digits_takeWhile starts).1
  have noWord (word : List Char) (noDigit : startsWithDigit word = false) :
      text.map Char.toLower ≠ word := by
    rintro rfl
    cases text with
    | nil => cases starts
    | cons first rest =>
        rw [List.map_cons, startsWithDigit, Char.toLower] at noDigit
        rw [startsWithDigit] at starts
        split at noDigit
        · rename_i upper
          simp only [Char.isDigit, Bool.and_eq_true, decide_eq_true_eq, ge_iff_le] at starts
          have above : (65 : UInt32) ≤ first.val := upper.1
          have below : first.val ≤ 57 := starts.2
          exact absurd (UInt32.le_trans above below) (by decide)
        · rw [starts] at noDigit
          cases noDigit
  unfold Reading.unsigned?
  rw [if_neg, if_neg (noWord _ (by decide))]
  · dsimp only
    rw [List.isEmpty_eq_false_iff.2 notEmpty]
    simp only [Bool.false_and, Bool.false_eq_true, if_false]
  · simp only [Bool.or_eq_true, decide_eq_true_eq, not_or]
    exact ⟨noWord _ (by decide), noWord _ (by decide)⟩

theorem Numeral.unsigned? {text : List Char} {value : Float} (numeral : Numeral text value) :
    Reading.unsigned? text = some value := by
  have starts := numeral.startsWithDigit []
  rw [List.append_nil] at starts
  rw [unsigned?_of_startsWithDigit starts]
  cases numeral with
  | @whole digits isDigits =>
      obtain ⟨front, back⟩ := takeWhile_digits [] isDigits.2 rfl
      rw [List.append_nil] at front back
      simp [front, back, Reading.fraction, Reading.exponent?]
  | @fractional digits places isDigits arePlaces =>
      obtain ⟨front, back⟩ := takeWhile_digits ('.' :: places) isDigits.2 rfl
      obtain ⟨frontPlaces, backPlaces⟩ := takeWhile_digits [] arePlaces.2 rfl
      rw [List.append_nil] at frontPlaces backPlaces
      simp [front, back, frontPlaces, backPlaces, Reading.fraction, Reading.exponent?]

theorem Numeral.number? {text : List Char} {value : Float} (numeral : Numeral text value) :
    Reading.number? text = some value := by
  have starts := numeral.startsWithDigit []
  rw [List.append_nil] at starts
  unfold Reading.number?
  split
  · cases starts
  · cases starts
  · exact numeral.unsigned?

theorem Numeral.number?_negative {text : List Char} {value : Float}
    (numeral : Numeral text value) : Reading.number? ('-' :: text) = some (-value) := by
  rw [Reading.number?, numeral.unsigned?]
  rfl

-- The patterns of some doubles: a tenth is none, the second numeral lies halfway between two, and
-- the last one is longer than any double is precise.
example : (Reading.number? "0.1".toList).map Float.toBits = some 0x3FB999999999999A := by
  decide +kernel

example : (Reading.number? "9007199254740993".toList).map Float.toBits =
    some 0x4340000000000000 := by
  decide +kernel

example : (Reading.number? "-31415926535897932384.6264".toList).map Float.toBits =
    some 0xC3FB3FBCABC55F6E := by
  decide +kernel

/-! ### The numeral in front of a text -/

theorem fraction_front (text : List Char) :
    (fractionLength text = 0) ∨
      ∃ places rest, text = '.' :: (places ++ rest) ∧ Digits places ∧
        fractionLength text = places.length + 1 := by
  unfold fractionLength
  split
  · rename_i rest
    split
    · rename_i starts
      refine .inr ⟨rest.takeWhile Char.isDigit, rest.dropWhile Char.isDigit, ?_,
        digits_takeWhile starts, Nat.add_comm _ _⟩
      rw [List.takeWhile_append_dropWhile]
    · exact .inl rfl
  · exact .inl rfl

theorem numeralLength_le (text : List Char) : numeralLength text ≤ text.length := by
  have shape := congrArg List.length
    (List.takeWhile_append_dropWhile (p := Char.isDigit) (l := text))
  rw [List.length_append] at shape
  unfold numeralLength
  rcases fraction_front (text.dropWhile Char.isDigit) with
    absent | ⟨places, rest, isFraction, _, count⟩
  · omega
  · rw [isFraction, List.length_cons, List.length_append] at shape
    omega

/-- In front of a text that begins with a digit stands a numeral of the length found. -/
theorem numeral_front {text : List Char} (starts : startsWithDigit text = true) :
    ∃ value, Numeral (text.take (numeralLength text)) value := by
  have isDigits := digits_takeWhile starts
  unfold numeralLength
  rcases fraction_front (text.dropWhile Char.isDigit) with
    absent | ⟨places, rest, shape, arePlaces, count⟩
  · rw [absent, Nat.add_zero, ← List.prefix_iff_eq_take.1 (List.takeWhile_prefix _)]
    exact ⟨_, .whole isDigits⟩
  · have whole : text.takeWhile Char.isDigit ++ '.' :: places ++ rest = text := by
      rw [List.append_assoc, List.cons_append, ← shape, List.takeWhile_append_dropWhile]
    have front := List.prefix_iff_eq_take.1 ⟨rest, whole⟩
    rw [List.length_append, List.length_cons, ← count] at front
    rw [← front]
    exact ⟨_, .fractional isDigits arePlaces⟩

/-- No numeral in front of a text is longer than the one found. -/
theorem Numeral.length_le {text : List Char} {value : Float} (numeral : Numeral text value)
    (rest : List Char) : text.length ≤ numeralLength (text ++ rest) := by
  unfold numeralLength
  cases numeral with
  | @whole digits isDigits =>
      rw [List.takeWhile_append_of_pos isDigits.2, List.length_append]
      omega
  | @fractional digits places isDigits arePlaces =>
      rw [List.append_assoc, List.cons_append]
      obtain ⟨front, back⟩ := takeWhile_digits ('.' :: (places ++ rest)) isDigits.2 rfl
      rw [front, back, fractionLength, if_pos arePlaces.startsWithDigit,
        List.takeWhile_append_of_pos arePlaces.2]
      simp only [List.length_append, List.length_cons]
      omega

end Lox.Stream
