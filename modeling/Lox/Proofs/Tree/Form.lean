import Mathlib.Data.List.Basic
import Lox.Proofs.Number.Text
import Lox.Tree.PrefixForm

/-! Prefix forms as trees. A prefix form is a word, or a head and its parts in
parentheses; a form whose words have no blank and no parenthesis in them can be read back
from its text, and so two such forms with one text are the same. -/

namespace Lox

inductive Form where
  | word (text : List Char)
  | node (head : List Char) (parts : List Form)

mutual

def Form.text : Form → List Char
  | .word text => text
  | .node head parts => '(' :: (head ++ (textOfParts parts ++ [')']))
termination_by structural form => form

def textOfParts : List Form → List Char
  | [] => []
  | part :: rest => ' ' :: (part.text ++ textOfParts rest)
termination_by structural parts => parts

end

def isBorder (character : Char) : Bool := character == ' ' || character == '(' || character == ')'

def Unbroken (text : List Char) : Prop := ∀ character ∈ text, isBorder character = false

/-- Words and heads are without borders, and no word is empty. -/
inductive Form.Plain : Form → Prop where
  | word {text : List Char} : text ≠ [] → Unbroken text → Plain (.word text)
  | node {head : List Char} {parts : List Form} :
      Unbroken head → (∀ part ∈ parts, Plain part) → Plain (.node head parts)

/-! ### Forms are read back from their text -/

/-- The text is empty or begins with a border. -/
def Bordered (text : List Char) : Prop := ∀ character ∈ text.head?, isBorder character = true

theorem bordered_cons {first : Char} (border : isBorder first = true) (rest : List Char) :
    Bordered (first :: rest) := by
  rintro _ ⟨⟩
  exact border

/-- A word ends where the first border is. -/
theorem Unbroken.unique {word word' rest rest' : List Char} (unbroken : Unbroken word)
    (unbroken' : Unbroken word') (bordered : Bordered rest) (bordered' : Bordered rest')
    (same : word ++ rest = word' ++ rest') : word = word' ∧ rest = rest' := by
  have inside {text : List Char} (unbroken : Unbroken text) :
      ∀ character ∈ text, (!isBorder character) = true := fun character member =>
    congrArg not (unbroken character member)
  have ends {text : List Char} (bordered : Bordered text) :
      ∀ character ∈ text.head?, (!isBorder character) = false := fun character member =>
    congrArg not (bordered character member)
  exact stretch_unique (inside unbroken) (inside unbroken') (ends bordered) (ends bordered') same

/-- No other form in front of a border has the same text as this one. -/
def Form.Unique (form : Form) : Prop :=
  ∀ ⦃other : Form⦄ ⦃rest rest' : List Char⦄, other.Plain → Bordered rest → Bordered rest' →
    form.text ++ rest = other.text ++ rest' → form = other ∧ rest = rest'

theorem bordered_parts (parts : List Form) (rest : List Char) :
    Bordered (textOfParts parts ++ ')' :: rest) := by
  cases parts with
  | nil => exact bordered_cons rfl _
  | cons part parts => exact bordered_cons rfl _

/-- Parts are read one by one up to the closing parenthesis. -/
theorem parts_unique {parts parts' : List Form} {rest rest' : List Char}
    (unique : ∀ part ∈ parts, part.Unique) (plain : ∀ part ∈ parts', part.Plain)
    (same : textOfParts parts ++ ')' :: rest = textOfParts parts' ++ ')' :: rest') :
    parts = parts' ∧ rest = rest' := by
  induction parts generalizing parts' with
  | nil =>
      cases parts' with
      | nil => exact ⟨rfl, (List.cons.inj same).2⟩
      | cons part' parts' => exact absurd (List.cons.inj same).1 (by decide)
  | cons part parts ih =>
      cases parts' with
      | nil => exact absurd (List.cons.inj same).1 (by decide)
      | cons part' parts' =>
          have sameParts := (List.cons.inj same).2
          change part.text ++ textOfParts parts ++ _ = part'.text ++ textOfParts parts' ++ _
            at sameParts
          rw [List.append_assoc, List.append_assoc] at sameParts
          obtain ⟨uniqueFirst, uniqueRest⟩ := List.forall_mem_cons.1 unique
          obtain ⟨plainFirst, plainRest⟩ := List.forall_mem_cons.1 plain
          obtain ⟨rfl, sameTail⟩ :=
            uniqueFirst plainFirst (bordered_parts _ _) (bordered_parts _ _) sameParts
          obtain ⟨rfl, sameRest⟩ := ih uniqueRest plainRest sameTail
          exact ⟨rfl, sameRest⟩

theorem Unbroken.not_node {text rest : List Char} {more : List Char} (unbroken : Unbroken text)
    (notEmpty : text ≠ []) : text ++ rest ≠ '(' :: more := by
  intro same
  cases text with
  | nil => exact notEmpty rfl
  | cons first text =>
      have border := unbroken first List.mem_cons_self
      rw [(List.cons.inj same).1] at border
      cases border

theorem Form.Plain.unique {form : Form} (plain : form.Plain) : form.Unique := by
  induction plain with
  | word notEmpty unbroken =>
      intro other rest rest' plain bordered bordered' same
      cases plain with
      | word _ unbroken' =>
          obtain ⟨rfl, sameRest⟩ := unbroken.unique unbroken' bordered bordered' same
          exact ⟨rfl, sameRest⟩
      | node => exact absurd same (unbroken.not_node notEmpty)
  | @node head parts unbroken _ ih =>
      intro other rest rest' plain bordered bordered' same
      cases plain with
      | word notEmpty unbroken' => exact absurd same.symm (unbroken'.not_node notEmpty)
      | @node head' parts' unbroken' plain =>
          have sameInside := (List.cons.inj same).2
          change head ++ (textOfParts parts ++ [')']) ++ rest =
            head' ++ (textOfParts parts' ++ [')']) ++ rest' at sameInside
          simp only [List.append_assoc, List.cons_append, List.nil_append] at sameInside
          obtain ⟨rfl, sameParts⟩ :=
            unbroken.unique unbroken' (bordered_parts _ _) (bordered_parts _ _) sameInside
          obtain ⟨rfl, sameRest⟩ := parts_unique ih plain sameParts
          exact ⟨rfl, sameRest⟩

theorem Form.Plain.text_inj {form other : Form} (plain : form.Plain) (plain' : other.Plain)
    (same : form.text = other.text) : form = other := by
  have nothing : Bordered [] := nofun
  exact (plain.unique plain' nothing nothing (congrArg (· ++ []) same)).1

/-! ### The forms of expressions -/

mutual

def Expression.form : Expression → Form
  | .literal value => .word value.prefixForm.toList
  | .grouping inner => .node "group".toList [inner.form]
  | .unary operator right => .node operator.lexeme.toList [right.form]
  | .binary left operator right => .node operator.lexeme.toList [left.form, right.form]
  | .logical left operator right => .node operator.lexeme.toList [left.form, right.form]
  | .ternary condition thenBranch elseBranch =>
      .node "?:".toList [condition.form, thenBranch.form, elseBranch.form]
  | .variable _ name => .word name.lexeme.toList
  | .assign _ name value => .node "=".toList [.word name.lexeme.toList, value.form]
  | .call callee _ arguments => .node "call".toList (callee.form :: formsOf arguments)
  | .lambda procedure => .word (Expression.lambda procedure).prefixForm.toList
termination_by structural expression => expression

def formsOf : List Expression → List Form
  | [] => []
  | expression :: rest => expression.form :: formsOf rest
termination_by structural expressions => expressions

end

theorem textOfParts_eq_flatMap (parts : List Form) :
    textOfParts parts = (parts.map Form.text).flatMap (' ' :: ·) := by
  induction parts with
  | nil => rfl
  | cons part rest ih => rw [textOfParts, ih, List.map_cons, List.flatMap_cons, List.cons_append]

theorem parenthesized_text {parts : List String} {forms : List Form} (head : String)
    (same : parts.map String.toList = forms.map Form.text) :
    (parenthesized head parts).toList = (Form.node head.toList forms).text := by
  have spaced : (parts.map fun part => " " ++ part).flatMap String.toList =
      (parts.map String.toList).flatMap (' ' :: ·) := by
    rw [List.flatMap_map, List.flatMap_map]
    exact List.flatMap_congr fun part _ => String.toList_append
  rw [Form.text, textOfParts_eq_flatMap, ← same, ← spaced, parenthesized]
  simp only [String.toList_append, String.toList_join]
  exact (List.append_assoc _ _ _).trans (List.append_assoc _ _ _)

mutual

theorem Expression.prefixForm_text :
    ∀ expression : Expression, expression.prefixForm.toList = expression.form.text
  | .literal _ => rfl
  | .grouping inner =>
      parenthesized_text "group" (congrArg₂ _ inner.prefixForm_text rfl)
  | .unary operator right =>
      parenthesized_text operator.lexeme (congrArg₂ _ right.prefixForm_text rfl)
  | .binary left operator right =>
      parenthesized_text operator.lexeme
        (congrArg₂ _ left.prefixForm_text (congrArg₂ _ right.prefixForm_text rfl))
  | .logical left operator right =>
      parenthesized_text operator.lexeme
        (congrArg₂ _ left.prefixForm_text (congrArg₂ _ right.prefixForm_text rfl))
  | .ternary condition thenBranch elseBranch =>
      parenthesized_text "?:" (congrArg₂ _ condition.prefixForm_text
        (congrArg₂ _ thenBranch.prefixForm_text (congrArg₂ _ elseBranch.prefixForm_text rfl)))
  | .variable _ _ => rfl
  | .assign _ _ value =>
      parenthesized_text "=" (congrArg₂ _ rfl (congrArg₂ _ value.prefixForm_text rfl))
  | .call callee _ arguments =>
      parenthesized_text "call" (congrArg₂ _ callee.prefixForm_text (prefixForms_text arguments))
  | .lambda _ => rfl
termination_by structural expression => expression

theorem prefixForms_text : ∀ expressions : List Expression,
    (prefixForms expressions).map String.toList = (formsOf expressions).map Form.text
  | [] => rfl
  | expression :: rest => congrArg₂ _ expression.prefixForm_text (prefixForms_text rest)
termination_by structural expressions => expressions

end

end Lox
