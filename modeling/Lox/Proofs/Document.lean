import Mathlib.Data.List.Basic
import Lox.Document
import Lox.Proofs.Number.Text

/-! Documents are told by their texts. A string ends at the first quote that is not
escaped, a number at the first character that no number has, and what is in brackets at
the closing one; so a text can be read in only one way, up to whether a number is held
as a number or as its digits. -/

namespace Lox.Document

/-! ### Strings in quotes -/

def hexValue (digit : Char) : Nat :=
  if digit.isDigit then digit.toNat - '0'.toNat else digit.toNat - 'a'.toNat + 10

def unescape : List Char → Option (Char × List Char)
  | '\\' :: 'n' :: rest => some ('\n', rest)
  | '\\' :: 'r' :: rest => some ('\r', rest)
  | '\\' :: 't' :: rest => some ('\t', rest)
  | '\\' :: 'b' :: rest => some (Char.ofNat 8, rest)
  | '\\' :: 'f' :: rest => some (Char.ofNat 12, rest)
  | '\\' :: 'u' :: '0' :: '0' :: high :: low :: rest =>
      some (Char.ofNat (16 * hexValue high + hexValue low), rest)
  | '\\' :: marked :: rest => some (marked, rest)
  | first :: rest => some (first, rest)
  | [] => none

theorem hexValue_digitChar : ∀ digit < 16, hexValue (Nat.digitChar digit) = digit := by decide

theorem unescape_cons {first : Char} (notSlash : first ≠ '\\') (rest : List Char) :
    unescape (first :: rest) = some (first, rest) := by
  unfold unescape
  split <;> simp_all

theorem unescape_escape (character : Char) (rest : List Char) :
    unescape (escape character ++ rest) = some (character, rest) := by
  unfold escape
  split
  · rfl
  · rfl
  · rfl
  · rfl
  · rfl
  · next notQuote notSlash _ _ _ =>
    dsimp only
    split
    · next code =>
      rw [← Char.ofNat_toNat character, code]
      rfl
    · split
      · next code =>
        rw [← Char.ofNat_toNat character, code]
        rfl
      · split
        · next control =>
          have halves : 16 * (character.toNat / 16) + character.toNat % 16 = character.toNat := by
            omega
          change some (Char.ofNat _, rest) = _
          rw [hexValue_digitChar _ (by omega), hexValue_digitChar _ (by omega), halves,
            Char.ofNat_toNat]
        · exact unescape_cons notSlash rest

/-- No escaped character begins like the end of the string. -/
theorem escape_ne_quote (character : Char) (rest more : List Char) :
    escape character ++ rest ≠ '"' :: more := by
  intro same
  have read := congrArg unescape same
  rw [unescape_escape, unescape_cons (by decide), Option.some.injEq, Prod.mk.injEq] at read
  rw [read.1] at same
  cases same

theorem escaped_unique {text text' rest rest' : List Char}
    (same : text.flatMap escape ++ '"' :: rest = text'.flatMap escape ++ '"' :: rest') :
    text = text' ∧ rest = rest' := by
  induction text generalizing text' with
  | nil =>
      cases text' with
      | nil => exact ⟨rfl, (List.cons.inj same).2⟩
      | cons first' text' =>
          rw [List.flatMap_cons, List.append_assoc] at same
          exact absurd same.symm (escape_ne_quote _ _ _)
  | cons first text ih =>
      rw [List.flatMap_cons, List.append_assoc] at same
      cases text' with
      | nil => exact absurd same (escape_ne_quote _ _ _)
      | cons first' text' =>
          rw [List.flatMap_cons, List.append_assoc] at same
          have read := congrArg unescape same
          rw [unescape_escape, unescape_escape, Option.some.injEq, Prod.mk.injEq] at read
          obtain ⟨rfl, further⟩ := read
          obtain ⟨rfl, sameRest⟩ := ih further
          exact ⟨rfl, sameRest⟩

theorem toList_quoted (text : String) :
    (quoted text).toList = '"' :: (text.toList.flatMap escape ++ ['"']) := by
  simp [quoted]

theorem quoted_unique {text text' : String} {rest rest' : List Char}
    (same : (quoted text).toList ++ rest = (quoted text').toList ++ rest') :
    text = text' ∧ rest = rest' := by
  rw [toList_quoted, toList_quoted, List.cons_append, List.cons_append, List.append_assoc,
    List.append_assoc] at same
  obtain ⟨sameText, sameRest⟩ := escaped_unique (List.cons.inj same).2
  exact ⟨String.toList_inj.1 sameText, sameRest⟩

/-! ### What ends a number -/

/-- The text is empty or begins with a character that no number has. -/
def Ended (text : List Char) : Prop := ∀ character ∈ text.head?, isNumeral character = false

theorem ended_cons {first : Char} (ends : isNumeral first = false) (rest : List Char) :
    Ended (first :: rest) := by
  rintro _ ⟨⟩
  exact ends

/-! ### Lists and records -/

/-- In front of a text that ends it, what is written of the item tells how it looks. -/
def Tells {Item View : Type} (write : Item → List Char) (view : Item → View)
    (legible : Item → Prop) (item : Item) : Prop :=
  ∀ ⦃other : Item⦄ ⦃rest rest' : List Char⦄, legible other → Ended rest → Ended rest' →
    write item ++ rest = write other ++ rest' → view item = view other ∧ rest = rest'

def entries {Item : Type} (write : Item → List Char) (depth : Nat) (items : List Item) :
    List Char :=
  items.flatMap fun item => ',' :: ((lineBreak depth).toList ++ write item)

def enclosed {Item : Type} (opening closing : Char) (write : Item → List Char) (depth : Nat) :
    List Item → List Char
  | [] => [opening, closing]
  | item :: rest =>
      opening :: ((lineBreak (depth + 1)).toList ++ (write item ++
        (entries write (depth + 1) rest ++ ((lineBreak depth).toList ++ [closing]))))

theorem toList_lineBreak (depth : Nat) :
    (lineBreak depth).toList = '\n' :: List.replicate (2 * depth) ' ' := by
  simp [lineBreak]

section

variable {Item View : Type} {write : Item → List Char} {view : Item → View}
  {legible : Item → Prop} {depth : Nat} {items items' : List Item} {rest rest' : List Char}

theorem ended_entries (rest : List Char) :
    Ended (entries write depth items ++ '\n' :: rest) := by
  cases items with
  | nil => exact ended_cons rfl _
  | cons item items => exact ended_cons rfl _

/-- Entries are read one by one up to the line that is not led by a comma. -/
theorem entries_unique (tells : ∀ item ∈ items, Tells write view legible item)
    (isLegible : ∀ item ∈ items', legible item)
    (same : entries write depth items ++ '\n' :: rest =
      entries write depth items' ++ '\n' :: rest') :
    items.map view = items'.map view ∧ rest = rest' := by
  induction items generalizing items' with
  | nil =>
      cases items' with
      | nil => exact ⟨rfl, (List.cons.inj same).2⟩
      | cons item' items' => exact absurd (List.cons.inj same).1 (by decide)
  | cons item items ih =>
      cases items' with
      | nil => exact absurd (List.cons.inj same).1 (by decide)
      | cons item' items' =>
          obtain ⟨tellsFirst, tellsRest⟩ := List.forall_mem_cons.1 tells
          obtain ⟨legibleFirst, legibleRest⟩ := List.forall_mem_cons.1 isLegible
          simp only [entries, List.flatMap_cons, List.cons_append, List.append_assoc] at same
          have sameEntries := List.append_cancel_left (List.cons.inj same).2
          obtain ⟨sameFirst, sameTail⟩ :=
            tellsFirst legibleFirst (ended_entries _) (ended_entries _) sameEntries
          obtain ⟨sameRest, sameEnd⟩ := ih tellsRest legibleRest sameTail
          exact ⟨congrArg₂ List.cons sameFirst sameRest, sameEnd⟩

theorem enclosed_cons (opening closing : Char) (write : Item → List Char) (depth : Nat)
    (item : Item) (items : List Item) (rest : List Char) :
    ∃ inner, enclosed opening closing write depth (item :: items) ++ rest =
        opening :: '\n' :: inner ∧
      ',' :: '\n' :: inner = entries write (depth + 1) (item :: items) ++
        '\n' :: (List.replicate (2 * depth) ' ' ++ closing :: rest) := by
  refine ⟨List.replicate (2 * (depth + 1)) ' ' ++ (write item ++
    (entries write (depth + 1) items ++
      '\n' :: (List.replicate (2 * depth) ' ' ++ closing :: rest))), ?_, ?_⟩
  · simp only [enclosed, toList_lineBreak, List.cons_append, List.append_assoc, List.nil_append]
  · simp only [entries, List.flatMap_cons, toList_lineBreak, List.cons_append, List.append_assoc]

theorem enclosed_unique {opening closing : Char} (notBreak : closing ≠ '\n')
    (tells : ∀ item ∈ items, Tells write view legible item)
    (isLegible : ∀ item ∈ items', legible item)
    (same : enclosed opening closing write depth items ++ rest =
      enclosed opening closing write depth items' ++ rest') :
    items.map view = items'.map view ∧ rest = rest' := by
  cases items with
  | nil =>
      cases items' with
      | nil => exact ⟨rfl, List.append_cancel_left same⟩
      | cons item' items' =>
          obtain ⟨inner', inside', -⟩ :=
            enclosed_cons opening closing write depth item' items' rest'
          rw [inside'] at same
          exact absurd (List.cons.inj (List.cons.inj same).2).1 notBreak
  | cons item items =>
      obtain ⟨inner, inside, listed⟩ := enclosed_cons opening closing write depth item items rest
      rw [inside] at same
      cases items' with
      | nil => exact absurd (List.cons.inj (List.cons.inj same).2).1.symm notBreak
      | cons item' items' =>
          obtain ⟨inner', inside', listed'⟩ :=
            enclosed_cons opening closing write depth item' items' rest'
          rw [inside', List.cons.injEq] at same
          rw [same.2, listed'] at listed
          obtain ⟨sameItems, sameEnd⟩ := entries_unique tells isLegible listed.symm
          exact ⟨sameItems, (List.cons.inj (List.append_cancel_left sameEnd)).2⟩

end

/-! ### Texts of documents -/

mutual

def spelled : Document → Document
  | .null => .null
  | .natural value => .decimal (toString value)
  | .decimal text => .decimal text
  | .string text => .string text
  | .list items => .list (spelledItems items)
  | .record fields => .record (spelledFields fields)
termination_by structural document => document

def spelledItems : List Document → List Document
  | [] => []
  | item :: rest => item.spelled :: spelledItems rest
termination_by structural items => items

def spelledField : String × Document → String × Document
  | (name, value) => (name, value.spelled)
termination_by structural field => field

def spelledFields : List (String × Document) → List (String × Document)
  | [] => []
  | field :: rest => spelledField field :: spelledFields rest
termination_by structural fields => fields

end

theorem spelledItems_eq_map (items : List Document) : spelledItems items = items.map spelled := by
  induction items with
  | nil => rfl
  | cons item rest ih => rw [spelledItems, ih, List.map_cons]

theorem spelledFields_eq_map (fields : List (String × Document)) :
    spelledFields fields = fields.map spelledField := by
  induction fields with
  | nil => rfl
  | cons field rest ih => rw [spelledFields, ih, List.map_cons]

def number? : Document → Option String
  | .natural value => some (toString value)
  | .decimal text => some text
  | .null | .string _ | .list _ | .record _ => none

/-- Digits that are held as a text are those of a number. -/
inductive Legible : Document → Prop where
  | null : Legible .null
  | natural (value : Nat) : Legible (.natural value)
  | decimal {text : String} : Numeral text.toList → Legible (.decimal text)
  | string (text : String) : Legible (.string text)
  | list {items : List Document} : (∀ item ∈ items, Legible item) → Legible (.list items)
  | record {fields : List (String × Document)} :
      (∀ field ∈ fields, Legible field.2) → Legible (.record fields)

theorem Legible.numeral {document : Document} {text : String} (legible : document.Legible)
    (isNumber : document.number? = some text) : Numeral text.toList := by
  cases legible with
  | natural value =>
      cases isNumber
      rw [Nat.toString_eq_repr, Nat.toList_repr]
      exact numeral_toDigits value
  | decimal numeral =>
      cases isNumber
      exact numeral
  | _ => cases isNumber

section

variable {document : Document} {text : String}

theorem render_number (isNumber : document.number? = some text) (depth : Nat) :
    document.render depth = text := by
  cases document with
  | natural _ | decimal _ => exact Option.some.inj isNumber
  | _ => cases isNumber

theorem spelled_number (isNumber : document.number? = some text) :
    document.spelled = .decimal text := by
  cases document with
  | natural _ | decimal _ => exact congrArg _ (Option.some.inj isNumber)
  | _ => cases isNumber

def opening? : Document → Option Char
  | .null => some 'n'
  | .string _ => some '"'
  | .list _ => some '['
  | .record _ => some '\x7b'
  | .natural _ | .decimal _ => none

theorem opening?_eq_none_iff :
    document.opening? = none ↔ ∃ text, document.number? = some text := by
  cases document with
  | natural _ | decimal _ => exact ⟨fun _ => ⟨_, rfl⟩, fun _ => rfl⟩
  | _ => exact ⟨nofun, fun ⟨_, isNumber⟩ => nomatch isNumber⟩

end

def written (depth : Nat) (document : Document) : List Char := (document.render depth).toList

def writtenField (depth : Nat) (field : String × Document) : List Char :=
  (renderField depth field).toList

theorem toList_renderItems (depth : Nat) (items : List Document) :
    (renderItems depth items).toList = entries (written depth) depth items := by
  induction items with
  | nil => rfl
  | cons item rest ih =>
      rw [renderItems, entries, List.flatMap_cons]
      simp [ih, entries, written]

theorem toList_renderFields (depth : Nat) (fields : List (String × Document)) :
    (renderFields depth fields).toList = entries (writtenField depth) depth fields := by
  induction fields with
  | nil => rfl
  | cons field rest ih =>
      rw [renderFields, entries, List.flatMap_cons]
      simp [ih, entries, writtenField]

theorem written_list (depth : Nat) (items : List Document) :
    written depth (.list items) = enclosed '[' ']' (written (depth + 1)) depth items := by
  cases items with
  | nil => simp [written, render, enclosed]
  | cons item rest => simp [written, render, enclosed, toList_renderItems]

theorem written_record (depth : Nat) (fields : List (String × Document)) :
    written depth (.record fields) =
      enclosed '\x7b' '\x7d' (writtenField (depth + 1)) depth fields := by
  cases fields with
  | nil => simp [written, render, enclosed]
  | cons field rest => simp [written, render, enclosed, toList_renderFields, writtenField]

theorem written_string (depth : Nat) (text : String) :
    written depth (.string text) = (quoted text).toList := by
  rw [written, render]

def openingOf (character : Char) : Option Char :=
  if isNumeral character then none else some character

theorem Legible.opens_number {document : Document} {text : String} (legible : document.Legible)
    (isNumber : document.number? = some text) (depth : Nat) :
    ∃ first rest, written depth document = first :: rest ∧
      openingOf first = document.opening? := by
  have numeral := legible.numeral isNumber
  obtain ⟨first, rest, shape⟩ := List.exists_cons_of_ne_nil numeral.1
  refine ⟨first, rest, (congrArg _ (render_number isNumber depth)).trans shape, ?_⟩
  rw [openingOf, if_pos (numeral.2 first (shape ▸ List.mem_cons_self)),
    opening?_eq_none_iff.2 ⟨text, isNumber⟩]

theorem Legible.opens {document : Document} (legible : document.Legible) (depth : Nat) :
    ∃ first rest, written depth document = first :: rest ∧
      openingOf first = document.opening? := by
  cases legible with
  | null => exact ⟨'n', "ull".toList, by simp [written, render], rfl⟩
  | natural value => exact (Legible.natural value).opens_number rfl depth
  | decimal numeral => exact (Legible.decimal numeral).opens_number rfl depth
  | string text => exact ⟨'"', _, by rw [written_string, toList_quoted], rfl⟩
  | @list items =>
      rw [written_list]
      cases items with
      | nil => exact ⟨_, _, rfl, rfl⟩
      | cons _ _ => exact ⟨_, _, rfl, rfl⟩
  | @record fields =>
      rw [written_record]
      cases fields with
      | nil => exact ⟨_, _, rfl, rfl⟩
      | cons _ _ => exact ⟨_, _, rfl, rfl⟩

theorem Legible.same_opening {document other : Document} (legible : document.Legible)
    (legible' : other.Legible) {depth : Nat} {rest rest' : List Char}
    (same : written depth document ++ rest = written depth other ++ rest') :
    document.opening? = other.opening? := by
  obtain ⟨first, more, shape, opens⟩ := legible.opens depth
  obtain ⟨first', more', shape', opens'⟩ := legible'.opens depth
  rw [shape, shape'] at same
  rw [← opens, ← opens', (List.cons.inj same).1]

theorem field_tells {field : String × Document} {depth : Nat}
    (tells : Tells (written depth) spelled Legible field.2) :
    Tells (writtenField depth) spelledField (fun other => other.2.Legible) field := by
  intro other rest rest' legible ended ended' same
  obtain ⟨name, value⟩ := field
  obtain ⟨name', value'⟩ := other
  simp only [writtenField, renderField, String.toList_append, List.append_assoc] at same
  obtain ⟨rfl, sameValue⟩ := quoted_unique same
  obtain ⟨sameView, sameRest⟩ := tells legible ended ended' (List.append_cancel_left sameValue)
  exact ⟨congrArg (Prod.mk name) sameView, sameRest⟩

/-- A number ends where nothing of a number follows. -/
theorem Legible.number_tells {document : Document} {text : String} (legible : document.Legible)
    (isNumber : document.number? = some text) (depth : Nat) :
    Tells (written depth) spelled Legible document := by
  intro other rest rest' legible' ended ended' same
  have opening := legible.same_opening legible' same
  rw [opening?_eq_none_iff.2 ⟨text, isNumber⟩, eq_comm, opening?_eq_none_iff] at opening
  obtain ⟨text', isNumber'⟩ := opening
  rw [written, written, render_number isNumber, render_number isNumber'] at same
  obtain ⟨sameText, sameRest⟩ := stretch_unique (legible.numeral isNumber).2
    (legible'.numeral isNumber').2 ended ended' same
  rw [spelled_number isNumber, spelled_number isNumber', String.toList_inj.1 sameText]
  exact ⟨rfl, sameRest⟩

/-- A document is told by its text in front of anything that ends it. -/
theorem Legible.tells {document : Document} (legible : document.Legible) (depth : Nat) :
    Tells (written depth) spelled Legible document := by
  induction legible generalizing depth with
  | null =>
      intro other rest rest' legible' _ _ same
      have opening := Legible.null.same_opening legible' same
      cases legible' with
      | null => exact ⟨rfl, List.append_cancel_left same⟩
      | _ => cases opening
  | natural value => exact (Legible.natural value).number_tells rfl depth
  | decimal numeral => exact (Legible.decimal numeral).number_tells rfl depth
  | string text =>
      intro other rest rest' legible' _ _ same
      have opening := (Legible.string text).same_opening legible' same
      cases legible' with
      | string text' =>
          rw [written_string, written_string] at same
          obtain ⟨rfl, sameRest⟩ := quoted_unique same
          exact ⟨rfl, sameRest⟩
      | _ => cases opening
  | list legible ih =>
      intro other rest rest' legible' _ _ same
      have opening := (Legible.list legible).same_opening legible' same
      cases legible' with
      | list legible' =>
          rw [written_list, written_list] at same
          obtain ⟨sameItems, sameRest⟩ := enclosed_unique (by decide)
            (fun item member => ih item member (depth + 1)) legible' same
          rw [spelled, spelled, spelledItems_eq_map, spelledItems_eq_map, sameItems]
          exact ⟨rfl, sameRest⟩
      | _ => cases opening
  | record legible ih =>
      intro other rest rest' legible' _ _ same
      have opening := (Legible.record legible).same_opening legible' same
      cases legible' with
      | record legible' =>
          rw [written_record, written_record] at same
          obtain ⟨sameFields, sameRest⟩ := enclosed_unique (by decide)
            (fun field member => field_tells (ih field member (depth + 1))) legible' same
          rw [spelled, spelled, spelledFields_eq_map, spelledFields_eq_map, sameFields]
          exact ⟨rfl, sameRest⟩
      | _ => cases opening

/-- Documents with one text are the same, up to how their numbers are held. -/
theorem Legible.text_inj {document other : Document} (legible : document.Legible)
    (legible' : other.Legible) (same : document.text = other.text) :
    document.spelled = other.spelled := by
  have nothing : Ended [] := nofun
  refine (legible.tells 0 legible' nothing nothing ?_).1
  rw [List.append_nil, List.append_nil]
  exact congrArg String.toList same

end Lox.Document
