/-
Module: SorobanUpgrades.Library.JsonText
Purpose: Compact and indented JSON printing, and the proof that a printed text
  determines the printed tree.
Trusted boundary: human-reviewed spec
Main exports: escapeChar, quoted, Layout, Json.render, Json.compact, Json.pretty,
  Json.render_injective, Json.compact_injective
-/
import SorobanUpgrades.Library.Json

namespace SorobanUpgrades

/-! ### Strings -/

/-- Lower-case hexadecimal digits. -/
def hexDigits : List Char :=
  ['0', '1', '2', '3', '4', '5', '6', '7', '8', '9', 'a', 'b', 'c', 'd', 'e', 'f']

/-- The lower-case digit of a value below 16. -/
def hexDigit (value : Nat) : Char := hexDigits.getD value '0'

/-- The escape a printer writes for one character of a string. Only the
quotation mark, the backslash and the C0 controls are escaped. -/
def escapeChar (character : Char) : List Char :=
  if character = '"' then ['\\', '"']
  else if character = '\\' then ['\\', '\\']
  else if 32 ≤ character.toNat then [character]
  else if character.toNat = 8 then ['\\', 'b']
  else if character.toNat = 9 then ['\\', 't']
  else if character.toNat = 10 then ['\\', 'n']
  else if character.toNat = 12 then ['\\', 'f']
  else if character.toNat = 13 then ['\\', 'r']
  else ['\\', 'u', '0', '0', hexDigit (character.toNat / 16), hexDigit (character.toNat % 16)]

/-- The escaped text of a string, without its quotation marks. -/
def escaped (text : List Char) : List Char := text.flatMap escapeChar

/-- A string as it stands in a JSON text. -/
def quoted (text : String) : List Char := '"' :: (escaped text.toList ++ ['"'])

/-- The characters that are printed as they are. -/
def PrintedVerbatim (character : Char) : Prop :=
  character ≠ '"' ∧ character ≠ '\\' ∧ 32 ≤ character.toNat

theorem escapeChar_of_verbatim {character : Char} (plain : PrintedVerbatim character) :
    escapeChar character = [character] := by
  obtain ⟨notQuote, notBackslash, visible⟩ := plain
  simp [escapeChar, notQuote, notBackslash, visible]

/-- The character after a backslash tells the escapes apart. -/
def unescapeChar : List Char → Option (Char × List Char)
  | '\\' :: '"' :: rest => some ('"', rest)
  | '\\' :: '\\' :: rest => some ('\\', rest)
  | '\\' :: 'b' :: rest => some (Char.ofNat 8, rest)
  | '\\' :: 't' :: rest => some (Char.ofNat 9, rest)
  | '\\' :: 'n' :: rest => some (Char.ofNat 10, rest)
  | '\\' :: 'f' :: rest => some (Char.ofNat 12, rest)
  | '\\' :: 'r' :: rest => some (Char.ofNat 13, rest)
  | '\\' :: 'u' :: '0' :: '0' :: high :: low :: rest =>
      some (Char.ofNat (16 * hexDigits.idxOf high + hexDigits.idxOf low), rest)
  | '"' :: _ => none
  | '\\' :: _ => none
  | character :: rest => some (character, rest)
  | [] => none

private theorem unescapeChar_escapeChar_control {code : Nat} (small : code < 32)
    (rest : List Char) :
    unescapeChar (escapeChar (Char.ofNat code) ++ rest) = some (Char.ofNat code, rest) := by
  interval_cases code <;> rfl

theorem unescapeChar_escapeChar (character : Char) (rest : List Char) :
    unescapeChar (escapeChar character ++ rest) = some (character, rest) := by
  by_cases quote : character = '"'
  · subst quote
    rfl
  by_cases backslash : character = '\\'
  · subst backslash
    rfl
  by_cases visible : 32 ≤ character.toNat
  · rw [escapeChar_of_verbatim ⟨quote, backslash, visible⟩, List.singleton_append]
    unfold unescapeChar
    split <;> simp_all
  · have control := unescapeChar_escapeChar_control (Nat.lt_of_not_le visible) rest
    rwa [Char.ofNat_toNat] at control

theorem escapeChar_append_injective {left right : Char} {lefts rights : List Char}
    (equal : escapeChar left ++ lefts = escapeChar right ++ rights) :
    left = right ∧ lefts = rights := by
  have read := unescapeChar_escapeChar left lefts
  rw [equal, unescapeChar_escapeChar] at read
  simpa [eq_comm] using read

theorem escapeChar_append_ne_quote (character : Char) (lefts rights : List Char) :
    escapeChar character ++ lefts ≠ '"' :: rights := by
  intro equal
  have read := unescapeChar_escapeChar character lefts
  rw [equal] at read
  simp [unescapeChar] at read

/-- The closing quotation mark ends a string unambiguously. -/
theorem escaped_append_injective {left right : List Char} {lefts rights : List Char}
    (equal : escaped left ++ '"' :: lefts = escaped right ++ '"' :: rights) :
    left = right ∧ lefts = rights := by
  induction left generalizing right with
  | nil =>
      cases right with
      | nil => simpa [escaped] using equal
      | cons character right =>
          simp only [escaped, List.flatMap_nil, List.nil_append, List.flatMap_cons,
            List.append_assoc] at equal
          exact absurd equal.symm (escapeChar_append_ne_quote _ _ _)
  | cons character left inductionHypothesis =>
      cases right with
      | nil =>
          simp only [escaped, List.flatMap_nil, List.nil_append, List.flatMap_cons,
            List.append_assoc] at equal
          exact absurd equal (escapeChar_append_ne_quote _ _ _)
      | cons other right =>
          simp only [escaped, List.flatMap_cons, List.append_assoc] at equal
          obtain ⟨same, rest⟩ := escapeChar_append_injective equal
          obtain ⟨sameText, sameRest⟩ := inductionHypothesis rest
          exact ⟨by rw [same, sameText], sameRest⟩

theorem quoted_append_injective {left right : String} {lefts rights : List Char}
    (equal : quoted left ++ lefts = quoted right ++ rights) :
    left = right ∧ lefts = rights := by
  simp only [quoted, List.cons_append, List.append_assoc, List.nil_append,
    List.cons.injEq, true_and] at equal
  obtain ⟨sameText, sameRest⟩ := escaped_append_injective equal
  exact ⟨String.toList_injective sameText, sameRest⟩

/-! ### Numbers -/

/-- The decimal text of an integer. -/
def integerText : Int → List Char
  | .ofNat value => Nat.toDigits 10 value
  | .negSucc value => '-' :: Nat.toDigits 10 (value + 1)

/-- The text of a number. -/
def numberText : Number → List Char
  | .integer value => integerText value
  | .float token => token.text

private theorem isNumberChar_of_isDigit {character : Char} (digit : character.isDigit = true) :
    isNumberChar character = true := by
  simp [isNumberChar, digit]

private theorem toDigits_isDigit {value : Nat} {character : Char}
    (listed : character ∈ Nat.toDigits 10 value) : character.isDigit = true :=
  Nat.isDigit_of_mem_toDigits (by decide) (by decide) listed

private theorem toDigits_injective {left right : Nat}
    (equal : Nat.toDigits 10 left = Nat.toDigits 10 right) : left = right := by
  rw [← Nat.ofDigitChars_ten_toDigits (n := left), equal, Nat.ofDigitChars_ten_toDigits]

theorem integerText_injective {left right : Int}
    (equal : integerText left = integerText right) : left = right := by
  have noSign : ∀ value : Nat, ∀ digits, Nat.toDigits 10 value ≠ '-' :: digits := by
    intro value digits signed
    have digit : '-'.isDigit = true := toDigits_isDigit (signed ▸ List.mem_cons_self)
    simp at digit
  cases left with
  | ofNat left =>
      cases right with
      | ofNat right => rw [toDigits_injective equal]
      | negSucc right => exact absurd equal (noSign _ _)
  | negSucc left =>
      cases right with
      | ofNat right => exact absurd equal.symm (noSign _ _)
      | negSucc right =>
          have same := toDigits_injective (List.cons.inj equal).2
          rw [Nat.succ.inj same]

private theorem integerText_unmarked (value : Int) :
    (integerText value).any (fun character => character ∈ ['.', 'e', 'E']) = false := by
  rw [List.any_eq_false]
  intro character listed
  have plain : character = '-' ∨ character.isDigit = true := by
    cases value with
    | ofNat value => exact .inr (toDigits_isDigit listed)
    | negSucc value =>
        rcases List.mem_cons.1 listed with sign | digit
        · exact .inl sign
        · exact .inr (toDigits_isDigit digit)
  rcases plain with rfl | digit
  · decide
  · simp only [decide_eq_true_eq]
    intro mark
    fin_cases mark <;> simp at digit

theorem numberText_injective {left right : Number}
    (equal : numberText left = numberText right) : left = right := by
  cases left with
  | integer left =>
      cases right with
      | integer right => rw [integerText_injective equal]
      | float token =>
          have mark := token.marked
          rw [← show integerText left = token.text from equal, integerText_unmarked] at mark
          cases mark
  | float token =>
      cases right with
      | integer right =>
          have mark := token.marked
          rw [show token.text = integerText right from equal, integerText_unmarked] at mark
          cases mark
      | float other =>
          cases token
          cases other
          cases (show _ = _ from equal)
          rfl

theorem numberText_isNumberChar (value : Number) :
    ∀ character ∈ numberText value, isNumberChar character = true := by
  intro character listed
  cases value with
  | integer value =>
      cases value with
      | ofNat value => exact isNumberChar_of_isDigit (toDigits_isDigit listed)
      | negSucc value =>
          rcases List.mem_cons.1 listed with sign | digit
          · rw [sign]
            decide
          · exact isNumberChar_of_isDigit (toDigits_isDigit digit)
  | float token => exact List.all_eq_true.1 token.numeric character listed

theorem numberText_ne_nil (value : Number) : numberText value ≠ [] := by
  cases value with
  | integer value =>
      cases value with
      | ofNat value => exact Nat.toDigits_ne_nil
      | negSucc value => exact List.cons_ne_nil _ _
  | float token =>
      intro empty
      have mark := token.marked
      rw [show token.text = [] from empty] at mark
      cases mark

/-- What follows a value does not continue a number. -/
def EndsNumber (rest : List Char) : Prop :=
  ∀ character, rest.head? = some character → isNumberChar character = false

private theorem takeWhile_number {text rest : List Char}
    (numeric : ∀ character ∈ text, isNumberChar character = true) (ends : EndsNumber rest) :
    (text ++ rest).takeWhile isNumberChar = text := by
  rw [List.takeWhile_append_of_pos numeric]
  cases rest with
  | nil => simp
  | cons character rest =>
      have stops := ends character rfl
      simp [stops]

theorem numberText_append_injective {left right : Number} {lefts rights : List Char}
    (leftEnds : EndsNumber lefts) (rightEnds : EndsNumber rights)
    (equal : numberText left ++ lefts = numberText right ++ rights) :
    left = right ∧ lefts = rights := by
  have texts : numberText left = numberText right := by
    rw [← takeWhile_number (numberText_isNumberChar left) leftEnds, equal,
      takeWhile_number (numberText_isNumberChar right) rightEnds]
  exact ⟨numberText_injective texts, by simpa [texts] using equal⟩

/-! ### Trees -/

/-- The whitespace a printer puts between tokens: before an element at a
nesting level, and after the colon of a member. -/
structure Layout where
  line : Nat → List Char
  afterColon : List Char
  line_blank : ∀ level, ∀ character ∈ line level, character = ' ' ∨ character = '\n'

namespace Json

variable (layout : Layout)

mutual

/-- Print a tree at a nesting level. -/
def render (level : Nat) : Json → List Char
  | .null => ['n', 'u', 'l', 'l']
  | .bool true => ['t', 'r', 'u', 'e']
  | .bool false => ['f', 'a', 'l', 's', 'e']
  | .number value => numberText value
  | .string value => quoted value
  | .array [] => ['[', ']']
  | .array (item :: items) =>
      '[' :: (layout.line (level + 1) ++ (render (level + 1) item ++
        (renderItems level items ++ (layout.line level ++ [']']))))
  | .object [] => ['{', '}']
  | .object ((key, value) :: members) =>
      '{' :: (layout.line (level + 1) ++ (quoted key ++ ':' :: (layout.afterColon ++
        (render (level + 1) value ++
          (renderMembers level members ++ (layout.line level ++ ['}']))))))

/-- The array items after the first one. -/
def renderItems (level : Nat) : List Json → List Char
  | [] => []
  | item :: items =>
      ',' :: (layout.line (level + 1) ++ (render (level + 1) item ++ renderItems level items))

/-- The object members after the first one. -/
def renderMembers (level : Nat) : List Member → List Char
  | [] => []
  | (key, value) :: members =>
      ',' :: (layout.line (level + 1) ++ (quoted key ++ ':' :: (layout.afterColon ++
        (render (level + 1) value ++ renderMembers level members))))

end

/-- The constructor of a tree. -/
def kind : Json → Nat
  | .null => 0
  | .bool _ => 1
  | .number _ => 2
  | .string _ => 3
  | .array _ => 4
  | .object _ => 5

/-- The constructor a first character announces. -/
def kindOfLead (character : Char) : Nat :=
  if character = 'n' then 0
  else if character = 't' ∨ character = 'f' then 1
  else if character = '"' then 3
  else if character = '[' then 4
  else if character = '{' then 5
  else 2

private theorem kindOfLead_number {character : Char} (numeric : isNumberChar character = true) :
    kindOfLead character = 2 := by
  have apart : character ≠ 'n' ∧ character ≠ 't' ∧ character ≠ 'f' ∧ character ≠ '"' ∧
      character ≠ '[' ∧ character ≠ '{' := by
    refine ⟨?_, ?_, ?_, ?_, ?_, ?_⟩ <;> rintro rfl <;> revert numeric <;> decide
  simp [kindOfLead, apart]

/-- The first character of a printed tree announces its constructor, and is no
closing bracket. -/
theorem render_lead (level : Nat) (tree : Json) (rest : List Char) :
    ∃ lead tail, render layout level tree ++ rest = lead :: tail ∧
      kindOfLead lead = tree.kind ∧ lead ≠ ']' := by
  cases tree with
  | null => exact ⟨'n', _, by simp [render]; rfl, rfl, by decide⟩
  | bool value =>
      cases value with
      | true => exact ⟨'t', _, by simp [render]; rfl, rfl, by decide⟩
      | false => exact ⟨'f', _, by simp [render]; rfl, rfl, by decide⟩
  | number value =>
      obtain ⟨lead, tail, split⟩ := List.exists_cons_of_ne_nil (numberText_ne_nil value)
      have numeric := numberText_isNumberChar value lead (by simp [split])
      refine ⟨lead, tail ++ rest, by simp [render, split], kindOfLead_number numeric, ?_⟩
      rintro rfl
      revert numeric
      decide
  | string value => exact ⟨'"', _, by simp [render, quoted]; rfl, rfl, by decide⟩
  | array items =>
      cases items with
      | nil => exact ⟨'[', _, by simp [render]; rfl, rfl, by decide⟩
      | cons item items => exact ⟨'[', _, by simp [render]; rfl, rfl, by decide⟩
  | object members =>
      cases members with
      | nil => exact ⟨'{', _, by simp [render]; rfl, rfl, by decide⟩
      | cons member members =>
          obtain ⟨key, value⟩ := member
          exact ⟨'{', _, by simp [render]; rfl, rfl, by decide⟩

theorem kind_eq_of_render_append {level : Nat} {left right : Json} {lefts rights : List Char}
    (equal : render layout level left ++ lefts = render layout level right ++ rights) :
    left.kind = right.kind := by
  obtain ⟨lead, tail, split, kindLeft, _⟩ := render_lead layout level left lefts
  obtain ⟨lead', tail', split', kindRight, _⟩ := render_lead layout level right rights
  rw [split, split'] at equal
  rw [← kindLeft, ← kindRight, (List.cons.inj equal).1]

/-- Text that closes an array or an object at a level. -/
def closing (level : Nat) (bracket : Char) (rest : List Char) : List Char :=
  layout.line level ++ bracket :: rest

private theorem closing_endsNumber (level : Nat) {bracket : Char}
    (plain : isNumberChar bracket = false) (rest : List Char) :
    EndsNumber (closing layout level bracket rest) := by
  intro character first
  cases split : layout.line level with
  | nil =>
      simp only [closing, split, List.nil_append, List.head?_cons, Option.some.injEq] at first
      rw [← first, plain]
  | cons blank blanks =>
      simp only [closing, split, List.cons_append, List.head?_cons, Option.some.injEq] at first
      rcases layout.line_blank level blank (by simp [split]) with rfl | rfl <;>
        rw [← first] <;> decide

private theorem closing_ne_comma (level : Nat) {bracket : Char} (apart : bracket ≠ ',')
    (rest rights : List Char) : closing layout level bracket rest ≠ ',' :: rights := by
  intro equal
  cases split : layout.line level with
  | nil =>
      simp only [closing, split, List.nil_append, List.cons.injEq] at equal
      exact apart equal.1
  | cons blank blanks =>
      simp only [closing, split, List.cons_append, List.cons.injEq] at equal
      rcases layout.line_blank level blank (by simp [split]) with same | same <;>
        rw [same] at equal <;> exact absurd equal.1 (by decide)

private theorem renderItems_endsNumber (level : Nat) (items : List Json) {bracket : Char}
    (plain : isNumberChar bracket = false) (rest : List Char) :
    EndsNumber (renderItems layout level items ++ closing layout level bracket rest) := by
  cases items with
  | nil => simpa [renderItems] using closing_endsNumber layout level plain rest
  | cons item items =>
      intro character first
      simp only [renderItems, List.cons_append, List.head?_cons, Option.some.injEq] at first
      rw [← first]
      decide

private theorem renderMembers_endsNumber (level : Nat) (members : List Member) {bracket : Char}
    (plain : isNumberChar bracket = false) (rest : List Char) :
    EndsNumber (renderMembers layout level members ++ closing layout level bracket rest) := by
  cases members with
  | nil => simpa [renderMembers] using closing_endsNumber layout level plain rest
  | cons member members =>
      obtain ⟨key, value⟩ := member
      intro character first
      simp only [renderMembers, List.cons_append, List.head?_cons, Option.some.injEq] at first
      rw [← first]
      decide

/-- A blank prefix followed by a value never reads as a closing bracket. -/
private theorem bracket_ne_line_append (level : Nat) {bracket lead : Char}
    (apart : lead ≠ bracket) (visible : bracket ≠ ' ' ∧ bracket ≠ '\n')
    (tail rest : List Char) : layout.line level ++ lead :: tail ≠ bracket :: rest := by
  intro equal
  cases split : layout.line level with
  | nil =>
      rw [split, List.nil_append] at equal
      exact apart (List.cons.inj equal).1
  | cons blank blanks =>
      rw [split, List.cons_append] at equal
      rcases layout.line_blank level blank (by simp [split]) with same | same
      · exact visible.1 ((List.cons.inj equal).1.symm.trans same)
      · exact visible.2 ((List.cons.inj equal).1.symm.trans same)

private theorem empty_ne_items (level : Nat) (item : Json) (items : List Json)
    (lefts rights : List Char) :
    render layout level (.array []) ++ lefts ≠
      render layout level (.array (item :: items)) ++ rights := by
  intro equal
  simp only [render, List.cons_append, List.append_assoc, List.nil_append] at equal
  obtain ⟨lead, tail, split, _, notBracket⟩ := render_lead layout (level + 1) item
    (renderItems layout level items ++ (layout.line level ++ ']' :: rights))
  rw [split] at equal
  exact bracket_ne_line_append layout (level + 1) notBracket (by decide) tail lefts
    (List.cons.inj equal).2.symm

private theorem empty_ne_members (level : Nat) (member : Member) (members : List Member)
    (lefts rights : List Char) :
    render layout level (.object []) ++ lefts ≠
      render layout level (.object (member :: members)) ++ rights := by
  intro equal
  obtain ⟨key, value⟩ := member
  simp only [render, quoted, List.cons_append, List.append_assoc, List.nil_append] at equal
  have apart : '"' ≠ '}' := by decide
  exact bracket_ne_line_append layout (level + 1) apart (by decide) _ lefts
    (List.cons.inj equal).2.symm

mutual

/-- A printed tree followed by text that ends a number is read back in one
way only. -/
theorem render_append_injective :
    ∀ (left right : Json) (level : Nat) (lefts rights : List Char),
      EndsNumber lefts → EndsNumber rights →
      render layout level left ++ lefts = render layout level right ++ rights →
      left = right ∧ lefts = rights
  | .null, right, level, lefts, rights, _, _, equal => by
      cases right with
      | null => exact ⟨rfl, by simpa [render] using equal⟩
      | _ => exact absurd (kind_eq_of_render_append layout equal) (by simp [kind])
  | .bool value, right, level, lefts, rights, _, _, equal => by
      cases right with
      | bool other =>
          cases value <;> cases other <;> simp [render] at equal ⊢ <;> exact equal
      | _ => exact absurd (kind_eq_of_render_append layout equal) (by simp [kind])
  | .number value, right, level, lefts, rights, leftEnds, rightEnds, equal => by
      cases right with
      | number other =>
          simp only [render] at equal
          obtain ⟨same, rest⟩ := numberText_append_injective leftEnds rightEnds equal
          exact ⟨by rw [same], rest⟩
      | _ => exact absurd (kind_eq_of_render_append layout equal) (by simp [kind])
  | .string value, right, level, lefts, rights, _, _, equal => by
      cases right with
      | string other =>
          simp only [render] at equal
          obtain ⟨same, rest⟩ := quoted_append_injective equal
          exact ⟨by rw [same], rest⟩
      | _ => exact absurd (kind_eq_of_render_append layout equal) (by simp [kind])
  | .array [], right, level, lefts, rights, _, _, equal => by
      cases right with
      | array others =>
          cases others with
          | nil => exact ⟨rfl, by simpa [render] using equal⟩
          | cons other others => exact absurd equal (empty_ne_items layout _ _ _ _ _)
      | _ => exact absurd (kind_eq_of_render_append layout equal) (by simp [kind])
  | .array (item :: items), right, level, lefts, rights, _, _, equal => by
      cases right with
      | array others =>
          cases others with
          | nil => exact absurd equal.symm (empty_ne_items layout _ _ _ _ _)
          | cons other others =>
              simp only [render, List.cons_append, List.append_assoc, List.nil_append,
                List.cons.injEq, true_and, List.append_cancel_left_eq] at equal
              obtain ⟨sameItem, rest⟩ := render_append_injective item other (level + 1) _ _
                (renderItems_endsNumber layout level items (by decide) lefts)
                (renderItems_endsNumber layout level others (by decide) rights) equal
              obtain ⟨sameItems, sameRest⟩ :=
                renderItems_append_injective items others level lefts rights rest
              exact ⟨by rw [sameItem, sameItems], sameRest⟩
      | _ => exact absurd (kind_eq_of_render_append layout equal) (by simp [kind])
  | .object [], right, level, lefts, rights, _, _, equal => by
      cases right with
      | object others =>
          cases others with
          | nil => exact ⟨rfl, by simpa [render] using equal⟩
          | cons other others => exact absurd equal (empty_ne_members layout _ _ _ _ _)
      | _ => exact absurd (kind_eq_of_render_append layout equal) (by simp [kind])
  | .object ((key, value) :: members), right, level, lefts, rights, _, _, equal => by
      cases right with
      | object others =>
          cases others with
          | nil => exact absurd equal.symm (empty_ne_members layout _ _ _ _ _)
          | cons other others =>
              obtain ⟨otherKey, otherValue⟩ := other
              simp only [render, List.cons_append, List.append_assoc, List.nil_append,
                List.cons.injEq, true_and, List.append_cancel_left_eq] at equal
              obtain ⟨sameKey, afterKey⟩ := quoted_append_injective equal
              simp only [List.cons.injEq, true_and, List.append_cancel_left_eq] at afterKey
              obtain ⟨sameValue, rest⟩ := render_append_injective value otherValue (level + 1) _ _
                (renderMembers_endsNumber layout level members (by decide) lefts)
                (renderMembers_endsNumber layout level others (by decide) rights) afterKey
              obtain ⟨sameMembers, sameRest⟩ :=
                renderMembers_append_injective members others level lefts rights rest
              exact ⟨by rw [sameKey, sameValue, sameMembers], sameRest⟩
      | _ => exact absurd (kind_eq_of_render_append layout equal) (by simp [kind])

theorem renderItems_append_injective :
    ∀ (left right : List Json) (level : Nat) (lefts rights : List Char),
      renderItems layout level left ++ closing layout level ']' lefts =
        renderItems layout level right ++ closing layout level ']' rights →
      left = right ∧ lefts = rights
  | [], [], level, lefts, rights, equal => by
      simpa [renderItems, closing] using equal
  | [], other :: others, level, lefts, rights, equal => by
      simp only [renderItems, List.nil_append, List.cons_append] at equal
      exact absurd equal (closing_ne_comma layout level (by decide) _ _)
  | item :: items, [], level, lefts, rights, equal => by
      simp only [renderItems, List.nil_append, List.cons_append] at equal
      exact absurd equal.symm (closing_ne_comma layout level (by decide) _ _)
  | item :: items, other :: others, level, lefts, rights, equal => by
      simp only [renderItems, List.cons_append, List.append_assoc, List.cons.injEq, true_and,
        List.append_cancel_left_eq] at equal
      obtain ⟨sameItem, rest⟩ := render_append_injective item other (level + 1) _ _
        (renderItems_endsNumber layout level items (by decide) lefts)
        (renderItems_endsNumber layout level others (by decide) rights) equal
      obtain ⟨sameItems, sameRest⟩ :=
        renderItems_append_injective items others level lefts rights rest
      exact ⟨by rw [sameItem, sameItems], sameRest⟩

theorem renderMembers_append_injective :
    ∀ (left right : List Member) (level : Nat) (lefts rights : List Char),
      renderMembers layout level left ++ closing layout level '}' lefts =
        renderMembers layout level right ++ closing layout level '}' rights →
      left = right ∧ lefts = rights
  | [], [], level, lefts, rights, equal => by
      simpa [renderMembers, closing] using equal
  | [], (otherKey, other) :: others, level, lefts, rights, equal => by
      simp only [renderMembers, List.nil_append, List.cons_append] at equal
      exact absurd equal (closing_ne_comma layout level (by decide) _ _)
  | (key, value) :: members, [], level, lefts, rights, equal => by
      simp only [renderMembers, List.nil_append, List.cons_append] at equal
      exact absurd equal.symm (closing_ne_comma layout level (by decide) _ _)
  | (key, value) :: members, (otherKey, other) :: others, level, lefts, rights, equal => by
      simp only [renderMembers, List.cons_append, List.append_assoc, List.cons.injEq, true_and,
        List.append_cancel_left_eq] at equal
      obtain ⟨sameKey, afterKey⟩ := quoted_append_injective equal
      simp only [List.cons.injEq, true_and, List.append_cancel_left_eq] at afterKey
      obtain ⟨sameValue, rest⟩ := render_append_injective value other (level + 1) _ _
        (renderMembers_endsNumber layout level members (by decide) lefts)
        (renderMembers_endsNumber layout level others (by decide) rights) afterKey
      obtain ⟨sameMembers, sameRest⟩ :=
        renderMembers_append_injective members others level lefts rights rest
      exact ⟨by rw [sameKey, sameValue, sameMembers], sameRest⟩

end

theorem render_injective (level : Nat) {left right : Json}
    (equal : render layout level left = render layout level right) : left = right := by
  have ends : EndsNumber [] := by
    intro character first
    cases first
  refine (render_append_injective layout left right level [] [] ends ends ?_).1
  rw [equal]

end Json

/-- No whitespace at all. -/
def Layout.compact : Layout where
  line _ := []
  afterColon := []
  line_blank _ _ listed := by cases listed

/-- Every element on its own line, two blanks a level. -/
def Layout.pretty : Layout where
  line level := '\n' :: List.replicate (2 * level) ' '
  afterColon := [' ']
  line_blank _ _ listed := by
    rcases List.mem_cons.1 listed with newline | blank
    · exact .inr newline
    · exact .inl (List.eq_of_mem_replicate blank)

namespace Json

/-- The compact text of a tree. -/
def compact (tree : Json) : List Char := render Layout.compact 0 tree

/-- The indented text of a tree. -/
def pretty (tree : Json) : List Char := render Layout.pretty 0 tree

theorem compact_injective {left right : Json} (equal : left.compact = right.compact) :
    left = right :=
  render_injective Layout.compact 0 equal

theorem pretty_injective {left right : Json} (equal : left.pretty = right.pretty) :
    left = right :=
  render_injective Layout.pretty 0 equal

example : (Json.array [.null, .string "x\n", .number (.integer (-7))]).compact
    = "[null,\"x\\n\",-7]".toList := by decide

end Json

end SorobanUpgrades
