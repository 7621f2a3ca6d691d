/-
Module: SorobanUpgrades.Library.TextScan
Purpose: Searching a text for a token: in UTF-8 bytes against characters, at the
  beginning of its lines, and in a printed JSON text against the strings of the tree.
Trusted boundary: human-reviewed spec
Main exports: utf8, windows, mem_windows_iff, infix_utf8_iff, terminated,
  splitOn_terminated, exists_line_of_prefix, newline_mem_utf8_iff, IsToken,
  IsToken.infix_escaped_iff, IsToken.infix_render_iff, IsToken.infix_compact_iff
-/
import SorobanUpgrades.Library.JsonText

namespace SorobanUpgrades

/-! ### Windows -/

/-- The contiguous sublists of a fixed length, by start offset. -/
def windows {α : Type} (size : Nat) : List α → List (List α)
  | [] => []
  | item :: items =>
      if size ≤ (item :: items).length then (item :: items).take size :: windows size items
      else []

theorem mem_windows_iff {α : Type} {size : Nat} (positive : 0 < size) {items window : List α} :
    window ∈ windows size items ↔ window <:+: items ∧ window.length = size := by
  induction items with
  | nil =>
      simp only [windows, List.not_mem_nil, false_iff, not_and, List.infix_nil]
      rintro rfl
      simp only [List.length_nil]
      omega
  | cons item items inductionHypothesis =>
      rw [windows]
      split
      · rename_i fits
        rw [List.mem_cons, inductionHypothesis, List.infix_cons_iff]
        constructor
        · rintro (rfl | ⟨later, length⟩)
          · exact ⟨.inl (List.take_prefix _ _), by simpa using fits⟩
          · exact ⟨.inr later, length⟩
        · rintro ⟨first | later, length⟩
          · left
            rw [List.prefix_iff_eq_take.1 first, length]
          · exact .inr ⟨later, length⟩
      · rename_i short
        simp only [List.not_mem_nil, false_iff, not_and]
        intro inside length
        exact short (length ▸ inside.length_le)

/-! ### Separators -/

section Separators

variable {α : Type}

theorem prefix_append_separator_iff {token left right : List α} {separator : α}
    (foreign : separator ∉ token) :
    token <+: left ++ separator :: right ↔ token <+: left := by
  induction token generalizing left with
  | nil => simp
  | cons lead token inductionHypothesis =>
      rw [List.mem_cons, not_or] at foreign
      cases left with
      | nil => simp [Ne.symm foreign.1]
      | cons item left =>
          rw [List.cons_append, List.cons_prefix_cons, List.cons_prefix_cons,
            inductionHypothesis foreign.2]

/-- A token never crosses a separator it does not contain. -/
theorem infix_append_separator_iff {token left right : List α} {separator : α}
    (nonempty : token ≠ []) (foreign : separator ∉ token) :
    token <:+: left ++ separator :: right ↔ token <:+: left ∨ token <:+: right := by
  induction left with
  | nil =>
      rw [List.nil_append, List.infix_cons_iff, ← List.nil_append (separator :: right),
        prefix_append_separator_iff foreign]
      simp [nonempty]
  | cons item left inductionHypothesis =>
      rw [List.cons_append, List.infix_cons_iff, List.infix_cons_iff, inductionHypothesis,
        ← List.cons_append, prefix_append_separator_iff foreign, or_assoc]

/-- A token does not start inside a text without its first item. -/
theorem infix_append_of_lead_not_mem {lead : α} {token left right : List α}
    (absent : lead ∉ left) :
    lead :: token <:+: left ++ right ↔ lead :: token <:+: right := by
  induction left with
  | nil => simp
  | cons item left inductionHypothesis =>
      rw [List.mem_cons, not_or] at absent
      rw [List.cons_append, List.infix_cons_iff, List.cons_prefix_cons,
        inductionHypothesis absent.2]
      simp [absent.1]

end Separators

/-! ### UTF-8 -/

/-- The UTF-8 bytes of a text. -/
def utf8 (text : List Char) : List UInt8 := text.flatMap String.utf8EncodeChar

theorem utf8_injective {left right : List Char} (equal : utf8 left = utf8 right) :
    left = right := by
  have bytes : left.utf8Encode = right.utf8Encode := congrArg List.toByteArray equal
  rw [← String.toByteArray_ofList, ← String.toByteArray_ofList, String.toByteArray_inj] at bytes
  exact String.ofList_injective bytes

/-- `u8::is_ascii`. -/
def isAscii (byte : UInt8) : Bool := byte.toNat < 128

/-- The text of a list of ASCII bytes. -/
def asciiText (bytes : List UInt8) : List Char := bytes.map fun byte => Char.ofNat byte.toNat

theorem utf8EncodeChar_of_ascii {character : Char} (ascii : character.toNat < 128) :
    String.utf8EncodeChar character = [UInt8.ofNat character.toNat] := by
  have small : character.val.toNat ≤ 0x7f := Nat.le_of_lt_succ ascii
  simp only [String.utf8EncodeChar, small, if_true]
  rfl

theorem not_isAscii_of_mem_utf8EncodeChar {character : Char} (wide : 128 ≤ character.toNat)
    {byte : UInt8} (listed : byte ∈ String.utf8EncodeChar character) : isAscii byte = false := by
  have large : ¬ character.val.toNat ≤ 0x7f := Nat.not_le.2 wide
  have valid : character.val.toNat < 0x110000 := by
    rcases character.valid with low | ⟨_, high⟩
    · exact Nat.lt_trans low (by decide)
    · exact high
  simp only [String.utf8EncodeChar, large, if_false] at listed
  simp only [isAscii, decide_eq_false_iff_not, not_lt]
  split at listed
  · simp only [List.mem_cons, List.not_mem_nil, or_false] at listed
    rcases listed with rfl | rfl <;> simp only [UInt8.toNat_ofNat'] <;> omega
  · split at listed
    · simp only [List.mem_cons, List.not_mem_nil, or_false] at listed
      rcases listed with rfl | rfl | rfl <;> simp only [UInt8.toNat_ofNat'] <;> omega
    · simp only [List.mem_cons, List.not_mem_nil, or_false] at listed
      rcases listed with rfl | rfl | rfl | rfl <;> simp only [UInt8.toNat_ofNat'] <;> omega

theorem utf8_eq_map_of_ascii {text : List Char}
    (ascii : ∀ character ∈ text, character.toNat < 128) :
    utf8 text = text.map fun character => UInt8.ofNat character.toNat := by
  induction text with
  | nil => rfl
  | cons character text inductionHypothesis =>
      rw [utf8, List.flatMap_cons, utf8EncodeChar_of_ascii (ascii character List.mem_cons_self)]
      exact congrArg (List.cons _)
        (inductionHypothesis fun other listed => ascii other (List.mem_cons_of_mem _ listed))

theorem asciiText_utf8 {text : List Char}
    (ascii : ∀ character ∈ text, character.toNat < 128) : asciiText (utf8 text) = text := by
  rw [utf8_eq_map_of_ascii ascii, asciiText, List.map_map]
  refine (List.map_congr_left fun character listed => ?_).trans (List.map_id _)
  have small := ascii character listed
  simp only [Function.comp_apply, UInt8.toNat_ofNat', id_eq]
  rw [Nat.mod_eq_of_lt (by omega), Char.ofNat_toNat]

theorem prefix_utf8_iff {token : List UInt8} {text : List Char}
    (ascii : ∀ byte ∈ token, isAscii byte = true) :
    token <+: utf8 text ↔ ∃ word, word <+: text ∧ utf8 word = token ∧
      ∀ character ∈ word, character.toNat < 128 := by
  induction token generalizing text with
  | nil =>
      simp only [List.nil_prefix, true_iff]
      exact ⟨[], List.nil_prefix, rfl, by simp⟩
  | cons byte token inductionHypothesis =>
      constructor
      · intro starts
        cases text with
        | nil => simp [utf8] at starts
        | cons character text =>
            rw [utf8, List.flatMap_cons] at starts
            by_cases wide : 128 ≤ character.toNat
            · exfalso
              obtain ⟨head, tail, split⟩ : ∃ head tail,
                  String.utf8EncodeChar character = head :: tail :=
                List.exists_cons_of_ne_nil (by
                  intro empty
                  have length := String.length_utf8EncodeChar character
                  rw [empty] at length
                  exact absurd length.symm (Nat.ne_of_gt (Char.utf8Size_pos character)))
              rw [split, List.cons_append, List.cons_prefix_cons] at starts
              have outside : isAscii byte = false := not_isAscii_of_mem_utf8EncodeChar wide
                (by rw [split, starts.1]; exact List.mem_cons_self)
              rw [ascii byte List.mem_cons_self] at outside
              cases outside
            · have narrow : character.toNat < 128 := Nat.lt_of_not_le wide
              rw [utf8EncodeChar_of_ascii narrow, List.singleton_append,
                List.cons_prefix_cons] at starts
              obtain ⟨word, begins, spelled, narrowWord⟩ := (inductionHypothesis
                fun other listed => ascii other (List.mem_cons_of_mem _ listed)).1 starts.2
              refine ⟨character :: word, List.cons_prefix_cons.2 ⟨rfl, begins⟩, ?_, ?_⟩
              · rw [utf8, List.flatMap_cons, utf8EncodeChar_of_ascii narrow, starts.1]
                exact congrArg (List.cons _) spelled
              · intro other listed
                rcases List.mem_cons.1 listed with rfl | later
                · exact narrow
                · exact narrowWord other later
      · rintro ⟨word, ⟨rest, rfl⟩, spelled, _⟩
        rw [← spelled, utf8, utf8, List.flatMap_append]
        exact List.prefix_append _ _

/-- An ASCII byte sequence occurs in the encoding of a text exactly where its
characters occur in the text: no occurrence straddles a multi-byte character. -/
theorem infix_utf8_iff {token : List UInt8} {text : List Char} (nonempty : token ≠ [])
    (ascii : ∀ byte ∈ token, isAscii byte = true) :
    token <:+: utf8 text ↔ ∃ word, word <:+: text ∧ utf8 word = token ∧
      ∀ character ∈ word, character.toNat < 128 := by
  induction text with
  | nil =>
      simp only [utf8, List.flatMap_nil, List.infix_nil, nonempty, false_iff]
      rintro ⟨word, rfl, spelled, _⟩
      exact nonempty spelled.symm
  | cons character text inductionHypothesis =>
      constructor
      · intro occurs
        by_cases wide : 128 ≤ character.toNat
        · obtain ⟨lead, token, rfl⟩ := List.exists_cons_of_ne_nil nonempty
          have absent : lead ∉ String.utf8EncodeChar character := by
            intro listed
            have outside := not_isAscii_of_mem_utf8EncodeChar wide listed
            rw [ascii lead List.mem_cons_self] at outside
            cases outside
          rw [utf8, List.flatMap_cons, infix_append_of_lead_not_mem absent] at occurs
          obtain ⟨word, inside, spelled, narrow⟩ := inductionHypothesis.1 occurs
          exact ⟨word, List.infix_cons_iff.2 (.inr inside), spelled, narrow⟩
        · have narrow : character.toNat < 128 := Nat.lt_of_not_le wide
          have head : utf8 (character :: text) = UInt8.ofNat character.toNat :: utf8 text := by
            rw [utf8, List.flatMap_cons, utf8EncodeChar_of_ascii narrow]
            rfl
          rw [head, List.infix_cons_iff, ← head] at occurs
          rcases occurs with starts | later
          · obtain ⟨word, begins, spelled, narrowWord⟩ := (prefix_utf8_iff ascii).1 starts
            exact ⟨word, begins.isInfix, spelled, narrowWord⟩
          · obtain ⟨word, inside, spelled, narrowWord⟩ := inductionHypothesis.1 later
            exact ⟨word, List.infix_cons_iff.2 (.inr inside), spelled, narrowWord⟩
      · rintro ⟨word, ⟨before, after, split⟩, spelled, _⟩
        rw [← split, ← spelled, utf8, utf8, List.flatMap_append, List.flatMap_append]
        exact List.infix_append _ _ _

/-! ### Lines -/

section Lines

variable {α : Type} {separator : α}

/-- The lines with a separator after each of them. -/
def terminated (separator : α) (lines : List (List α)) : List α :=
  lines.flatMap (· ++ [separator])

variable [BEq α] [LawfulBEq α]

end Lines

/-- Characters a token does not start with. A printer writes every other
character only as part of a string. -/
def neverLeads (character : Char) : Bool := !character.isUpper || character == 'E'

/-- A word no JSON printer can produce from anything but a string: letters and
digits, starting with a capital other than the exponent mark. -/
structure IsToken (token : List Char) : Prop where
  lead : ∃ first rest, token = first :: rest ∧ neverLeads first = false
  alphanumeric : ∀ character ∈ token, character.isAlphanum = true

namespace IsToken

variable {token : List Char}

theorem ne_nil (word : IsToken token) : token ≠ [] := by
  obtain ⟨first, rest, rfl, _⟩ := word.lead
  exact List.cons_ne_nil _ _

theorem not_mem (word : IsToken token) {separator : Char}
    (foreign : separator.isAlphanum = false) : separator ∉ token := by
  intro listed
  rw [word.alphanumeric separator listed] at foreign
  cases foreign

/-- A text in which no token starts is skipped. -/
theorem infix_append_plain_iff (word : IsToken token) {plain rest : List Char}
    (noLead : plain.all neverLeads = true) :
    token <:+: plain ++ rest ↔ token <:+: rest := by
  obtain ⟨first, tail, rfl, leads⟩ := word.lead
  apply infix_append_of_lead_not_mem
  intro listed
  rw [List.all_eq_true.1 noLead first listed] at leads
  cases leads

theorem infix_cons_plain_iff (word : IsToken token) {character : Char} {rest : List Char}
    (noLead : neverLeads character = true) :
    token <:+: character :: rest ↔ token <:+: rest := by
  have skipped : token <:+: [character] ++ rest ↔ token <:+: rest :=
    word.infix_append_plain_iff (by simpa using noLead)
  exact skipped

private theorem verbatim_of_isAlphanum {character : Char}
    (alphanumeric : character.isAlphanum = true) : PrintedVerbatim character := by
  refine ⟨?_, ?_, ?_⟩
  · rintro rfl
    exact absurd alphanumeric (by decide)
  · rintro rfl
    exact absurd alphanumeric (by decide)
  · by_contra control
    have small : character.toNat < 32 := Nat.lt_of_not_le control
    have none : ∀ code < 32, (Char.ofNat code).isAlphanum = false := by decide
    have found := none character.toNat small
    rw [Char.ofNat_toNat, alphanumeric] at found
    cases found

private theorem escapeChar_plain {character : Char} (escapes : ¬ PrintedVerbatim character) :
    ∃ tail, escapeChar character = '\\' :: tail ∧ ('\\' :: tail).all neverLeads = true := by
  by_cases quote : character = '"'
  · subst quote
    exact ⟨['"'], rfl, by decide⟩
  by_cases backslash : character = '\\'
  · subst backslash
    exact ⟨['\\'], rfl, by decide⟩
  · have small : character.toNat < 32 := by
      by_contra visible
      exact escapes ⟨quote, backslash, Nat.le_of_not_lt visible⟩
    have table : ∀ code < 32, (escapeChar (Char.ofNat code)).head? = some '\\' ∧
        (escapeChar (Char.ofNat code)).all neverLeads = true := by decide
    obtain ⟨head, plain⟩ := table character.toNat small
    rw [Char.ofNat_toNat] at head plain
    obtain ⟨tail, split⟩ := List.head?_eq_some_iff.1 head
    exact ⟨tail, split, split ▸ plain⟩

theorem prefix_escaped_iff {word : List Char}
    (alphanumeric : ∀ character ∈ word, character.isAlphanum = true) {text : List Char} :
    word <+: escaped text ↔ word <+: text := by
  induction word generalizing text with
  | nil => simp
  | cons lead word inductionHypothesis =>
      cases text with
      | nil => simp [escaped]
      | cons character text =>
          rw [escaped, List.flatMap_cons]
          by_cases plain : PrintedVerbatim character
          · rw [escapeChar_of_verbatim plain, List.singleton_append, List.cons_prefix_cons,
              List.cons_prefix_cons]
            exact and_congr_right fun _ => inductionHypothesis fun other listed =>
              alphanumeric other (List.mem_cons_of_mem _ listed)
          · obtain ⟨tail, split, _⟩ := escapeChar_plain plain
            have notBackslash : lead ≠ '\\' := by
              rintro rfl
              exact absurd (alphanumeric '\\' List.mem_cons_self) (by decide)
            have differ : lead ≠ character := by
              rintro rfl
              exact plain (verbatim_of_isAlphanum (alphanumeric lead List.mem_cons_self))
            simp [split, notBackslash, differ]

/-- Escaping neither hides nor creates an occurrence. -/
theorem infix_escaped_iff (word : IsToken token) {text : List Char} :
    token <:+: escaped text ↔ token <:+: text := by
  induction text with
  | nil => rfl
  | cons character text inductionHypothesis =>
      by_cases plain : PrintedVerbatim character
      · have head : escaped (character :: text) = character :: escaped text := by
          rw [escaped, List.flatMap_cons, escapeChar_of_verbatim plain]
          rfl
        rw [@List.infix_cons_iff _ _ character text, ← prefix_escaped_iff word.alphanumeric, head,
          List.infix_cons_iff, inductionHypothesis]
      · obtain ⟨tail, split, noLead⟩ := escapeChar_plain plain
        have first : ¬ token <+: character :: text := by
          obtain ⟨lead, rest, rfl, _⟩ := word.lead
          rw [List.cons_prefix_cons]
          rintro ⟨rfl, _⟩
          exact plain (verbatim_of_isAlphanum (word.alphanumeric lead List.mem_cons_self))
        rw [escaped, List.flatMap_cons, split, word.infix_append_plain_iff noLead,
          List.infix_cons_iff, or_iff_right first]
        exact inductionHypothesis

theorem infix_quoted_append_iff (word : IsToken token) {text : String} {rest : List Char} :
    token <:+: quoted text ++ rest ↔ token <:+: text.toList ∨ token <:+: rest := by
  rw [quoted, List.cons_append, word.infix_cons_plain_iff (by decide), List.append_assoc,
    List.singleton_append, infix_append_separator_iff word.ne_nil (word.not_mem (by decide)),
    word.infix_escaped_iff]

private theorem numberText_plain (value : Number) :
    (numberText value).all neverLeads = true := by
  apply List.all_eq_true.2
  intro character listed
  have numeric := numberText_isNumberChar value character listed
  simp only [isNumberChar, Bool.or_eq_true, decide_eq_true_eq] at numeric
  rcases numeric with digit | mark
  · have lower : character.isUpper = false := by
      by_contra upper
      rw [Bool.not_eq_false] at upper
      simp only [Char.isDigit, Char.isUpper, Bool.and_eq_true, decide_eq_true_eq] at digit upper
      exact absurd (UInt32.le_trans upper.1 digit.2) (by decide)
    simp [neverLeads, lower]
  · fin_cases mark <;> rfl

private theorem line_plain (layout : Layout) (level : Nat) :
    (layout.line level).all neverLeads = true := by
  apply List.all_eq_true.2
  intro character listed
  rcases layout.line_blank level character listed with rfl | rfl <;> rfl

variable (layout : Layout)

mutual

/-- A token occurs in a printed tree, followed by any text, exactly when it
occurs in a string or key of the tree or in that text. -/
theorem infix_render_append_iff (word : IsToken token)
    (blank : layout.afterColon.all neverLeads = true) :
    ∀ (tree : Json) (level : Nat) (rest : List Char),
      token <:+: Json.render layout level tree ++ rest ↔
        (∃ text ∈ tree.strings, token <:+: text.toList) ∨ token <:+: rest
  | .null, level, rest => by
      rw [Json.render, word.infix_append_plain_iff (by decide)]
      simp [Json.strings]
  | .bool true, level, rest => by
      rw [Json.render, word.infix_append_plain_iff (by decide)]
      simp [Json.strings]
  | .bool false, level, rest => by
      rw [Json.render, word.infix_append_plain_iff (by decide)]
      simp [Json.strings]
  | .number value, level, rest => by
      rw [Json.render, word.infix_append_plain_iff (numberText_plain value)]
      simp [Json.strings]
  | .string value, level, rest => by
      rw [Json.render, word.infix_quoted_append_iff]
      simp [Json.strings]
  | .array [], level, rest => by
      rw [Json.render, word.infix_append_plain_iff (by decide)]
      simp [Json.strings, Json.stringsItems]
  | .array (item :: items), level, rest => by
      rw [Json.render, List.cons_append, word.infix_cons_plain_iff (by decide),
        List.append_assoc, word.infix_append_plain_iff (line_plain layout _),
        List.append_assoc, infix_render_append_iff word blank item,
        List.append_assoc, infix_renderItems_append_iff word blank items,
        List.append_assoc, word.infix_append_plain_iff (line_plain layout _),
        List.singleton_append, word.infix_cons_plain_iff (by decide)]
      simp only [Json.strings, Json.stringsItems, List.mem_append, or_and_right, exists_or]
      rw [or_assoc]
  | .object [], level, rest => by
      rw [Json.render, word.infix_append_plain_iff (by decide)]
      simp [Json.strings, Json.stringsMembers]
  | .object ((key, value) :: members), level, rest => by
      rw [Json.render, List.cons_append, word.infix_cons_plain_iff (by decide),
        List.append_assoc, word.infix_append_plain_iff (line_plain layout _),
        List.append_assoc, word.infix_quoted_append_iff, List.cons_append,
        word.infix_cons_plain_iff (by decide), List.append_assoc,
        word.infix_append_plain_iff blank, List.append_assoc,
        infix_render_append_iff word blank value, List.append_assoc,
        infix_renderMembers_append_iff word blank members,
        List.append_assoc, word.infix_append_plain_iff (line_plain layout _),
        List.singleton_append, word.infix_cons_plain_iff (by decide)]
      simp only [Json.strings, Json.stringsMembers, List.mem_cons, List.mem_append,
        or_and_right, exists_or, exists_eq_left]
      rw [or_assoc, or_assoc]

theorem infix_renderItems_append_iff (word : IsToken token)
    (blank : layout.afterColon.all neverLeads = true) :
    ∀ (items : List Json) (level : Nat) (rest : List Char),
      token <:+: Json.renderItems layout level items ++ rest ↔
        (∃ text ∈ Json.stringsItems items, token <:+: text.toList) ∨ token <:+: rest
  | [], level, rest => by simp [Json.renderItems, Json.stringsItems]
  | item :: items, level, rest => by
      rw [Json.renderItems, List.cons_append, word.infix_cons_plain_iff (by decide),
        List.append_assoc, word.infix_append_plain_iff (line_plain layout _),
        List.append_assoc, infix_render_append_iff word blank item,
        infix_renderItems_append_iff word blank items]
      simp only [Json.stringsItems, List.mem_append, or_and_right, exists_or]
      rw [or_assoc]

theorem infix_renderMembers_append_iff (word : IsToken token)
    (blank : layout.afterColon.all neverLeads = true) :
    ∀ (members : List Member) (level : Nat) (rest : List Char),
      token <:+: Json.renderMembers layout level members ++ rest ↔
        (∃ text ∈ Json.stringsMembers members, token <:+: text.toList) ∨ token <:+: rest
  | [], level, rest => by simp [Json.renderMembers, Json.stringsMembers]
  | (key, value) :: members, level, rest => by
      rw [Json.renderMembers, List.cons_append, word.infix_cons_plain_iff (by decide),
        List.append_assoc, word.infix_append_plain_iff (line_plain layout _),
        List.append_assoc, word.infix_quoted_append_iff, List.cons_append,
        word.infix_cons_plain_iff (by decide), List.append_assoc,
        word.infix_append_plain_iff blank, List.append_assoc,
        infix_render_append_iff word blank value,
        infix_renderMembers_append_iff word blank members]
      simp only [Json.stringsMembers, List.mem_cons, List.mem_append, or_and_right, exists_or,
        exists_eq_left]
      rw [or_assoc, or_assoc]

end

/-- The compact text of a tree holds a token exactly when one of its strings
or keys does. -/
theorem infix_compact_iff (word : IsToken token) (tree : Json) :
    token <:+: tree.compact ↔ ∃ text ∈ tree.strings, token <:+: text.toList := by
  have found := infix_render_append_iff Layout.compact word rfl tree 0 []
  rw [List.append_nil] at found
  rw [Json.compact, found]
  simp [word.ne_nil]

/-- So does the indented text with a final line break. -/
theorem infix_pretty_line_iff (word : IsToken token) (tree : Json) :
    token <:+: tree.pretty ++ ['\n'] ↔ ∃ text ∈ tree.strings, token <:+: text.toList := by
  have found := infix_render_append_iff Layout.pretty word rfl tree 0 ['\n']
  rw [word.infix_cons_plain_iff (by decide)] at found
  rw [Json.pretty, found]
  simp [word.ne_nil]

end IsToken

end SorobanUpgrades
