/-
Module: SorobanUpgrades.Library.ShellWords
Purpose: The words of a shell command: token recognition and quote removal, for
  text in which nothing but quoting is active.
Trusted boundary: human-reviewed spec
Main exports: Word, Scanner, splitWords, isAssignment, isReserved, Spells,
  spells_plain, splitWords_intercalate
-/
import Mathlib

namespace SorobanUpgrades

namespace Shell

/-! ### Token recognition -/

/-- A word as it is written and as it reads once its quotes are removed. -/
structure Word where
  written : List Char
  value : List Char
deriving DecidableEq, Repr

/-- What the next character is read under. -/
inductive Mode where
  | unquoted
  | escaped
  | single
  | double
  | doubleEscaped
deriving DecidableEq, Repr

/-- The words read so far and the word that is being read, if any. -/
structure Scanner where
  mode : Mode
  current : Option Word
  words : List Word
deriving DecidableEq, Repr

/-- A space or a tab. -/
def isBlank (character : Char) : Bool := character = ' ' || character = '\t'

/-- Unquoted, these end a command, redirect it or may start an expansion. -/
def activeCharacters : List Char := "\n|&;<>()$`*?[~".toList

/-- A character that an unquoted word cannot hold as it is. -/
def isActive (character : Char) : Bool := activeCharacters.contains character

namespace Scanner

/-- Between two words. -/
def initial : Scanner where
  mode := .unquoted
  current := none
  words := []

/-- Extend the current word, or begin one. -/
def push (scanner : Scanner) (written value : List Char) : Scanner :=
  let current := scanner.current.getD ⟨[], []⟩
  { scanner with current := some ⟨current.written ++ written, current.value ++ value⟩ }

/-- End the current word. -/
def delimit (scanner : Scanner) : Scanner :=
  { scanner with current := none, words := scanner.words ++ scanner.current.toList }

/-- Read one character. There is no result when the character is active. -/
def step (scanner : Scanner) (character : Char) : Option Scanner :=
  match scanner.mode with
  | .unquoted =>
      if character = '\'' then some { scanner.push ['\''] [] with mode := .single }
      else if character = '"' then some { scanner.push ['"'] [] with mode := .double }
      else if character = '\\' then some { scanner with mode := .escaped }
      else if isBlank character then some scanner.delimit
      -- A number sign starts a comment only where a word could start.
      else if isActive character || (character = '#' && scanner.current.isNone) then none
      else some (scanner.push [character] [character])
  | .escaped =>
      if character = '\n' then some { scanner with mode := .unquoted }
      else some { scanner.push ['\\', character] [character] with mode := .unquoted }
  | .single =>
      if character = '\'' then some { scanner.push ['\''] [] with mode := .unquoted }
      else some (scanner.push [character] [character])
  | .double =>
      if character = '"' then some { scanner.push ['"'] [] with mode := .unquoted }
      else if character = '\\' then some { scanner with mode := .doubleEscaped }
      else if "$`".toList.contains character then none
      else some (scanner.push [character] [character])
  | .doubleEscaped =>
      if character = '\n' then some { scanner with mode := .double }
      -- A backslash between double quotes only quotes what is special there.
      else if "$`\"\\".toList.contains character then
        some { scanner.push ['\\', character] [character] with mode := .double }
      else some { scanner.push ['\\', character] ['\\', character] with mode := .double }

end Scanner

/-- The words of a text. There is no result when a quotation is left open or an
active character stands unquoted. -/
def splitWords (text : List Char) : Option (List Word) := do
  let scanner ← text.foldlM Scanner.step .initial
  if scanner.mode = .unquoted then some scanner.delimit.words else none

/-! ### The first word -/

/-- A letter or underscore, then letters, digits and underscores. -/
def isName : List Char → Bool
  | [] => false
  | first :: rest =>
      (first.isAlpha || first = '_') && rest.all fun character =>
        character.isAlphanum || character = '_'

/-- A word that assigns a variable: a name, as written, in front of an equals sign. -/
def isAssignment (written : List Char) : Bool :=
  written.contains '=' && isName (written.takeWhile (· ≠ '='))

/-- The reserved words of the shell grammar. -/
def reservedWords : List String :=
  ["!", "\x7b", "\x7d", "case", "do", "done", "elif", "else", "esac", "fi", "for", "if", "in",
    "then", "until", "while"]

/-- A word that the grammar reserves where a command may start. -/
def isReserved (written : List Char) : Bool := reservedWords.contains (String.ofList written)

/-! ### Spelled words -/

/-- Where a word may start, the text is read as one word of this value. -/
def Spells (written value : List Char) : Prop :=
  ∀ words : List Word, written.foldlM Scanner.step ⟨.unquoted, none, words⟩ =
    some ⟨.unquoted, some ⟨written, value⟩, words⟩

/-- Quotation marks, the backslash and the sign of a comment. -/
def quoteCharacters : List Char := "'\"\\#".toList

/-- A character that stands for itself wherever it is unquoted. -/
def isPlain (character : Char) : Bool :=
  !(isBlank character || isActive character || quoteCharacters.contains character)

theorem step_plain {character : Char} (plain : isPlain character = true) (current : Option Word)
    (words : List Word) :
    Scanner.step ⟨.unquoted, current, words⟩ character =
      some (Scanner.push ⟨.unquoted, current, words⟩ [character] [character]) := by
  simp only [isPlain, Bool.not_eq_true', Bool.or_eq_false_iff] at plain
  obtain ⟨⟨notBlank, notActive⟩, notMark⟩ := plain
  have apart : character ≠ '\'' ∧ character ≠ '"' ∧ character ≠ '\\' ∧ character ≠ '#' := by
    simpa [quoteCharacters] using notMark
  simp [Scanner.step, apart, notBlank, notActive]

private theorem scan_plain {text : List Char} (plain : text.all isPlain = true) (word : Word)
    (words : List Word) :
    text.foldlM Scanner.step ⟨.unquoted, some word, words⟩ =
      some ⟨.unquoted, some ⟨word.written ++ text, word.value ++ text⟩, words⟩ := by
  induction text generalizing word with
  | nil => simp
  | cons character text inductionHypothesis =>
      rw [List.all_cons, Bool.and_eq_true] at plain
      rw [List.foldlM_cons, step_plain plain.1, Option.bind_eq_bind, Option.bind_some,
        Scanner.push, inductionHypothesis plain.2]
      simp

/-- Plain text spells itself. -/
theorem spells_plain {text : List Char} (nonempty : text ≠ []) (plain : text.all isPlain = true) :
    Spells text text := by
  intro words
  cases text with
  | nil => exact absurd rfl nonempty
  | cons character text =>
      rw [List.all_cons, Bool.and_eq_true] at plain
      rw [List.foldlM_cons, step_plain plain.1, Option.bind_eq_bind, Option.bind_some,
        Scanner.push, scan_plain plain.2]
      simp

/-- Spelled words with blanks between them are read back. -/
private theorem scan_spelled {words : List Word}
    (spelled : ∀ word ∈ words, Spells word.written word.value) (last : Word)
    (lastSpelled : Spells last.written last.value) (before : List Word) :
    ([' '].intercalate (words.map (·.written) ++ [last.written])).foldlM Scanner.step
        ⟨.unquoted, none, before⟩ =
      some ⟨.unquoted, some last, before ++ words⟩ := by
  induction words generalizing before with
  | nil => simpa [List.intercalate] using lastSpelled before
  | cons word words inductionHypothesis =>
      have rest := inductionHypothesis
        (fun other listed => spelled other (List.mem_cons_of_mem _ listed)) (before ++ [word])
      have blank : Scanner.step ⟨.unquoted, some word, before⟩ ' ' =
          some ⟨.unquoted, none, before ++ [word]⟩ := rfl
      rw [List.map_cons, List.cons_append, List.intercalate_cons_of_ne_nil (by simp),
        List.foldlM_append, List.foldlM_append, spelled word List.mem_cons_self]
      simp only [Option.bind_eq_bind, Option.bind_some, List.foldlM_cons, List.foldlM_nil, blank,
        Option.pure_def]
      rw [rest, List.append_assoc, List.singleton_append]

theorem splitWords_intercalate {words : List Word}
    (spelled : ∀ word ∈ words, Spells word.written word.value) :
    splitWords ([' '].intercalate (words.map (·.written))) = some words := by
  rcases List.eq_nil_or_concat words with rfl | ⟨front, last, rfl⟩
  · rfl
  · rw [List.concat_eq_append, List.map_append, List.map_singleton, splitWords, Scanner.initial,
      scan_spelled (fun word listed => spelled word (by simp [listed])) last
        (spelled last (by simp))]
    simp [Scanner.delimit]

end Shell

end SorobanUpgrades
