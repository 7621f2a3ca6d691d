/-
Module: SorobanUpgrades.Proofs.MigrationArguments
Purpose: The migration arguments that the command line can give, and the call that a
  plan records for them.
Trusted boundary: none
Main exports: ArgumentName, splitOnce_eq_some_iff, parseNamedArguments_exact
-/
import SorobanUpgrades.Proofs.Commands

namespace SorobanUpgrades

open Outcome (bind_eq_ok_iff seq_eq_ok_iff)

/-! ### One argument -/

/-- A name of letters, digits and underscores. -/
structure ArgumentName (name : String) : Prop where
  nonempty : name.isEmpty = false
  characters : name.toList.all (fun character => isAsciiAlphanumeric character || character == '_')
    = true

/-- The form of a migration argument on the command line. -/
def renderArgument (pair : String × String) : String := pair.1 ++ "=" ++ pair.2

theorem ArgumentName.plain {name : String} (valid : ArgumentName name) : '=' ∉ name.toList := by
  intro listed
  have allowed := List.all_eq_true.1 valid.characters '=' listed
  exact absurd allowed (by decide)

/-- A text is split at its first `=`. -/
theorem splitOnce_eq_some_iff {value : String} {pair : String × String} :
    splitOnce value = some pair ↔ '=' ∉ pair.1.toList ∧ renderArgument pair = value := by
  rw [splitOnce, List.span_eq_takeWhile_dropWhile]
  constructor
  · intro done
    split at done
    case h_1 before marker rest spans =>
      cases done
      obtain ⟨rfl, remaining⟩ := Prod.mk.inj spans
      have last := List.head?_dropWhile_not (fun character => decide (character ≠ '='))
        value.toList
      rw [remaining] at last
      obtain rfl : marker = '=' := by simpa using last
      constructor
      · rw [String.toList_ofList]
        intro listed
        simpa using List.mem_takeWhile_imp listed
      · rw [renderArgument, ← String.toList_inj]
        have joined := List.takeWhile_append_dropWhile
          (p := fun character => decide (character ≠ '=')) (l := value.toList)
        rw [remaining] at joined
        simpa using joined
    case h_2 => cases done
  · intro rendered
    obtain ⟨plain, rfl⟩ := rendered
    have before : ∀ character ∈ pair.1.toList, decide (character ≠ '=') = true := by
      intro character listed
      simpa using fun same : character = '=' => plain (same ▸ listed)
    have spelled : (renderArgument pair).toList = pair.1.toList ++ '=' :: pair.2.toList := by
      simp [renderArgument]
    rw [spelled, List.takeWhile_append_of_pos before, List.dropWhile_append_of_pos before]
    simp

/-- Read one argument, before its name is compared with the earlier ones. -/
def readArgument (value : String) : Except CliError (String × String) :=
  match splitOnce value with
  | none => bail s!"migration argument `{value}` must use NAME=VALUE form"
  | some pair => do
      bailWhen (pair.1.isEmpty = true ∨
          pair.1.toList.all (fun character => isAsciiAlphanumeric character || character == '_')
            = false)
        s!"migration argument name `{pair.1}` is invalid"
      .ok pair

theorem readArgument_eq_ok_iff {value : String} {pair : String × String} :
    readArgument value = .ok pair ↔ ArgumentName pair.1 ∧ renderArgument pair = value := by
  rw [readArgument]
  cases parts : splitOnce value with
  | none =>
      refine iff_of_false (by simp [bail]) ?_
      intro rendered
      obtain ⟨valid, rendered⟩ := rendered
      cases parts.symm.trans (splitOnce_eq_some_iff.2 ⟨valid.plain, rendered⟩)
  | some found =>
      simp only [seq_eq_ok_iff, bailWhen_eq_ok_iff, not_or, Bool.not_eq_true, Bool.not_eq_false,
        Except.ok.injEq]
      constructor
      · intro done
        obtain ⟨⟨nonempty, characters⟩, rfl⟩ := done
        exact ⟨⟨nonempty, characters⟩, (splitOnce_eq_some_iff.1 parts).2⟩
      · intro rendered
        obtain ⟨valid, rendered⟩ := rendered
        obtain rfl : found = pair := Option.some.inj
          (parts.symm.trans (splitOnce_eq_some_iff.2 ⟨valid.plain, rendered⟩))
        exact ⟨⟨valid.nonempty, valid.characters⟩, rfl⟩

/-! ### All arguments -/

/-- The readable texts are the renderings of pairs with valid names. -/
theorem mapM_readArgument_eq_ok_iff {values : List String} {pairs : List (String × String)} :
    values.mapM readArgument = .ok pairs ↔
      pairs.map renderArgument = values ∧ ∀ pair ∈ pairs, ArgumentName pair.1 := by
  rw [Outcome.mapM_eq_ok_iff]
  simp only [readArgument_eq_ok_iff]
  induction pairs generalizing values with
  | nil => simp [List.forall₂_nil_right_iff, eq_comm]
  | cons pair pairs inductionHypothesis =>
      rw [List.forall₂_cons_right_iff, List.map_cons, List.forall_mem_cons]
      constructor
      · intro read
        obtain ⟨value, rest, ⟨valid, rfl⟩, remaining, rfl⟩ := read
        obtain ⟨rfl, named⟩ := inductionHypothesis.1 remaining
        exact ⟨rfl, valid, named⟩
      · intro rendered
        obtain ⟨rfl, valid, named⟩ := rendered
        exact ⟨_, _, ⟨valid, rfl⟩, inductionHypothesis.2 ⟨rfl, named⟩, rfl⟩

/-- The loop reads each argument and inserts it under a new name. -/
theorem addNamedArgument_eq : addNamedArgument = fun arguments value =>
    readArgument value >>= OrderedMap.insertNew
      (fun name => CliError.message s!"migration argument `{name}` was supplied more than once")
      arguments := by
  funext arguments value
  rw [addNamedArgument, readArgument]
  cases splitOnce value with
  | none => rfl
  | some pair =>
      simp only [bind, Except.bind, bailWhen, OrderedMap.insertNew]
      by_cases invalid : pair.1.isEmpty = true ∨ pair.1.toList.all (fun character =>
          isAsciiAlphanumeric character || character == '_') = false
      · rw [if_pos invalid]
        rfl
      · rw [if_neg invalid]
        by_cases repeated : arguments.contains pair.1 = true
        · simp only [if_pos repeated]
          rfl
        · simp only [if_neg repeated]

theorem parseNamedArguments_eq_ok_iff {values : List String} {arguments : StringMap String} :
    parseNamedArguments values = .ok arguments ↔
      ∃ pairs : List (String × String), pairs.map renderArgument = values ∧
        (∀ pair ∈ pairs, ArgumentName pair.1) ∧ (keysOf pairs).Nodup ∧
        Std.ExtTreeMap.ofList pairs compare = arguments := by
  rw [parseNamedArguments, addNamedArgument_eq]
  simp only [Outcome.foldlM_visit_eq_ok_iff, mapM_readArgument_eq_ok_iff,
    OrderedMap.foldlM_insertNew_empty_eq_ok_iff, and_assoc]

/-- The accepted arguments are the renderings of pairs with valid and distinct names,
which are collected as they are. Every collection with valid names can be given. -/
theorem parseNamedArguments_exact :
    (∀ (values : List String) (arguments : StringMap String),
      parseNamedArguments values = .ok arguments ↔
        ∃ pairs : List (String × String), pairs.map renderArgument = values ∧
          (∀ pair ∈ pairs, ArgumentName pair.1) ∧ (keysOf pairs).Nodup ∧
          Std.ExtTreeMap.ofList pairs compare = arguments) ∧
    ∀ arguments : StringMap String, (∀ name ∈ arguments, ArgumentName name) →
      parseNamedArguments (arguments.toList.map renderArgument) = .ok arguments := by
  refine ⟨fun values arguments => parseNamedArguments_eq_ok_iff, ?_⟩
  intro arguments named
  refine parseNamedArguments_eq_ok_iff.2 ⟨arguments.toList, rfl, ?_,
    OrderedMap.nodup_keysOf_toList arguments, OrderedMap.ofList_toList arguments⟩
  intro pair listed
  have found : arguments[pair.1]? = some pair.2 := OrderedMap.mem_toList_iff.1 listed
  exact named pair.1 (Std.ExtTreeMap.mem_iff_isSome_getElem?.2 (by simp [found]))

end SorobanUpgrades
