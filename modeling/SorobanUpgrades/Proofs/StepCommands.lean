/-
Module: SorobanUpgrades.Proofs.StepCommands
Purpose: What a shell makes of the commands of a plan: the words it reads, the
  program it runs and the characters an operator sees.
Trusted boundary: none
Main exports: spells_shellQuote, renderCommand_round_trips, RunsProgram,
  commands_run_program_iff
-/
import SorobanUpgrades.Library.ShellWords
import SorobanUpgrades.Proofs.PlanVerification

namespace SorobanUpgrades

open Outcome (bind_eq_ok_iff seq_eq_ok_iff forM_eq_ok_iff)
open Shell (Word Scanner Spells splitWords spells_plain splitWords_intercalate)

/-! ### Quoting -/

/-- No character with a meaning to the shell is left bare. -/
private theorem isShellPlain_active :
    ∀ special ∈ Shell.activeCharacters, isShellPlain special = false := by
  unfold Shell.activeCharacters
  simp [isShellPlain, isAsciiAlphanumeric]

private theorem isShellPlain_quote :
    ∀ special ∈ Shell.quoteCharacters, isShellPlain special = false := by
  unfold Shell.quoteCharacters
  simp [isShellPlain, isAsciiAlphanumeric]

theorem isPlain_of_isShellPlain {character : Char} (bare : isShellPlain character = true) :
    Shell.isPlain character = true := by
  have apart : ∀ special, isShellPlain special = false → character ≠ special := by
    intro special quoted same
    rw [same, quoted] at bare
    cases bare
  have notBlank : Shell.isBlank character = false := by
    simp [Shell.isBlank, apart ' ' (by decide), apart '\t' (by decide)]
  have notActive : character ∉ Shell.activeCharacters :=
    fun listed => apart character (isShellPlain_active character listed) rfl
  have notMark : character ∉ Shell.quoteCharacters :=
    fun listed => apart character (isShellPlain_quote character listed) rfl
  simp [Shell.isPlain, Shell.isActive, notBlank, notActive, notMark]

/-- Between single quotes an escaped text stands for itself. -/
private theorem scan_quoteEscape (text : List Char) (word : Word) (words : List Word) :
    (text.flatMap quoteEscape).foldlM Scanner.step ⟨.single, some word, words⟩ =
      some ⟨.single, some ⟨word.written ++ text.flatMap quoteEscape, word.value ++ text⟩,
        words⟩ := by
  induction text generalizing word with
  | nil => simp
  | cons character text inductionHypothesis =>
      -- A quotation mark closes the quotes, stands in double quotes and opens them again.
      have one : (quoteEscape character).foldlM Scanner.step ⟨.single, some word, words⟩ =
          some ⟨.single, some ⟨word.written ++ quoteEscape character, word.value ++ [character]⟩,
            words⟩ := by
        by_cases mark : character = '\''
        · simp [mark, quoteEscape, Scanner.step, Scanner.push]
        · simp [mark, quoteEscape, Scanner.step, Scanner.push]
      rw [List.flatMap_cons, List.foldlM_append, one, Option.bind_eq_bind, Option.bind_some,
        inductionHypothesis]
      simp

/-- A quoted value is one word with that value. -/
theorem spells_shellQuote (value : String) : Spells (shellQuote value).toList value.toList := by
  unfold shellQuote
  split
  · rename_i bare
    rw [Bool.and_eq_true, Bool.not_eq_true'] at bare
    apply spells_plain
    · intro empty
      rw [String.toList_eq_nil_iff] at empty
      simp [empty] at bare
    · rw [List.all_eq_true] at bare ⊢
      intro character listed
      exact isPlain_of_isShellPlain (bare.2 character listed)
  · intro words
    have opened : Scanner.step ⟨.unquoted, none, words⟩ '\'' =
        some ⟨.single, some ⟨['\''], []⟩, words⟩ := rfl
    rw [String.toList_ofList, List.foldlM_cons, opened, Option.bind_eq_bind, Option.bind_some,
      List.foldlM_append, scan_quoteEscape]
    simp [Scanner.step, Scanner.push]

/-- The words of a rendered command. -/
theorem splitWords_renderCommand (program : String) (arguments : List String) :
    splitWords (renderCommand program arguments).toList =
      some ((program :: arguments).map fun value => ⟨(shellQuote value).toList, value.toList⟩) := by
  have spelled : ∀ word ∈ (program :: arguments).map fun value =>
      (⟨(shellQuote value).toList, value.toList⟩ : Word), Spells word.written word.value := by
    intro word listed
    obtain ⟨value, _, rfl⟩ := List.mem_map.1 listed
    exact spells_shellQuote value
  have read := splitWords_intercalate spelled
  rw [List.map_map] at read
  rw [renderCommand, String.toList_intercalate, List.map_map]
  exact read

/-- A shell reads a rendered command back as the program and its arguments, so
the text of a command determines both. -/
theorem renderCommand_round_trips (program : String) (arguments : List String) :
    (splitWords (renderCommand program arguments).toList).map
        (·.map fun word => String.ofList word.value) = some (program :: arguments) ∧
      ∀ (otherProgram : String) (otherArguments : List String),
        renderCommand program arguments = renderCommand otherProgram otherArguments →
        program = otherProgram ∧ arguments = otherArguments := by
  have read : ∀ (program : String) (arguments : List String),
      (splitWords (renderCommand program arguments).toList).map
        (·.map fun word => String.ofList word.value) = some (program :: arguments) := by
    intro program arguments
    rw [splitWords_renderCommand, Option.map_some, List.map_map, Option.some.injEq]
    simp [Function.comp_def]
  refine ⟨read program arguments, fun otherProgram otherArguments same => ?_⟩
  have both := read program arguments
  rw [same, read otherProgram otherArguments, Option.some.injEq] at both
  obtain ⟨sameProgram, sameArguments⟩ := List.cons.inj both
  exact ⟨sameProgram.symm, sameArguments.symm⟩

/-! ### The steps of a plan -/

section Steps

variable {primitives : Primitives} {report : ValidationReport}
  {network contractId sourceIdentity : String} {inputs : PlanInputPaths}
  {operations : PlanOperations} {plan : UpgradePlan} {step : PlanStep}

theorem steps_of_created
    (created : createPlanWithPaths primitives report network contractId sourceIdentity inputs
      operations = .ok plan) :
    plan.steps = planSteps report network contractId sourceIdentity inputs operations := by
  obtain ⟨_, _, _, _, rfl⟩ := createPlanWithPaths_eq_ok_iff.1 created
  rfl

/-- A step shows the command that its program and arguments render to. -/
theorem command_of_mem_planSteps :
    ∀ step ∈ planSteps report network contractId sourceIdentity inputs operations,
      step.command = renderCommand step.program step.arguments := by
  unfold planSteps migrationSteps
  simp only [List.forall_mem_append, List.forall_mem_cons, List.forall_mem_map, PlanStep.new,
    implies_true, List.not_mem_nil, false_implies, and_true]

/-- What holds of the command of every step. -/
theorem forall_planSteps_iff {property : String → List String → Prop} :
    (∀ step ∈ planSteps report network contractId sourceIdentity inputs operations,
      property step.program step.arguments) ↔
    property "stellar" (fetchArguments contractId network "current.wasm") ∧
      property "stellar" (uploadArguments inputs.targetWasm sourceIdentity network) ∧
      property "stellar" (simulateArguments contractId sourceIdentity network
        report.target.sha256) ∧
      property "stellar" (executeArguments contractId sourceIdentity network
        report.target.sha256) ∧
      (∀ migration, operations.migration = some migration →
        property "stellar" (migrationArguments contractId sourceIdentity network migration)) ∧
      property "stellar" (fetchArguments contractId network "deployed.wasm") ∧
      property operations.invariantCheck.program operations.invariantCheck.arguments := by
  have none : ∀ step ∈ ([] : List PlanStep), property step.program step.arguments := nofun
  unfold planSteps migrationSteps
  simp only [List.forall_mem_append, List.forall_mem_cons, List.forall_mem_map,
    Option.mem_toList, PlanStep.new, and_assoc, iff_true_intro none, and_true]

/-! ### The program a command runs -/

/-- A shell takes the first word of the command for the name of the step's program. -/
def PlanStep.RunsProgram (step : PlanStep) : Prop :=
  ∃ word rest, splitWords step.command.toList = some (word :: rest) ∧
    String.ofList word.value = step.program ∧
    Shell.isAssignment word.written = false ∧ Shell.isReserved word.written = false

/-- A program name that is quoted, or that bare neither assigns a variable nor is
a reserved word. -/
def NamesCommand (program : String) : Prop :=
  program.toList.all isShellPlain = true →
    Shell.isAssignment program.toList = false ∧ Shell.isReserved program.toList = false

instance (program : String) : Decidable (NamesCommand program) :=
  inferInstanceAs (Decidable (_ → _))

/-- A word that starts with a quotation mark has no meaning to the grammar. -/
private theorem quoted_not_grammar (text : List Char) :
    Shell.isAssignment ('\'' :: text) = false ∧ Shell.isReserved ('\'' :: text) = false := by
  have unquoted : ∀ word ∈ Shell.reservedWords, word.toList.head? ≠ some '\'' := by decide
  constructor
  · simp [Shell.isAssignment, Shell.isName, Char.isAlpha, Char.isUpper, Char.isLower]
  · rw [Shell.isReserved, List.contains_eq_mem, decide_eq_false_iff_not]
    intro listed
    exact unquoted _ listed (by simp)

theorem namesCommand_iff (program : String) :
    Shell.isAssignment (shellQuote program).toList = false ∧
      Shell.isReserved (shellQuote program).toList = false ↔ NamesCommand program := by
  unfold shellQuote NamesCommand
  split
  · rename_i bare
    rw [Bool.and_eq_true] at bare
    simp [bare.2]
  · rename_i quoted
    have grammar := quoted_not_grammar (program.toList.flatMap quoteEscape ++ ['\''])
    rw [String.toList_ofList, iff_true_left grammar]
    intro plain
    have empty : program = "" := by simpa [plain] using quoted
    subst empty
    decide

theorem runsProgram_iff (rendered : step.command = renderCommand step.program step.arguments) :
    step.RunsProgram ↔ NamesCommand step.program := by
  rw [PlanStep.RunsProgram, rendered, splitWords_renderCommand, ← namesCommand_iff]
  simp

/-- The steps of a plan run their programs when the invariant step does. -/
theorem planSteps_run_program_iff :
    (∀ step ∈ planSteps report network contractId sourceIdentity inputs operations,
      step.RunsProgram) ↔ NamesCommand operations.invariantCheck.program := by
  have read : ∀ step ∈ planSteps report network contractId sourceIdentity inputs operations,
      (step.RunsProgram ↔ NamesCommand step.program) := by
    intro step listed
    exact runsProgram_iff (command_of_mem_planSteps step listed)
  have stellar : NamesCommand "stellar" := by decide
  rw [forall₂_congr read, @forall_planSteps_iff _ _ _ _ _ _ fun program _ => NamesCommand program]
  simp only [stellar, true_and, implies_true]

end Steps

/-- Every command of a created plan runs the program of its step exactly when the
invariant program reads as a command name. -/
theorem commands_run_program_iff (primitives : Primitives) (report : ValidationReport)
    (network contractId sourceIdentity : String) (inputs : PlanInputPaths)
    (operations : PlanOperations) (plan : UpgradePlan)
    (created : createPlanWithPaths primitives report network contractId sourceIdentity inputs
      operations = .ok plan) :
    (∀ step ∈ plan.steps, step.RunsProgram) ↔ NamesCommand operations.invariantCheck.program := by
  rw [steps_of_created created]
  exact planSteps_run_program_iff

theorem sampleCommands_run_program : ∃ plan : UpgradePlan,
    createPlanWithPaths Sample.primitives Sample.safeReport "testnet" Sample.contractId "deployer"
      Sample.inputs Sample.operations = .ok plan ∧ ∀ step ∈ plan.steps, step.RunsProgram := by
  obtain ⟨digest, created⟩ := Sample.plan_created
  exact ⟨_, created, (commands_run_program_iff _ _ _ _ _ _ _ _ created).2 (by decide)⟩

/-- The sample operations with another invariant program. -/
def Sample.checkedBy (program : String) (arguments : List String) : PlanOperations :=
  { Sample.operations with invariantCheck := { program, arguments } }

/-- The command `VERIFY=strict ./verify.sh` runs its argument. -/
theorem assignment_hides_program : ¬ ∀ plan,
    createPlanWithPaths Sample.primitives Sample.safeReport "testnet" Sample.contractId "deployer"
      Sample.inputs (Sample.checkedBy "VERIFY=strict" ["./verify.sh"]) = .ok plan →
    ∀ step ∈ plan.steps, step.RunsProgram := by
  intro every
  have accepted : validatePlanRequest Sample.primitives Sample.safeReport "testnet"
      Sample.contractId "deployer" Sample.inputs
      (Sample.checkedBy "VERIFY=strict" ["./verify.sh"]) = .ok () := rfl
  obtain ⟨digest, created⟩ := Sample.created_of_accepted accepted
  have named := planSteps_run_program_iff.1 (steps_of_created created ▸ every _ created)
  revert named
  decide

/-! ### The characters of a command -/

/-- A text without control characters. -/
def Printable (text : String) : Prop := ∀ character ∈ text.toList, isControl character = false

instance (text : String) : Decidable (Printable text) :=
  decidable_of_iff (text.toList.all (!isControl ·) = true) (by simp [Printable])

/-- What an operator reads of a step is printable. -/
def PlanStep.Printable (step : PlanStep) : Prop :=
  ∀ text ∈ step.program :: step.command :: step.arguments, SorobanUpgrades.Printable text

theorem printable_append {left right : String} :
    Printable (left ++ right) ↔ Printable left ∧ Printable right := by
  simp only [Printable, String.toList_append, List.forall_mem_append]

theorem any_isControl_eq_false_iff {text : String} :
    ¬ text.toList.any isControl = true ↔ Printable text := by
  simp [Printable]

theorem printable_shellQuote {value : String} (printable : Printable value) :
    Printable (shellQuote value) := by
  unfold shellQuote
  split
  · exact printable
  · intro character listed
    rw [String.toList_ofList, List.mem_cons, List.mem_append, List.mem_flatMap,
      List.mem_singleton] at listed
    rcases listed with rfl | ⟨original, stands, escaped⟩ | rfl
    · decide
    · unfold quoteEscape at escaped
      split at escaped
      · simp only [List.mem_cons, List.not_mem_nil, or_false] at escaped
        rcases escaped with rfl | rfl | rfl | rfl | rfl <;> decide
      · rw [List.mem_singleton.1 escaped]
        exact printable original stands
    · decide

theorem printable_renderCommand {program : String} {arguments : List String}
    (printable : ∀ text ∈ program :: arguments, Printable text) :
    Printable (renderCommand program arguments) := by
  have quoted : ∀ text ∈ (program :: arguments).map shellQuote, Printable text := by
    intro text listed
    obtain ⟨value, stands, rfl⟩ := List.mem_map.1 listed
    exact printable_shellQuote (printable value stands)
  have blank : Printable " " := by simp [Printable, isControl]
  have joined : ∀ texts : List String, (∀ text ∈ texts, Printable text) →
      Printable (" ".intercalate texts) := by
    intro texts every
    induction texts with
    | nil => simp [Printable]
    | cons text texts inductionHypothesis =>
        obtain ⟨first, rest⟩ := List.forall_mem_cons.1 every
        by_cases last : texts = []
        · rw [last, String.intercalate_singleton]
          exact first
        · rw [String.intercalate_cons_of_ne_nil last, printable_append, printable_append]
          exact ⟨⟨first, blank⟩, inductionHypothesis rest⟩
  exact joined _ quoted

/-! The texts that a request check clears. -/

section Cleared

variable {primitives : Primitives}

theorem printable_of_validatePlanString {label value : String} {maximumBytes : Nat}
    (cleared : validatePlanString primitives label value maximumBytes = .ok ()) :
    Printable value := by
  rw [validatePlanString, seq_eq_ok_iff, refuse_eq_ok_iff, not_or, not_or] at cleared
  exact any_isControl_eq_false_iff.1 cleared.1.2.2

/-- A text without control characters and blanks is printable. -/
private theorem printable_of_visible {text : String}
    (visible : ¬ text.toList.any (fun character => isControl character || isWhitespace character)
      = true) : Printable text := by
  rw [Bool.not_eq_true, List.any_eq_false] at visible
  intro character listed
  have apart := visible character listed
  rw [Bool.or_eq_true, not_or, Bool.not_eq_true] at apart
  exact apart.1

theorem printable_of_validateSourceIdentity {sourceIdentity : String}
    (cleared : validateSourceIdentity primitives sourceIdentity = .ok ()) :
    Printable sourceIdentity := by
  rw [validateSourceIdentity, seq_eq_ok_iff, refuse_eq_ok_iff, not_or, not_or] at cleared
  exact printable_of_visible cleared.1.2.2

theorem printable_of_validateInvariantCheck {check : InvariantCheck}
    (cleared : validateInvariantCheck primitives check = .ok ()) :
    ∀ text ∈ check.program :: check.arguments, Printable text := by
  rw [validateInvariantCheck, seq_eq_ok_iff, refuse_eq_ok_iff, not_or, not_or, seq_eq_ok_iff,
    forM_eq_ok_iff] at cleared
  obtain ⟨⟨_, _, visible⟩, _, arguments⟩ := cleared
  rw [List.forall_mem_cons]
  refine ⟨printable_of_visible visible, fun argument listed => ?_⟩
  have clear := arguments argument listed
  rw [validateInvariantArgument, seq_eq_ok_iff, refuse_eq_ok_iff, not_or] at clear
  exact any_isControl_eq_false_iff.1 clear.1.2

theorem printable_targetWasm {inputs : PlanInputPaths}
    (cleared : validatePlanInputPaths primitives inputs = .ok ()) :
    Printable inputs.targetWasm := by
  rw [validatePlanInputPaths, seq_eq_ok_iff, seq_eq_ok_iff] at cleared
  exact printable_of_validatePlanString cleared.2.1

end Cleared

/-- A base32 text is printable. -/
theorem printable_of_base32 {text : String} (base32 : text.toList.all isBase32 = true) :
    Printable text := by
  rw [List.all_eq_true] at base32
  intro character listed
  have known := base32 character listed
  simp only [isBase32, Char.isUpper, Bool.or_eq_true, Bool.and_eq_true, decide_eq_true_eq] at known
  simp only [isControl, Bool.or_eq_false_iff, Bool.and_eq_false_iff, decide_eq_false_iff_not]
  have bounds : 'A'.val.toNat = 65 ∧ 'Z'.val.toNat = 90 ∧ '2'.val.toNat = 50 ∧
      '7'.val.toNat = 55 := by decide
  simp only [UInt32.le_iff_toNat_le, Char.toNat, bounds] at known ⊢
  omega

theorem printable_iff (step : PlanStep)
    (rendered : step.command = renderCommand step.program step.arguments) :
    step.Printable ↔ ∀ text ∈ step.program :: step.arguments, Printable text := by
  rw [PlanStep.Printable, rendered]
  simp only [List.forall_mem_cons]
  constructor
  · rintro ⟨program, _, arguments⟩
    exact ⟨program, arguments⟩
  · rintro ⟨program, arguments⟩
    exact ⟨program, printable_renderCommand (List.forall_mem_cons.2 ⟨program, arguments⟩),
      arguments⟩

/-- The entrypoint of a migration call, its argument names and their values. -/
def MigrationCall.Printable (migration : MigrationCall) : Prop :=
  SorobanUpgrades.Printable migration.entrypoint ∧
    ∀ name value, migration.arguments[name]? = some value →
      SorobanUpgrades.Printable name ∧ SorobanUpgrades.Printable value

/-- The words that the planner writes itself. -/
private theorem printable_words : ∀ text ∈ ["stellar", "contract", "fetch", "upload", "invoke",
    "--id", "--network", "--out-file", "current.wasm", "deployed.wasm", "--wasm",
    "--optimize=false", "--source-account", "--send", "no", "--", "upgrade", "--new_wasm_hash",
    "--operator"], Printable text := by
  decide

theorem printable_migrationArguments_iff {contractId sourceIdentity network : String}
    {migration : MigrationCall} (contractKey : Printable contractId)
    (identity : Printable sourceIdentity) (networkName : Printable network) :
    (∀ text ∈ "stellar" :: migrationArguments contractId sourceIdentity network migration,
      Printable text) ↔ migration.Printable := by
  have words := printable_words
  simp only [List.forall_mem_cons] at words
  have dashes : Printable "--" := printable_words _ (by simp)
  have named : ∀ name value, (∀ text ∈ [s!"--{name}", value], Printable text) ↔
      Printable name ∧ Printable value := by
    intro name value
    rw [List.forall_mem_cons, List.forall_mem_singleton]
    exact and_congr_left' (printable_append.trans (and_iff_right dashes))
  have pairs : (∀ text ∈ migration.arguments.toList.flatMap fun entry =>
      [s!"--{entry.1}", entry.2], Printable text) ↔
      ∀ name value, migration.arguments[name]? = some value →
        Printable name ∧ Printable value := by
    simp only [List.mem_flatMap, forall_exists_index, and_imp]
    constructor
    · intro every name value stored
      exact (named name value).1 fun text listed =>
        every text (name, value) (OrderedMap.mem_toList_iff.2 stored) listed
    · rintro every text ⟨name, value⟩ stored listed
      exact (named name value).2 (every name value (OrderedMap.mem_toList_iff.1 stored)) text listed
  rw [migrationArguments, MigrationCall.Printable, ← pairs]
  simp only [List.forall_mem_cons, List.forall_mem_append, words, contractKey, identity,
    networkName, true_and, List.not_mem_nil, false_implies, implies_true, and_true]

/-- The steps of an accepted request are printable when the target hash and the
migration call are. -/
theorem planSteps_printable_iff {primitives : Primitives}
    (contractKeys : ∀ text, primitives.contractFromString text = true →
      text.toList.all isBase32 = true)
    {report : ValidationReport} {network contractId sourceIdentity : String}
    {inputs : PlanInputPaths} {operations : PlanOperations}
    (accepted : AcceptedRequest primitives report network contractId sourceIdentity inputs
      operations) :
    (∀ step ∈ planSteps report network contractId sourceIdentity inputs operations,
      step.Printable) ↔
    Printable report.target.sha256 ∧
      ∀ migration, operations.migration = some migration → migration.Printable := by
  have read : ∀ step ∈ planSteps report network contractId sourceIdentity inputs operations,
      (step.Printable ↔ ∀ text ∈ step.program :: step.arguments, Printable text) := by
    intro step listed
    exact printable_iff step (command_of_mem_planSteps step listed)
  have contractKey : Printable contractId := by
    have key := accepted.contractKey
    rw [validateContractId] at key
    split at key
    · rename_i valid
      exact printable_of_base32 (contractKeys contractId valid)
    · cases key
  have networkName := printable_of_validatePlanString accepted.networkText
  have identity := printable_of_validateSourceIdentity accepted.identityText
  have targetWasm := printable_targetWasm accepted.inputPaths
  have invariant := printable_of_validateInvariantCheck accepted.invariantCheck
  have words := printable_words
  simp only [List.forall_mem_cons] at words invariant
  rw [forall₂_congr read, @forall_planSteps_iff _ _ _ _ _ _ fun program arguments =>
    ∀ text ∈ program :: arguments, Printable text]
  simp only [printable_migrationArguments_iff contractKey identity networkName]
  simp only [fetchArguments, uploadArguments, simulateArguments, executeArguments,
    List.forall_mem_cons, words, contractKey, networkName, identity, targetWasm, invariant,
    List.not_mem_nil, false_implies, implies_true, true_and, and_true]
  tauto

/-- No step of a created plan shows a control character exactly when the target
hash of the report and the migration call hold none. -/
theorem commands_printable_iff (primitives : Primitives)
    (contractKeys : ∀ text, primitives.contractFromString text = true →
      text.toList.all isBase32 = true)
    (report : ValidationReport) (network contractId sourceIdentity : String)
    (inputs : PlanInputPaths) (operations : PlanOperations) (plan : UpgradePlan)
    (created : createPlanWithPaths primitives report network contractId sourceIdentity inputs
      operations = .ok plan) :
    (∀ step ∈ plan.steps, step.Printable) ↔
    Printable report.target.sha256 ∧
      ∀ migration, operations.migration = some migration → migration.Printable := by
  rw [steps_of_created created]
  exact planSteps_printable_iff contractKeys (createPlanWithPaths_eq_ok_iff.1 created).1

namespace Sample

theorem contractKeys (text : String) (valid : primitives.contractFromString text = true) :
    text.toList.all isBase32 = true := by
  rw [show text = contractId from beq_iff_eq.1 valid]
  decide

/-- The sample operations with a migration whose operator is the given text. -/
def migratedBy (operator : String) : PlanOperations :=
  { operations with
    migration := some {
      entrypoint := "migrate"
      arguments := Std.ExtTreeMap.ofList [("operator", operator)] compare } }

end Sample

theorem sampleCommands_printable : ∃ plan : UpgradePlan,
    createPlanWithPaths Sample.primitives Sample.safeReport "testnet" Sample.contractId "deployer"
      Sample.inputs Sample.operations = .ok plan ∧ ∀ step ∈ plan.steps, step.Printable := by
  obtain ⟨digest, created⟩ := Sample.plan_created
  exact ⟨_, created, (commands_printable_iff Sample.primitives Sample.contractKeys _ _ _ _ _ _ _
    created).2 ⟨by decide, nofun⟩⟩

/-- A line break in a migration argument starts a second line in the command. -/
theorem migrationArgument_breaks_line : ¬ ∀ plan,
    createPlanWithPaths Sample.primitives Sample.safeReport "testnet" Sample.contractId "deployer"
      Sample.inputs (Sample.migratedBy "deployer\nstellar keys rm deployer") = .ok plan →
    ∀ step ∈ plan.steps, step.Printable := by
  intro every
  have accepted : validatePlanRequest Sample.primitives Sample.safeReport "testnet"
      Sample.contractId "deployer" Sample.inputs
      (Sample.migratedBy "deployer\nstellar keys rm deployer") = .ok () := by
    decide +kernel
  obtain ⟨digest, created⟩ := Sample.created_of_accepted accepted
  obtain ⟨_, migrations⟩ := (planSteps_printable_iff Sample.contractKeys
    (validatePlanRequest_eq_ok_iff.1 accepted)).1 (steps_of_created created ▸ every _ created)
  have operator := ((migrations _ rfl).2 "operator" _ rfl).2
  revert operator
  decide

end SorobanUpgrades
