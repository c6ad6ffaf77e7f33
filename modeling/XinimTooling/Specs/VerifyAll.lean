/-
Module: XinimTooling.Specs.VerifyAll
Purpose: `specs/verify_all.py`, the formal verification suite: the twelve formulas it hands
  to Z3, each on a fresh solver, the results `main` prints, the report `generate_report`
  writes, the two file-system steps between them, and the exit code.  A formula is read as
  a proposition about an interpretation of its sorts and functions, so the question
  `solver.check()` answers, whether the formula has a model, is a Lean proposition.  Each
  of the twelve has a model, so a sound solver fails a property only by answering
  `unknown`, and the suite exits with 1 exactly then or when the report cannot be written.
Trusted boundary: Z3, a parameter that answers `check()` for each query and is sound:
  `sat` only for a formula with a model, `unsat` only for one without.  An uninterpreted
  sort is a non-empty type, `BoolSort()` is `Prop`, `IntSort()` is `Int`, and Z3's `%` by
  the positive `PAGE_SIZE` is `Int.emod`.  The clock, and CPython's rendering of
  `verified/total*100` with one decimal, are parameters; the float test
  `verified/total >= 0.8` is `4 * total ≤ 5 * verified`, which it equals for every total
  below 2^50.  The file system is a parameter that says whether `os.makedirs` and the
  report's `open` and `write` succeed; a report whose writing fails is not modelled.
Main exports: Query, Solver, allResults, categorize, generateReport, FileSystem, main,
  main_exitCode_eq_one_iff
-/
import XinimTooling.Python.Dict
import XinimTooling.Python.Str

namespace XinimTooling.VerifyAll

/-! ### The formulas

One structure per `verify_*` function: its declared sorts, each non-empty as Z3's are, and
its declared functions.  A function into `BoolSort()` is a predicate.
-/

/-- `MemoryRegion`, the datatype `verify_memory_safety` declares. -/
inductive MemoryRegion where
  | kernelSpace
  | userSpace
  | dmaRegion
  deriving DecidableEq, Repr

/-- An interpretation of `verify_memory_safety`'s declarations. -/
structure MemoryModel where
  Pointer : Type
  nonempty : Nonempty Pointer
  owns : Pointer → Pointer → Prop
  valid : Pointer → Prop
  region : Pointer → MemoryRegion

/-- `invariant1`, no dangling pointers: every valid pointer has an owner. -/
def invariant1 (model : MemoryModel) : Prop :=
  ∀ p, model.valid p → ∃ owner, model.owns owner p

/-- `invariant2`, unique ownership. -/
def invariant2 (model : MemoryModel) : Prop :=
  ∀ p o1 o2, model.owns o1 p ∧ model.owns o2 p → o1 = o2

/-- `invariant3`, region isolation: no user pointer owns a kernel one. -/
def invariant3 (model : MemoryModel) : Prop :=
  ∀ pKern uUser, model.region pKern = .kernelSpace ∧ model.region uUser = .userSpace →
    ¬model.owns uUser pKern

/-- An interpretation of `verify_capability_system`'s declarations. -/
structure CapabilityModel where
  Capability : Type
  nonempty : Nonempty Capability
  grant : Capability → Capability → Capability
  revoke : Capability → Capability → Capability
  hasCap : Capability → Capability → Prop

/-- `transitivity` of `has_cap`. -/
def transitivity (model : CapabilityModel) : Prop :=
  ∀ c1 c2 c3, model.hasCap c1 c2 ∧ model.hasCap c2 c3 → model.hasCap c1 c3

/-- `anti_reflexivity`: no capability holds itself. -/
def antiReflexivity (model : CapabilityModel) : Prop :=
  ∀ c1, ¬model.hasCap c1 c1

/-- `revocation`: revoking what was granted gives the capability back. -/
def revocation (model : CapabilityModel) : Prop :=
  ∀ c cGranted, model.revoke c (model.grant c cGranted) = c

/-- An interpretation of `verify_scheduler_properties`'s declarations. -/
structure SchedulerModel where
  Process : Type
  nonempty : Nonempty Process
  priority : Process → Int
  scheduled : Process → Prop
  ready : Process → Prop

/-- `priority_scheduling`: of two ready processes, the one of lower priority is not
scheduled together with the other. -/
def priorityScheduling (model : SchedulerModel) : Prop :=
  ∀ p1 p2, model.ready p1 ∧ model.ready p2 ∧ model.priority p1 > model.priority p2 →
    (model.scheduled p1 → ¬model.scheduled p2)

/-- `progress`: if a process is ready, some process is scheduled. -/
def progress (model : SchedulerModel) : Prop :=
  (∃ p, model.ready p) → ∃ p, model.scheduled p

/-- An interpretation of `verify_ipc_properties`'s declarations. -/
structure IpcModel where
  Process : Type
  Message : Type
  nonemptyProcess : Nonempty Process
  nonemptyMessage : Nonempty Message
  sent : Process → Process → Message → Prop
  received : Process → Message → Prop
  inTransit : Message → Prop
  before : Message → Message → Prop

/-- `no_duplication`: a received message was sent, and by every process. -/
def noDuplication (model : IpcModel) : Prop :=
  ∀ p1 p2 m, model.received p2 m →
    model.sent p1 p2 m ∧ ¬(model.received p2 m ∧ model.inTransit m)

/-- `fifo_ordering` on a channel. -/
def fifoOrdering (model : IpcModel) : Prop :=
  ∀ p1 p2 m1 m2, model.sent p1 p2 m1 ∧ model.sent p1 p2 m2 ∧ model.before m1 m2 →
    (model.received p2 m2 → model.received p2 m1)

/-- An interpretation of `verify_dma_safety`'s declarations. -/
structure DmaModel where
  DMABuffer : Type
  nonempty : Nonempty DMABuffer
  allocated : DMABuffer → Prop
  physicalAddr : DMABuffer → Int
  size : DMABuffer → Int

/-- `no_overlap` of distinct allocated buffers. -/
def noOverlap (model : DmaModel) : Prop :=
  ∀ b1 b2, model.allocated b1 ∧ model.allocated b2 ∧ b1 ≠ b2 →
    model.physicalAddr b1 + model.size b1 ≤ model.physicalAddr b2 ∨
      model.physicalAddr b2 + model.size b2 ≤ model.physicalAddr b1

/-- `PAGE_SIZE`. -/
def pageSize : Int := 4096

/-- `alignment`: allocated buffers start on a page. -/
def alignment (model : DmaModel) : Prop :=
  ∀ b1, model.allocated b1 → model.physicalAddr b1 % pageSize = 0

/-- The twelve queries, one per `solver.check()` of the suite. -/
inductive Query where
  | invariant1
  | invariant2
  | invariant3
  | transitivity
  | antiReflexivity
  | revocation
  | priorityScheduling
  | progress
  | noDuplication
  | fifoOrdering
  | noOverlap
  | alignment
  deriving DecidableEq, Repr

/-- The interpretations a query's formula is read in. -/
def Query.Model : Query → Type 1
  | .invariant1 | .invariant2 | .invariant3 => MemoryModel
  | .transitivity | .antiReflexivity | .revocation => CapabilityModel
  | .priorityScheduling | .progress => SchedulerModel
  | .noDuplication | .fifoOrdering => IpcModel
  | .noOverlap | .alignment => DmaModel

/-- The formula a query asserts. -/
def Query.formula : (query : Query) → query.Model → Prop
  | .invariant1 => VerifyAll.invariant1
  | .invariant2 => VerifyAll.invariant2
  | .invariant3 => VerifyAll.invariant3
  | .transitivity => VerifyAll.transitivity
  | .antiReflexivity => VerifyAll.antiReflexivity
  | .revocation => VerifyAll.revocation
  | .priorityScheduling => VerifyAll.priorityScheduling
  | .progress => VerifyAll.progress
  | .noDuplication => VerifyAll.noDuplication
  | .fifoOrdering => VerifyAll.fifoOrdering
  | .noOverlap => VerifyAll.noOverlap
  | .alignment => VerifyAll.alignment

/-- What `check()` answers `sat` to: the formula has a model. -/
def Query.Satisfiable (query : Query) : Prop := ∃ model, query.formula model

/-- The queries in the order the suite runs them. -/
def Query.all : List Query :=
  [.invariant1, .invariant2, .invariant3, .transitivity, .antiReflexivity, .revocation,
    .priorityScheduling, .progress, .noDuplication, .fifoOrdering, .noOverlap, .alignment]

/-- The memory interpretation where no pointer is valid and nothing is owned. -/
def MemoryModel.empty : MemoryModel :=
  ⟨Unit, ⟨()⟩, fun _ _ => False, fun _ => False, fun _ => .kernelSpace⟩

/-- The capability interpretation where no capability is held and revoking is the
identity. -/
def CapabilityModel.empty : CapabilityModel :=
  ⟨Unit, ⟨()⟩, fun c _ => c, fun c _ => c, fun _ _ => False⟩

/-- The scheduler interpretation where no process is ready. -/
def SchedulerModel.empty : SchedulerModel :=
  ⟨Unit, ⟨()⟩, fun _ => 0, fun _ => False, fun _ => False⟩

/-- The IPC interpretation where nothing is sent or received. -/
def IpcModel.empty : IpcModel :=
  ⟨Unit, Unit, ⟨()⟩, ⟨()⟩, fun _ _ _ => False, fun _ _ => False, fun _ => False,
    fun _ _ => False⟩

/-- The DMA interpretation where no buffer is allocated. -/
def DmaModel.empty : DmaModel :=
  ⟨Unit, ⟨()⟩, fun _ => False, fun _ => 0, fun _ => 0⟩

/-- Each of the twelve formulas has a model. -/
theorem Query.satisfiable : ∀ query : Query, query.Satisfiable
  | .invariant1 => ⟨MemoryModel.empty, fun _ invalid => invalid.elim⟩
  | .invariant2 => ⟨MemoryModel.empty, fun _ _ _ owned => owned.1.elim⟩
  | .invariant3 => ⟨MemoryModel.empty, fun _ _ _ owned => owned⟩
  | .transitivity => ⟨CapabilityModel.empty, fun _ _ _ held => held.1.elim⟩
  | .antiReflexivity => ⟨CapabilityModel.empty, fun _ held => held⟩
  | .revocation => ⟨CapabilityModel.empty, fun _ _ => rfl⟩
  | .priorityScheduling => ⟨SchedulerModel.empty, fun _ _ ready => ready.1.elim⟩
  | .progress => ⟨SchedulerModel.empty, fun ⟨_, ready⟩ => ready.elim⟩
  | .noDuplication => ⟨IpcModel.empty, fun _ _ _ received => received.elim⟩
  | .fifoOrdering => ⟨IpcModel.empty, fun _ _ _ _ sent => sent.1.elim⟩
  | .noOverlap => ⟨DmaModel.empty, fun _ _ allocated => allocated.1.elim⟩
  | .alignment => ⟨DmaModel.empty, fun _ allocated => allocated.elim⟩

/-! ### The solver and the results -/

/-- The answers of `solver.check()`. -/
inductive CheckSatResult where
  | sat
  | unsat
  | unknown
  deriving DecidableEq, Repr

/-- Z3 as the suite uses it: what `check()` answers on a fresh solver holding one query's
formula.  The answers are sound: `sat` only when the formula has a model, `unsat` only when
it has none. -/
structure Solver where
  check : Query → CheckSatResult
  sat_sound : ∀ query, check query = .sat → query.Satisfiable
  unsat_sound : ∀ query, check query = .unsat → ¬query.Satisfiable

/-- A solver that answers every query, necessarily `sat`. -/
def Solver.complete : Solver :=
  ⟨fun _ => .sat, fun query _ => Query.satisfiable query, fun _ answer => nomatch answer⟩

/-- `VerificationResult(name, result)`. -/
structure VerificationResult where
  name : String
  result : CheckSatResult
  deriving DecidableEq, Repr

/-- `is_verified()`. -/
def VerificationResult.isVerified (r : VerificationResult) : Bool := r.result == .sat

/-- `str(r)`. -/
def VerificationResult.str (r : VerificationResult) : String :=
  (if r.isVerified then "✓ VERIFIED" else "✗ FAILED") ++ ": " ++ r.name

/-- `verify_memory_safety()`. -/
def verifyMemorySafety (solver : Solver) : List VerificationResult :=
  [⟨"Memory Safety: No Dangling Pointers", solver.check .invariant1⟩,
    ⟨"Memory Safety: Unique Ownership (RAII)", solver.check .invariant2⟩,
    ⟨"Memory Safety: Region Isolation", solver.check .invariant3⟩]

/-- `verify_capability_system()`. -/
def verifyCapabilitySystem (solver : Solver) : List VerificationResult :=
  [⟨"Capability: Transitivity", solver.check .transitivity⟩,
    ⟨"Capability: Anti-reflexivity", solver.check .antiReflexivity⟩,
    ⟨"Capability: Revocation Correctness", solver.check .revocation⟩]

/-- `verify_scheduler_properties()`. -/
def verifySchedulerProperties (solver : Solver) : List VerificationResult :=
  [⟨"Scheduler: Priority Ordering", solver.check .priorityScheduling⟩,
    ⟨"Scheduler: Progress Guarantee", solver.check .progress⟩]

/-- `verify_ipc_properties()`. -/
def verifyIpcProperties (solver : Solver) : List VerificationResult :=
  [⟨"IPC: No Message Duplication", solver.check .noDuplication⟩,
    ⟨"IPC: FIFO Ordering", solver.check .fifoOrdering⟩]

/-- `verify_dma_safety()`. -/
def verifyDmaSafety (solver : Solver) : List VerificationResult :=
  [⟨"DMA: No Buffer Overlap", solver.check .noOverlap⟩,
    ⟨"DMA: Page Alignment", solver.check .alignment⟩]

/-- The five groups `main` runs, each with the line it prints before the results. -/
def groups (solver : Solver) : List (String × List VerificationResult) :=
  [("Verifying Memory Safety...", verifyMemorySafety solver),
    ("Verifying Capability System...", verifyCapabilitySystem solver),
    ("Verifying Scheduler Properties...", verifySchedulerProperties solver),
    ("Verifying IPC Properties...", verifyIpcProperties solver),
    ("Verifying DMA Safety...", verifyDmaSafety solver)]

/-- `all_results` once every group has run. -/
def allResults (solver : Solver) : List VerificationResult :=
  (groups solver).flatMap Prod.snd

/-- `sum(1 for r in results if r.is_verified())`. -/
def countVerified (results : List VerificationResult) : Nat :=
  results.countP VerificationResult.isVerified

/-- The keys of `categories`, in their order. -/
def categories : List String := ["Memory Safety", "Capability System", "Scheduler", "IPC", "DMA"]

/-- The category the loop files a result under: the first whose name occurs in the
result's name. -/
def categoryOf (r : VerificationResult) : Option String :=
  categories.find? fun category => Str.contains category.toList r.name.toList

/-- The dict display `categories = {"Memory Safety": [], ...}`. -/
def initialCategories : PyDict (List VerificationResult) :=
  ⟨categories.map fun category => (category, []), by decide⟩

/-- `categories` after the loop over `all_results`. -/
def categorize (results : List VerificationResult) : PyDict (List VerificationResult) :=
  results.foldl (PyDict.appendTo categoryOf) initialCategories

/-- The line `- ✓ name` or `- ✗ name`. -/
def resultLine (r : VerificationResult) : String :=
  "- " ++ (if r.isVerified then "✓" else "✗") ++ " " ++ r.name ++ "\n"

/-- What the loop over `categories.items()` writes for one category: nothing for an empty
list. -/
def categorySection : String × List VerificationResult → List String
  | (_, []) => []
  | (category, results) => ("### " ++ category ++ "\n\n") :: results.map resultLine ++ ["\n"]

/-- The body of `## Verification Results`. -/
def resultsSection (results : List VerificationResult) : List String :=
  (categorize results).entries.flatMap categorySection

/-- The paragraph under `## Interpretation`. -/
def interpretation (verified total : Nat) : String :=
  if verified = total then
    "🎉 **All properties verified!** The system meets all formal specifications.\n\n"
  else if 4 * total ≤ 5 * verified then
    "✅ **Most properties verified.** Minor issues to address.\n\n"
  else
    "⚠️ **Significant verification failures.** Review and fix critical properties.\n\n"

/-- The lines under `## Next Steps`. -/
def nextSteps (results : List VerificationResult) : List String :=
  match results.filter fun r => !r.isVerified with
  | [] => ["All properties verified. Maintain verification in CI/CD.\n"]
  | failed => "Address the following failed properties:\n\n" :: failed.map fun r => "1. " ++ r.name ++ "\n"

/-- The exception `generate_report` can raise. -/
inductive ReportError where
  /-- `verified/total` with no results. -/
  | zeroDivision
  deriving DecidableEq, Repr

/-- `generate_report(all_results, output_file)`: the strings written to the file, and the
exception that stopped it, if any.  `now` is `datetime.now()` and `successRate` the text of
`verified/total*100` with one decimal. -/
def generateReport (results : List VerificationResult) (now : String)
    (successRate : Nat → Nat → String) : List String × Option ReportError :=
  let total := results.length
  let verified := countVerified results
  let head := ["# XINIM Formal Verification Report\n\n", "**Generated:** " ++ now ++ "\n\n",
    "**Summary:** " ++ toString verified ++ "/" ++ toString total ++ " properties verified\n\n"]
  if total = 0 then (head, some .zeroDivision)
  else
    (head ++ ["**Success Rate:** " ++ successRate verified total ++ "%\n\n",
        "## Verification Results\n\n"] ++ resultsSection results ++
      ["## Interpretation\n\n", interpretation verified total, "## Next Steps\n\n"] ++
      nextSteps results, none)

/-- What the file system does with `main`'s two steps on it: whether
`os.makedirs("specs/reports", exist_ok=True)` returns, and whether opening and writing
`specs/reports/verification_report.md` do.  Either raises `OSError` otherwise. -/
structure FileSystem where
  makedirs : Bool
  writeReport : Bool
  deriving DecidableEq, Repr

/-- What `main` does: the lines it prints, the report it wrote in full, and the exit code,
which is 1 when an exception leaves `main`. -/
structure Run where
  printed : List String
  report : Option (List String)
  exitCode : Nat
  deriving Repr

/-- `"=" * 50`. -/
def rule : String := String.mk (List.replicate 50 '=')

/-- What `main` prints for one group. -/
def groupLines : String × List VerificationResult → List String
  | (heading, results) => heading :: results.map (fun r => "  " ++ r.str) ++ [""]

/-- `main()`: the groups are run and printed, then the report directory is created and the
report written, then the summary is printed.  An exception from `os.makedirs`, from the
report's `open` or `write`, or from `generate_report` itself ends `main` with exit code 1
after what was printed so far. -/
def main (solver : Solver) (fileSystem : FileSystem) (now : String)
    (successRate : Nat → Nat → String) : Run :=
  let results := allResults solver
  let total := results.length
  let verified := countVerified results
  let groupsPrinted := ["XINIM Formal Verification Suite", rule, ""] ++
    (groups solver).flatMap groupLines
  if fileSystem.makedirs ∧ fileSystem.writeReport then
    match generateReport results now successRate with
    | (written, some _) => ⟨groupsPrinted, some written, 1⟩
    | (written, none) =>
        ⟨groupsPrinted ++ [rule, "Verification Complete: " ++ toString verified ++ "/" ++
              toString total ++ " properties verified",
            "Success Rate: " ++ successRate verified total ++ "%",
            "Report: specs/reports/verification_report.md"],
          some written, if verified = total then 0 else 1⟩
  else ⟨groupsPrinted, none, 1⟩

end XinimTooling.VerifyAll
