/-
Module: XinimTooling.Testing.ChaosRunner
Purpose: `ChaosRunner` of `scripts/testing/chaos_runner.py`, over every call of `run` on one
  runner: the calling thread waits for the child while the run's `_inject` thread polls it,
  sleeps, and on a draw below 0.5 sends it `SIGSTOP`, counts, and half an interval later
  sends `SIGCONT`.  The threads, the child, the processes that signal it from outside, and
  the injector threads that earlier runs left alive (`join(timeout=0.1)` does not wait for
  them) act in any order, so the model is a transition system whose steps interleave
  freely.  In every reachable state a stop the current injector caused lasts only until its
  own `SIGCONT`, `run` returns only once its child is reaped, and the count never exceeds
  the `SIGSTOP`s the runner's threads have sent: all runs' threads share it and `+=` is not
  atomic, so updates can be lost but never invented.
Trusted boundary: POSIX processes and signals: a running child may exit, stop or be resumed
  by other processes at any time, and a stopped one resumed or killed; `SIGSTOP` stops a
  running child and `SIGCONT` resumes a stopped one, a zombie ignoring both; `Popen.wait`
  and `Popen.poll` reap an exited child, `poll` answering `None` while `wait` holds the
  lock and at once on a reaped one; `os.kill` on a reaped child's id raises
  `ProcessLookupError` or, once the id is reused, signals another process, which may be a
  later run's child.  `self._perturbations += 1` is a read and a later write.  The draws of
  the seeded generator may go either way, so the results hold for every seed; time only
  orders the steps; the exit code, the duration and `main`'s parsing and printing are left
  out
Main exports: Child, Phase, Shared, Move, State, State.start, Step, Reachable, Invariant,
  reachable_invariant, injector_stop_lasts_until_resume, count_within_stops_sent
-/
import Mathlib.Data.List.Basic
import Mathlib.Logic.Relation

namespace XinimTooling.ChaosRunner

/-!
An `_inject` thread only touches the shared state, so one relation, `Move`, says what a
step of any injector does; whether it is the current run's (`current = true`) decides
where its signals go.  The current injector's process is the child: its `os.kill` reaches
the child until the child is reaped.  An earlier run's injector holds a reaped process, so
its `os.kill` raises, reaches an unrelated process, or reaches the current child when the
id has been reused.

Two fields of `Shared` record history rather than the program's data:
`stoppedByInjector`, whether the child's present stop is the current injector's `SIGSTOP`,
and `sent`, the `SIGSTOP`s the runner's threads have sent.
-/

/-! ### The parties -/

/-- The current run's child, as the kernel sees it. -/
inductive Child where
  | running
  | stopped
  /-- Ended and not yet reaped: a zombie. -/
  | exited
  /-- Reaped by `wait` or `poll`: its process id is free for reuse. -/
  | reaped
  deriving DecidableEq, Repr

/-- Where an `_inject` thread is.  A thread whose loop has ended, or whose `os.kill` raised,
is no longer in the state. -/
inductive Phase where
  /-- At `while process.poll() is None`. -/
  | polling
  /-- In `time.sleep(self._interval)`. -/
  | sleeping
  /-- At `os.kill(process.pid, signal.SIGSTOP)`, its draw below 0.5. -/
  | stopping
  /-- At `self._perturbations += 1`, before reading the count. -/
  | loading
  /-- Having read the count `read`, before writing `read + 1`. -/
  | storing (read : Nat)
  /-- In `time.sleep(self._interval / 2)`. -/
  | pausing
  /-- At `os.kill(process.pid, signal.SIGCONT)`. -/
  | continuing
  deriving DecidableEq, Repr

/-- Between the `SIGSTOP` and the write of its `+= 1`. -/
def Phase.counting : Phase → Bool
  | .loading | .storing _ => true
  | _ => false

/-- Between the `SIGSTOP` and the `SIGCONT`. -/
def Phase.Perturbing : Phase → Prop
  | .loading | .storing _ | .pausing | .continuing => True
  | _ => False

/-- What the threads share: the current run's child, whether its stop is the current
injector's `SIGSTOP`, `self._perturbations`, and the `SIGSTOP`s the runner's threads have
sent. -/
structure Shared where
  child : Child
  stoppedByInjector : Bool
  perturbations : Nat
  sent : Nat
  deriving DecidableEq, Repr

/-- One step of an `_inject` thread in phase `phase`: its next phase (`none` once the
thread has ended) and the shared state after it.  `current` says whether the thread is the
current run's. -/
inductive Move (current : Bool) : Phase → Shared → Option Phase → Shared → Prop
  /-- `poll()` answers `None`: the child is alive, or `wait` holds the lock. -/
  | pollNone (shared : Shared) : current = true → shared.child ≠ .reaped →
      Move current .polling shared (some .sleeping) shared
  /-- `poll()` gives the exit code, reaping an exited child: the loop ends. -/
  | pollDone (shared : Shared) :
      (current = true → shared.child = .exited ∨ shared.child = .reaped) →
      Move current .polling shared none
        { shared with child := if current then .reaped else shared.child }
  /-- The sleep ends and `rng.random()` is drawn below 0.5. -/
  | draw (shared : Shared) : Move current .sleeping shared (some .stopping) shared
  /-- The sleep ends and `rng.random()` is drawn at 0.5 or above. -/
  | skip (shared : Shared) : Move current .sleeping shared (some .polling) shared
  /-- `SIGSTOP` reaches the child: a running child stops, a zombie ignores it. -/
  | stopChild (shared : Shared) : shared.child ≠ .reaped →
      Move current .stopping shared (some .loading)
        { shared with child := if shared.child = .running then .stopped else shared.child
                      stoppedByInjector :=
                        if shared.child = .running then current else shared.stoppedByInjector
                      sent := shared.sent + 1 }
  /-- `SIGSTOP` reaches another process that holds the reaped id. -/
  | stopOther (shared : Shared) : (current = true → shared.child = .reaped) →
      Move current .stopping shared (some .loading) { shared with sent := shared.sent + 1 }
  /-- `SIGSTOP` to a free id: `ProcessLookupError` ends the thread. -/
  | stopRaises (shared : Shared) : (current = true → shared.child = .reaped) →
      Move current .stopping shared none shared
  /-- `+= 1` reads the count. -/
  | load (shared : Shared) :
      Move current .loading shared (some (.storing shared.perturbations)) shared
  /-- `+= 1` writes what it read, plus one. -/
  | store (read : Nat) (shared : Shared) :
      Move current (.storing read) shared (some .pausing)
        { shared with perturbations := read + 1 }
  /-- The half-interval sleep ends. -/
  | pause (shared : Shared) : Move current .pausing shared (some .continuing) shared
  /-- `SIGCONT` reaches the child: a stopped child runs again. -/
  | resumeChild (shared : Shared) : shared.child ≠ .reaped →
      Move current .continuing shared (some .polling)
        { shared with child := if shared.child = .stopped then .running else shared.child
                      stoppedByInjector :=
                        if shared.child = .stopped then false else shared.stoppedByInjector }
  /-- `SIGCONT` reaches another process that holds the reaped id. -/
  | resumeOther (shared : Shared) : (current = true → shared.child = .reaped) →
      Move current .continuing shared (some .polling) shared
  /-- `SIGCONT` to a free id: `ProcessLookupError` ends the thread. -/
  | resumeRaises (shared : Shared) : (current = true → shared.child = .reaped) →
      Move current .continuing shared none shared

/-- What other processes, and the child itself, do to the child. -/
inductive External : Shared → Shared → Prop
  /-- The child ends. -/
  | exit (shared : Shared) : shared.child = .running →
      External shared { shared with child := .exited }
  /-- The child stops itself, or job control stops it. -/
  | stop (shared : Shared) : shared.child = .running →
      External shared { shared with child := .stopped }
  /-- Another process resumes the child. -/
  | resume (shared : Shared) : shared.child = .stopped →
      External shared { shared with child := .running, stoppedByInjector := false }
  /-- Another process kills the stopped child. -/
  | kill (shared : Shared) : shared.child = .stopped →
      External shared { shared with child := .exited, stoppedByInjector := false }

/-- Where `run` is. -/
inductive Caller where
  /-- In `process.wait()`. -/
  | waiting
  /-- In `injector.join(timeout=0.1)`. -/
  | joining
  /-- Returned the `ChaosResult` with this count. -/
  | returned (perturbations : Nat)
  deriving DecidableEq, Repr

/-- The runner: the shared state, the current run's injector (`none` once it has ended),
the injectors earlier runs left alive, and the calling thread. -/
structure State where
  shared : Shared
  current : Option Phase
  stale : List Phase
  caller : Caller
  deriving DecidableEq, Repr

/-- Just after `subprocess.Popen(self._command)` and `injector.start()` of a fresh runner's
first run. -/
def State.start : State := ⟨⟨.running, false, 0, 0⟩, some .polling, [], .waiting⟩

/-- One step of one party. -/
inductive Step : State → State → Prop
  /-- Something outside the runner acts on the child. -/
  | external (s : State) {shared : Shared} : External s.shared shared →
      Step s { s with shared := shared }
  /-- `process.wait()` reaps the child. -/
  | wait (s : State) : s.caller = .waiting → s.shared.child = .exited →
      Step s { s with shared := { s.shared with child := .reaped }, caller := .joining }
  /-- `process.wait()` returns the code `poll()` collected. -/
  | waitReaped (s : State) : s.caller = .waiting → s.shared.child = .reaped →
      Step s { s with caller := .joining }
  /-- `injector.join(timeout=0.1)` returns, the thread ended or not, and the count is read. -/
  | join (s : State) : s.caller = .joining →
      Step s { s with caller := .returned s.shared.perturbations }
  /-- `run` is called again: a new child and a new injector; the old injector, if alive,
  runs on. -/
  | begin (s : State) (count : Nat) : s.caller = .returned count →
      Step s ⟨{ s.shared with child := .running }, some .polling, s.current.toList ++ s.stale,
        .waiting⟩
  /-- The current run's injector moves. -/
  | current (s : State) {phase : Phase} {next : Option Phase} {shared : Shared} :
      s.current = some phase → Move true phase s.shared next shared →
      Step s { s with current := next, shared := shared }
  /-- An earlier run's injector moves. -/
  | stale (s : State) (before after : List Phase) {phase : Phase} {next : Option Phase}
      {shared : Shared} : s.stale = before ++ phase :: after →
      Move false phase s.shared next shared →
      Step s { s with stale := before ++ next.toList ++ after, shared := shared }

/-- The states some interleaving reaches from a fresh runner's first run. -/
def Reachable (s : State) : Prop := Relation.ReflTransGen Step State.start s

/-! ### One injector's step -/

/-- How many of the phases are between a `SIGSTOP` and the write of its `+= 1`. -/
def pendingOf (phases : List Phase) : Nat := phases.countP Phase.counting

/-- The runner's threads between a `SIGSTOP` and the write of its `+= 1`. -/
def State.pending (s : State) : Nat := pendingOf (s.current.toList ++ s.stale)

@[simp] theorem pendingOf_nil : pendingOf [] = 0 := rfl

@[simp] theorem pendingOf_cons (phase : Phase) (phases : List Phase) :
    pendingOf (phase :: phases) = pendingOf phases + (if phase.counting then 1 else 0) := by
  simp [pendingOf, List.countP_cons]

@[simp] theorem pendingOf_append (first second : List Phase) :
    pendingOf (first ++ second) = pendingOf first + pendingOf second :=
  List.countP_append _ _ _

section Move

variable {current : Bool} {phase : Phase} {shared shared' : Shared} {next : Option Phase}

/-- A step sends at most one `SIGSTOP`, and only as the thread starts counting, so the
count's bound survives it, and so does the bound of every value a thread has read.
`others` is the pending writes of the other threads. -/
theorem Move.counted (move : Move current phase shared next shared') (others : Nat)
    (counted : shared.perturbations + pendingOf [phase] + others ≤ shared.sent)
    (read : ∀ value, phase = .storing value →
      value + pendingOf [phase] + others ≤ shared.sent) :
    shared'.perturbations + pendingOf next.toList + others ≤ shared'.sent ∧
      (∀ value, next = some (.storing value) →
        value + pendingOf next.toList + others ≤ shared'.sent) ∧
      ∀ value, value + pendingOf [phase] + others ≤ shared.sent →
        value + pendingOf next.toList + others ≤ shared'.sent := by
  refine ⟨?_, fun value stored => ?_, fun value bounded => ?_⟩ <;> cases move <;>
    simp_all [Phase.counting] <;> omega

theorem Move.sent_le (move : Move current phase shared next shared') :
    shared.sent ≤ shared'.sent := by
  cases move <;> simp

/-- A reaped child stays reaped. -/
theorem Move.reaped (move : Move current phase shared next shared')
    (reaped : shared.child = .reaped) : shared'.child = .reaped := by
  cases move <;> simp_all

/-- The current injector's step: a stop it caused lasts while it is between its `SIGSTOP`
and its `SIGCONT`. -/
theorem Move.stopLasts (move : Move true phase shared next shared')
    (lasts : shared.stoppedByInjector = true → shared.child = .stopped ∧ phase.Perturbing) :
    shared'.stoppedByInjector = true →
      shared'.child = .stopped ∧ ∃ phase', next = some phase' ∧ phase'.Perturbing := by
  cases move
  case stopChild alive =>
    intro stopped
    by_cases running : shared.child = .running
    · simp [running, Phase.Perturbing]
    · simp only [running, if_false] at stopped ⊢
      exact absurd (lasts stopped).2 (by simp [Phase.Perturbing])
  case resumeChild alive =>
    intro stopped
    by_cases held : shared.child = .stopped
    · simp [held] at stopped
    · simp only [held, if_false] at stopped
      exact absurd (lasts stopped).1 held
  all_goals
    intro stopped
    simp_all [Phase.Perturbing]

/-- An earlier injector's step never makes the child's stop the current injector's. -/
theorem Move.stale_stopLasts (move : Move false phase shared next shared')
    (lasts : shared.stoppedByInjector = true → shared.child = .stopped) :
    shared'.stoppedByInjector = true →
      shared.stoppedByInjector = true ∧ shared'.child = .stopped := by
  cases move <;> intro stopped
  case stopChild alive =>
    by_cases running : shared.child = .running
    · simp [running] at stopped
    · simp only [running, if_false] at stopped ⊢
      exact ⟨stopped, lasts stopped⟩
  case resumeChild alive =>
    by_cases held : shared.child = .stopped
    · simp [held] at stopped
    · simp only [held, if_false] at stopped
      exact absurd (lasts stopped) held
  all_goals simp_all

end Move

/-! ### What every interleaving keeps -/

/-- What holds in every reachable state. -/
structure Invariant (s : State) : Prop where
  /-- A stop the current injector caused lasts only until its own `SIGCONT`. -/
  stopLasts : s.shared.stoppedByInjector = true →
    s.shared.child = .stopped ∧ ∃ phase, s.current = some phase ∧ phase.Perturbing
  /-- `run` gets past `wait` only once the child is reaped. -/
  reaped : s.caller ≠ .waiting → s.shared.child = .reaped
  /-- The count, with the writes still pending, stays within the `SIGSTOP`s sent. -/
  counted : s.shared.perturbations + s.pending ≤ s.shared.sent
  /-- So does every count a thread has read and not yet written back. -/
  read : ∀ value, Phase.storing value ∈ s.current.toList ++ s.stale →
    value + s.pending ≤ s.shared.sent
  /-- And every count `run` returned. -/
  returned : ∀ count, s.caller = .returned count → count ≤ s.shared.sent

theorem invariant_start : Invariant State.start :=
  ⟨nofun, fun waiting => absurd rfl waiting, le_rfl, by simp [State.start], nofun⟩

theorem Invariant.external {s : State} {shared : Shared} (held : Invariant s)
    (external : External s.shared shared) : Invariant { s with shared := shared } := by
  obtain ⟨lasts, reaped, counted, read, returned⟩ := held
  cases external with
  | exit running | stop running =>
    exact ⟨fun stopped => absurd (lasts stopped).1 (by simp [running]),
      fun past => absurd (reaped past) (by simp [running]), counted, read, returned⟩
  | resume stopped | kill stopped =>
    exact ⟨nofun, fun past => absurd (reaped past) (by simp [stopped]), counted, read, returned⟩

/-- The current injector's step keeps the invariant. -/
theorem Invariant.current {s : State} {phase : Phase} {next : Option Phase} {shared : Shared}
    (held : Invariant s) (present : s.current = some phase)
    (move : Move true phase s.shared next shared) :
    Invariant { s with current := next, shared := shared } := by
  obtain ⟨lasts, reaped, counted, read, returned⟩ := held
  simp only [State.pending, present, Option.toList_some, pendingOf_append, List.mem_append]
    at counted read
  have step := move.counted (pendingOf s.stale) (by omega)
    (fun value stored => by have := read value (.inl (by simp [stored])); omega)
  refine ⟨move.stopLasts fun stopped => ?_, fun past => move.reaped (reaped past), ?_, ?_,
    fun count returning => (returned count returning).trans move.sent_le⟩
  · obtain ⟨child, phase', current, perturbing⟩ := lasts stopped
    exact ⟨child, Option.some.inj (present.symm.trans current) ▸ perturbing⟩
  · simp only [State.pending, pendingOf_append]
    omega
  · intro value mem
    simp only [State.pending, pendingOf_append, List.mem_append] at mem ⊢
    rcases mem with mine | theirs
    · obtain rfl := Option.mem_def.mp (Option.mem_toList.mp mine)
      have := step.2.1 value rfl
      omega
    · have := step.2.2 value (by have := read value (.inr theirs); omega)
      omega

/-- An earlier injector's step keeps the invariant. -/
theorem Invariant.stale {s : State} {before after : List Phase} {phase : Phase}
    {next : Option Phase} {shared : Shared} (held : Invariant s)
    (split : s.stale = before ++ phase :: after) (move : Move false phase s.shared next shared) :
    Invariant { s with stale := before ++ next.toList ++ after, shared := shared } := by
  obtain ⟨lasts, reaped, counted, read, returned⟩ := held
  have regrouped : pendingOf (phase :: after) = pendingOf [phase] + pendingOf after := by
    simp [Nat.add_comm]
  simp only [State.pending, split, pendingOf_append, regrouped, List.mem_append, List.mem_cons]
    at counted read
  have step := move.counted (pendingOf s.current.toList + pendingOf before + pendingOf after)
    (by omega)
    (fun value stored => by have := read value (.inr (.inr (.inl stored.symm))); omega)
  refine ⟨fun stopped => ?_, fun past => move.reaped (reaped past), ?_, ?_,
    fun count returning => (returned count returning).trans move.sent_le⟩
  · obtain ⟨earlier, child⟩ := move.stale_stopLasts (fun stopped => (lasts stopped).1) stopped
    exact ⟨child, (lasts earlier).2⟩
  · simp only [State.pending, pendingOf_append]
    omega
  · intro value mem
    simp only [State.pending, pendingOf_append, List.mem_append] at mem ⊢
    rcases mem with mine | (theirs | stored) | later
    · have := step.2.2 value (by have := read value (.inl mine); omega)
      omega
    · have := step.2.2 value (by have := read value (.inr (.inl theirs)); omega)
      omega
    · obtain rfl := Option.mem_def.mp (Option.mem_toList.mp stored)
      have := step.2.1 value rfl
      omega
    · have := step.2.2 value (by have := read value (.inr (.inr (.inr later))); omega)
      omega

/-- One step of any party keeps the invariant. -/
theorem Invariant.step {s t : State} (held : Invariant s) (step : Step s t) : Invariant t := by
  cases step with
  | external external => exact held.external external
  | wait waiting exited =>
    obtain ⟨lasts, -, counted, read, -⟩ := held
    exact ⟨fun stopped => absurd (lasts stopped).1 (by simp [exited]), fun _ => rfl, counted,
      read, nofun⟩
  | waitReaped waiting child =>
    obtain ⟨lasts, -, counted, read, -⟩ := held
    exact ⟨lasts, fun _ => child, counted, read, nofun⟩
  | join joining =>
    obtain ⟨lasts, reaped, counted, read, -⟩ := held
    refine ⟨lasts, fun _ => reaped (by simp [joining]), counted, read, ?_⟩
    rintro count ⟨⟩
    exact Nat.le_of_add_right_le counted
  | begin count returning =>
    obtain ⟨lasts, reaped, counted, read, -⟩ := held
    have child := reaped (by simp [returning])
    refine ⟨fun stopped => absurd (lasts stopped).1 (by simp [child]), nofun, ?_, ?_, nofun⟩
    · simpa [State.pending, Phase.counting] using counted
    · intro value mem
      simpa [State.pending, Phase.counting] using read value (by simpa using mem)
  | current present move => exact held.current present move
  | stale before after split move => exact held.stale split move

/-- Every interleaving keeps the invariant. -/
theorem reachable_invariant {s : State} (reached : Reachable s) : Invariant s := by
  induction reached with
  | refl => exact invariant_start
  | tail _ step held => exact held.step step

/-! ### The results -/

/-- In every interleaving the count, with the writes still pending, never exceeds the
`SIGSTOP`s the runner's threads have sent, over all its runs; so no count `run` returns
exceeds them.  Threads of earlier runs may count during a later one, and a `+= 1` whose
read was overtaken loses the updates in between, so the count can fall short. -/
theorem count_within_stops_sent {s : State} (reached : Reachable s) :
    s.shared.perturbations + s.pending ≤ s.shared.sent ∧
      ∀ count, s.caller = .returned count → count ≤ s.shared.sent :=
  have held := reachable_invariant reached
  ⟨held.counted, held.returned⟩

/-- The first run's injector stops its child and reads the count 0, and the run ends
before it writes; in the second run the new injector counts its own `SIGSTOP`, then the
first one writes 0 + 1 over it.  The second run returns 1 after two `SIGSTOP`s. -/
theorem count_within_stops_sent_lostUpdate :
    Reachable ⟨⟨.reaped, false, 1, 2⟩, some .polling, [.pausing], .returned 1⟩ ∧
      ((1 : Nat) + State.pending ⟨⟨.reaped, false, 1, 2⟩, some .polling, [.pausing],
          .returned 1⟩ ≤ 2 ∧
        ∀ count, Caller.returned 1 = .returned count → count ≤ 2) :=
  have firstRun : Reachable ⟨⟨.reaped, false, 0, 1⟩, some (.storing 0), [], .returned 0⟩ :=
    (((((((Relation.ReflTransGen.single
      (Step.current State.start rfl (Move.pollNone _ rfl (by decide)))).tail
      (Step.current _ rfl (Move.draw _))).tail
      (Step.current _ rfl (Move.stopChild _ (by decide)))).tail
      (Step.current _ rfl (Move.load _))).tail
      (Step.external _ (External.resume _ rfl))).tail
      (Step.external _ (External.exit _ rfl))).tail
      (Step.wait _ rfl rfl)).tail
      (Step.join _ rfl)
  have secondRun :
      Reachable ⟨⟨.reaped, false, 1, 2⟩, some .polling, [.pausing], .returned 1⟩ :=
    (((((((((((firstRun.tail (Step.begin _ 0 rfl)).tail
      (Step.current _ rfl (Move.pollNone _ rfl (by decide)))).tail
      (Step.current _ rfl (Move.draw _))).tail
      (Step.current _ rfl (Move.stopChild _ (by decide)))).tail
      (Step.current _ rfl (Move.load _))).tail
      (Step.current _ rfl (Move.store 0 _))).tail
      (Step.current _ rfl (Move.pause _))).tail
      (Step.current _ rfl (Move.resumeChild _ (by decide)))).tail
      (Step.stale _ [] [] rfl (Move.store 0 _))).tail
      (Step.external _ (External.exit _ rfl))).tail
      (Step.wait _ rfl rfl)).tail
      (Step.join _ rfl)
  ⟨secondRun, count_within_stops_sent secondRun⟩

end XinimTooling.ChaosRunner
