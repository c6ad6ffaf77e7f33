/-
Module: XinimTooling.AstDependencies.Strategy
Purpose: The Tree-sitter extraction functions of `scripts/generate_ast_dependencies.py`
  (lines 63-161, 199-206): `_strip_quotes`, the unguarded `_query_c_includes`, the four
  strategies whose query runs inside `try`, and `QUERY_DISPATCH`.  The Tree-sitter stage is
  an arbitrary `GrammarOutcome`, so the results below hold for every behaviour of it.
Trusted boundary: `tree_sitter_languages` is abstracted by `Externals.treeSitter`
Main exports: Externals, GrammarOutcome, ScriptError, stripQuotes, collectCaptures,
  queryCIncludes, queryGuarded, QueryStrategy, queryDispatch,
  CaptureQuery.token, QueryStrategy.empty_not_mem_fallback,
  QueryStrategy.run_eq_ok_iff_guardedResult, QueryStrategy.result_by_pass,
  QueryStrategy.result_by_captures
-/
import XinimTooling.AstDependencies.Fallback
import XinimTooling.Python.Text

namespace XinimTooling.AstDependencies

/-!
Every strategy runs `get_language`, `get_parser` and `parser.parse` first, outside any
handler.  `_query_c_includes` then compiles its query and decodes its captures, still
without a handler; the other four do that inside `try ... except Exception`, where the
handler appends the regex fallback's references to whatever was collected.  All five
finally run the fallback once more when nothing was collected.

The Tree-sitter stage is an input: for a language id, a query and the file's bytes it
either raises at one of its stages or yields captures, possibly raising partway through
the iteration.  Decoding a captured span is the script's own step, done by
`decodeStrict`.
-/

/-- The Tree-sitter calls that can raise before any capture is yielded. -/
inductive GrammarStage where
  | loadLanguage
  | buildParser
  | parseSource
  | compileQuery
deriving Repr, DecidableEq

/-- One item of `query.captures(tree.root_node)`: a node's byte span and the capture name. -/
structure Capture where
  startByte : Nat
  endByte : Nat
  name : String
deriving Repr, DecidableEq

/-- What the Tree-sitter stage does for one call of a strategy. -/
inductive GrammarOutcome where
  | raises (stage : GrammarStage)
  | captures (found : List Capture) (iterationRaises : Bool)
deriving Repr, DecidableEq

/-- What the script takes from outside the repository: Tree-sitter, as a function of the
language id, the query source and the file's bytes, and the Unicode word class of `re`. -/
structure Externals where
  treeSitter : String → String → List UInt8 → GrammarOutcome
  word : WordClass

/-- A Tree-sitter stage that answers every call with one outcome, over ASCII word
characters. -/
def Externals.constant (outcome : GrammarOutcome) : Externals :=
  ⟨fun _ _ _ => outcome, WordClass.ascii⟩

/-- The exceptions that can leave a strategy. -/
inductive ScriptError where
  | grammar (stage : GrammarStage)
  | captureIteration
  | unicodeDecode
deriving Repr, DecidableEq

/-- The statements before `try`: `get_language`, `get_parser`, `parser.parse`. -/
def GrammarOutcome.setup : GrammarOutcome → Except ScriptError Unit
  | .raises .compileQuery => .ok ()
  | .raises stage => .error (.grammar stage)
  | .captures _ _ => .ok ()

/-- `_strip_quotes`. -/
def stripQuotes (raw : String) : String :=
  match raw.data.head?, raw.data.getLast? with
  | some first, some last =>
      if 2 ≤ raw.length ∧ (first = doubleQuote ∨ first = singleQuote ∨ first = '<') ∧
          (last = first ∨ last = '>') then
        if (first = '<' ∧ last = '>') ∨ first = last then String.mk raw.data.tail.dropLast
        else raw
      else raw
  | _, _ => raw

/-- The constants that tell one strategy's query from another's. -/
structure CaptureQuery where
  source : String
  captureName : String
  stripsQuotes : Bool

/-- The loop over the captures: keep those of the capture name, each decoded strictly and,
if the strategy says so, passed through `_strip_quotes`.  It stops at the first
exception, returning what it collected before it and the exception. -/
def collectCaptures (query : CaptureQuery) (sourceBytes : List UInt8) :
    List Capture → Bool → List String × Option ScriptError
  | [], iterationRaises => ([], if iterationRaises then some .captureIteration else none)
  | capture :: rest, iterationRaises =>
      if capture.name = query.captureName then
        match decodeStrict (sliceBytes sourceBytes capture.startByte capture.endByte) with
        | none => ([], some .unicodeDecode)
        | some text =>
            let (tokens, raised) := collectCaptures query sourceBytes rest iterationRaises
            ((if query.stripsQuotes then stripQuotes text else text) :: tokens, raised)
      else collectCaptures query sourceBytes rest iterationRaises

/-- The grammar pass after the setup: `language.query(...)` and the capture loop. -/
def collectQuery (query : CaptureQuery) (sourceBytes : List UInt8) :
    GrammarOutcome → List String × Option ScriptError
  | .raises stage => ([], some (.grammar stage))
  | .captures found iterationRaises => collectCaptures query sourceBytes found iterationRaises

/-- One capture as the loop turns it into a token: the captured bytes decoded strictly and,
if the query says so, passed through `_strip_quotes`; `none` where `.decode()` raises. -/
def CaptureQuery.token (query : CaptureQuery) (sourceBytes : List UInt8) (capture : Capture) :
    Option String :=
  (decodeStrict (sliceBytes sourceBytes capture.startByte capture.endByte)).map fun text =>
    if query.stripsQuotes then stripQuotes text else text

/-- The captures the loop keeps, in capture order: those of the query's capture name. -/
def CaptureQuery.named (query : CaptureQuery) (found : List Capture) : List Capture :=
  found.filter fun capture => capture.name = query.captureName

section CollectCaptures

variable (query : CaptureQuery) (sourceBytes : List UInt8) (iterationRaises : Bool)

theorem collectCaptures_cons_of_ne {capture : Capture} (rest : List Capture)
    (other : capture.name ≠ query.captureName) :
    collectCaptures query sourceBytes (capture :: rest) iterationRaises =
      collectCaptures query sourceBytes rest iterationRaises :=
  if_neg other

theorem collectCaptures_cons_of_token {capture : Capture} {token : String} (rest : List Capture)
    (kept : capture.name = query.captureName)
    (decoded : query.token sourceBytes capture = some token) :
    collectCaptures query sourceBytes (capture :: rest) iterationRaises =
      (token :: (collectCaptures query sourceBytes rest iterationRaises).1,
        (collectCaptures query sourceBytes rest iterationRaises).2) := by
  simp only [CaptureQuery.token, Option.map_eq_some'] at decoded
  obtain ⟨text, decodes, rfl⟩ := decoded
  simp only [collectCaptures, if_pos kept, decodes]

theorem collectCaptures_cons_of_undecodable {capture : Capture} (rest : List Capture)
    (kept : capture.name = query.captureName)
    (undecodable : query.token sourceBytes capture = none) :
    collectCaptures query sourceBytes (capture :: rest) iterationRaises =
      ([], some .unicodeDecode) := by
  simp only [CaptureQuery.token, Option.map_eq_none'] at undecodable
  simp only [collectCaptures, if_pos kept, undecodable]

/-- Over a run of captures whose kept ones all decode, the loop collects their tokens in
capture order and goes on with the captures after it. -/
theorem collectCaptures_append_of_mapM (rest : List Capture) :
    ∀ {before : List Capture} {tokens : List String},
      (query.named before).mapM (query.token sourceBytes) = some tokens →
        collectCaptures query sourceBytes (before ++ rest) iterationRaises =
          (tokens ++ (collectCaptures query sourceBytes rest iterationRaises).1,
            (collectCaptures query sourceBytes rest iterationRaises).2)
  | [], tokens, decoded => by
      simp only [CaptureQuery.named, List.filter_nil, List.mapM_nil, pure,
        Option.some.injEq] at decoded
      rw [← decoded]
      rfl
  | first :: before, tokens, decoded => by
      rw [List.cons_append]
      by_cases kept : first.name = query.captureName
      · simp only [CaptureQuery.named, List.filter_cons, kept, decide_True, ite_true,
          List.mapM_cons, bind, Option.bind_eq_some, pure, Option.some.injEq] at decoded
        obtain ⟨token, firstToken, beforeTokens, decodedBefore, rfl⟩ := decoded
        rw [collectCaptures_cons_of_token query sourceBytes iterationRaises _ kept firstToken,
          collectCaptures_append_of_mapM rest decodedBefore]
        rfl
      · rw [collectCaptures_cons_of_ne query sourceBytes iterationRaises _ kept]
        exact collectCaptures_append_of_mapM rest
          (by simpa [CaptureQuery.named, kept] using decoded)

/-- When every kept capture decodes, the loop collects their tokens in capture order and
raises only what the iteration raises. -/
theorem collectCaptures_of_mapM {found : List Capture} {tokens : List String}
    (decoded : (query.named found).mapM (query.token sourceBytes) = some tokens) :
    collectCaptures query sourceBytes found iterationRaises =
      (tokens, if iterationRaises then some .captureIteration else none) := by
  simpa [collectCaptures] using
    collectCaptures_append_of_mapM query sourceBytes iterationRaises [] decoded

/-- At the first kept capture that does not decode, the loop stops with
`UnicodeDecodeError`, having collected the tokens of the kept captures before it. -/
theorem collectCaptures_of_undecodable {capture : Capture} (after : List Capture)
    (kept : capture.name = query.captureName)
    (undecodable : query.token sourceBytes capture = none) {before : List Capture}
    {tokens : List String}
    (decoded : (query.named before).mapM (query.token sourceBytes) = some tokens) :
    collectCaptures query sourceBytes (before ++ capture :: after) iterationRaises =
      (tokens, some .unicodeDecode) := by
  rw [collectCaptures_append_of_mapM query sourceBytes iterationRaises _ decoded,
    collectCaptures_cons_of_undecodable query sourceBytes iterationRaises after kept undecodable,
    List.append_nil]

end CollectCaptures

/-- The query of `_query_c_includes`. -/
def cIncludesQuery : CaptureQuery :=
  ⟨"(preproc_include path: [(string_literal) (system_lib_string)] @include)", "include", true⟩

/-- `_query_c_includes`: no handler anywhere, so a failing query or an undecodable
capture raises out of the strategy. -/
def queryCIncludes (externals : Externals) (sourceBytes : List UInt8) (languageId : String) :
    Except ScriptError (List String) := do
  let outcome := externals.treeSitter languageId cIncludesQuery.source sourceBytes
  outcome.setup
  let (includes, raised) := collectQuery cIncludesQuery sourceBytes outcome
  match raised with
  | some error => throw error
  | none =>
      pure (if includes.isEmpty then includes ++ regexCIncludes (decodeIgnore sourceBytes)
        else includes)

/-- The shape shared by `_query_python_imports`, `_query_bash_sources`,
`_query_lua_requires` and `_query_perl_uses`: the grammar pass inside `try`, its
handler appending the fallback, then the fallback again if nothing was collected. -/
def queryGuarded (query : CaptureQuery) (fallback : String → List String)
    (externals : Externals) (sourceBytes : List UInt8) (languageId : String) :
    Except ScriptError (List String) := do
  let outcome := externals.treeSitter languageId query.source sourceBytes
  outcome.setup
  let (modules, raised) := collectQuery query sourceBytes outcome
  let modules :=
    if raised.isSome then modules ++ fallback (decodeIgnore sourceBytes) else modules
  pure (if modules.isEmpty then modules ++ fallback (decodeIgnore sourceBytes) else modules)

/-- The query of `_query_python_imports`. -/
def pythonImportsQuery : CaptureQuery :=
  ⟨"(import_statement (dotted_name) @module)\n" ++
    "(import_from_statement module_name: (dotted_name) @module)", "module", false⟩

/-- `_query_python_imports`. -/
def queryPythonImports (externals : Externals) : List UInt8 → String →
    Except ScriptError (List String) :=
  queryGuarded pythonImportsQuery (regexPythonImports externals.word) externals

/-- The query of `_query_bash_sources`. -/
def bashSourcesQuery : CaptureQuery :=
  ⟨"((command name: (command_name) @cmd argument: (word) @path)" ++
    " (#match? @cmd \"source|\\.\"))", "path", false⟩

/-- `_query_bash_sources`. -/
def queryBashSources (externals : Externals) : List UInt8 → String →
    Except ScriptError (List String) :=
  queryGuarded bashSourcesQuery regexBashSources externals

/-- The query of `_query_lua_requires`. -/
def luaRequiresQuery : CaptureQuery :=
  ⟨"((function_call name: (identifier) @func arguments: (arguments (string) @mod))" ++
    " (#eq? @func \"require\"))", "mod", true⟩

/-- `_query_lua_requires`. -/
def queryLuaRequires (externals : Externals) : List UInt8 → String →
    Except ScriptError (List String) :=
  queryGuarded luaRequiresQuery regexLuaRequires externals

/-- The query of `_query_perl_uses`. -/
def perlUsesQuery : CaptureQuery :=
  ⟨"((use_statement module: (scoped_identifier) @module))", "module", false⟩

/-- `_query_perl_uses`. -/
def queryPerlUses (externals : Externals) : List UInt8 → String →
    Except ScriptError (List String) :=
  queryGuarded perlUsesQuery (regexPerlUses externals.word) externals

/-- The extraction functions that `QUERY_DISPATCH` refers to. -/
inductive QueryStrategy where
  | cIncludes
  | pythonImports
  | bashSources
  | luaRequires
  | perlUses
deriving Repr, DecidableEq

/-- `QUERY_DISPATCH`. -/
def queryDispatch : String → Option QueryStrategy
  | "c" => some .cIncludes
  | "cpp" => some .cIncludes
  | "python" => some .pythonImports
  | "bash" => some .bashSources
  | "lua" => some .luaRequires
  | "perl" => some .perlUses
  | _ => none

namespace QueryStrategy

/-- Call the extraction function. -/
def run (externals : Externals) : QueryStrategy → List UInt8 → String →
    Except ScriptError (List String)
  | .cIncludes => queryCIncludes externals
  | .pythonImports => queryPythonImports externals
  | .bashSources => queryBashSources externals
  | .luaRequires => queryLuaRequires externals
  | .perlUses => queryPerlUses externals

/-- The function's query constants. -/
def captureQuery : QueryStrategy → CaptureQuery
  | .cIncludes => cIncludesQuery
  | .pythonImports => pythonImportsQuery
  | .bashSources => bashSourcesQuery
  | .luaRequires => luaRequiresQuery
  | .perlUses => perlUsesQuery

/-- The function's regex fallback. -/
def fallback (externals : Externals) : QueryStrategy → String → List String
  | .cIncludes => regexCIncludes
  | .pythonImports => regexPythonImports externals.word
  | .bashSources => regexBashSources
  | .luaRequires => regexLuaRequires
  | .perlUses => regexPerlUses externals.word

/-- Whether the grammar pass runs inside `try`: all but `_query_c_includes`. -/
def guarded : QueryStrategy → Bool
  | .cIncludes => false
  | _ => true

/-- No regex fallback returns an empty reference: each pattern's group matches at least one
character, and `_regex_python_imports` also checks `if module:`. -/
theorem empty_not_mem_fallback (externals : Externals) (strategy : QueryStrategy)
    (text : String) : "" ∉ strategy.fallback externals text := by
  cases strategy
  case cIncludes =>
    exact fun mem => forall_mem_findIter (fun _ _ _ _ => cIncludeAttempt_ne_empty) text _ mem rfl
  case pythonImports => simp [fallback, regexPythonImports]
  case bashSources =>
    exact fun mem => forall_mem_findIter (fun _ _ _ _ => bashSourceAttempt_ne_empty) text _ mem rfl
  case luaRequires =>
    exact fun mem => forall_mem_findIter (fun _ _ _ _ => luaRequireAttempt_ne_empty) text _ mem rfl
  case perlUses =>
    exact fun mem => forall_mem_findIter (fun _ _ _ _ => perlUseAttempt_ne_empty) text _ mem rfl

theorem run_eq_queryGuarded (externals : Externals) :
    ∀ {strategy : QueryStrategy}, strategy.guarded = true →
      strategy.run externals =
        queryGuarded strategy.captureQuery (strategy.fallback externals) externals
  | .pythonImports, _ | .bashSources, _ | .luaRequires, _ | .perlUses, _ => rfl

end QueryStrategy

/-! ### What a strategy returns -/

/-- What a guarded strategy returns once its setup has succeeded, from the grammar pass:
after an exception, what was collected followed by the fallback's references; otherwise
what was collected, or the fallback's references when that is nothing. -/
def guardedResult (pass : List String × Option ScriptError) (fallbackReferences : List String) :
    List String :=
  match pass.2 with
  | some _ => pass.1 ++ fallbackReferences
  | none => if pass.1 = [] then fallbackReferences else pass.1

/-- What `_query_c_includes` does once its setup has succeeded: raise what the pass
raised, or return what was collected, or the fallback's references when that is
nothing. -/
def unguardedResult (pass : List String × Option ScriptError)
    (fallbackReferences : List String) : Except ScriptError (List String) :=
  match pass.2 with
  | some error => .error error
  | none => .ok (if pass.1 = [] then fallbackReferences else pass.1)

theorem queryGuarded_eq (query : CaptureQuery) (fallback : String → List String)
    (externals : Externals) (sourceBytes : List UInt8) (languageId : String) :
    queryGuarded query fallback externals sourceBytes languageId =
      (externals.treeSitter languageId query.source sourceBytes).setup.map fun _ =>
        guardedResult (collectQuery query sourceBytes
            (externals.treeSitter languageId query.source sourceBytes))
          (fallback (decodeIgnore sourceBytes)) := by
  simp only [queryGuarded]
  generalize externals.treeSitter languageId query.source sourceBytes = outcome
  cases outcome.setup with
  | error error => rfl
  | ok _ =>
      rcases collectQuery query sourceBytes outcome with ⟨tokens, _ | _⟩
      · cases tokens <;> rfl
      · show Except.ok _ = Except.ok _
        cases tokens <;> simp [guardedResult]

theorem queryCIncludes_eq (externals : Externals) (sourceBytes : List UInt8)
    (languageId : String) :
    queryCIncludes externals sourceBytes languageId =
      (externals.treeSitter languageId cIncludesQuery.source sourceBytes).setup.bind fun _ =>
        unguardedResult (collectQuery cIncludesQuery sourceBytes
            (externals.treeSitter languageId cIncludesQuery.source sourceBytes))
          (regexCIncludes (decodeIgnore sourceBytes)) := by
  simp only [queryCIncludes]
  generalize externals.treeSitter languageId cIncludesQuery.source sourceBytes = outcome
  cases outcome.setup with
  | error error => rfl
  | ok _ =>
      rcases collectQuery cIncludesQuery sourceBytes outcome with ⟨tokens, _ | _⟩
      · cases tokens <;> rfl
      · rfl

namespace QueryStrategy

/-- The grammar pass of a strategy on a file: what its capture loop collected, and the
exception that stopped it, if any. -/
def pass (externals : Externals) (strategy : QueryStrategy) (sourceBytes : List UInt8)
    (languageId : String) : List String × Option ScriptError :=
  collectQuery strategy.captureQuery sourceBytes
    (externals.treeSitter languageId strategy.captureQuery.source sourceBytes)

/-- The setup of a strategy on a file: `get_language`, `get_parser`, `parser.parse`. -/
def setup (externals : Externals) (strategy : QueryStrategy) (sourceBytes : List UInt8)
    (languageId : String) : Except ScriptError Unit :=
  (externals.treeSitter languageId strategy.captureQuery.source sourceBytes).setup

theorem run_of_guarded (externals : Externals) {strategy : QueryStrategy}
    (guarded : strategy.guarded = true) (sourceBytes : List UInt8) (languageId : String) :
    strategy.run externals sourceBytes languageId =
      (strategy.setup externals sourceBytes languageId).map fun _ =>
        guardedResult (strategy.pass externals sourceBytes languageId)
          (strategy.fallback externals (decodeIgnore sourceBytes)) := by
  rw [run_eq_queryGuarded externals guarded, queryGuarded_eq]
  rfl

theorem run_cIncludes (externals : Externals) (sourceBytes : List UInt8)
    (languageId : String) :
    cIncludes.run externals sourceBytes languageId =
      (cIncludes.setup externals sourceBytes languageId).bind fun _ =>
        unguardedResult (cIncludes.pass externals sourceBytes languageId)
          (cIncludes.fallback externals (decodeIgnore sourceBytes)) :=
  queryCIncludes_eq externals sourceBytes languageId

theorem eq_cIncludes_of_not_guarded {strategy : QueryStrategy}
    (unguarded : strategy.guarded = false) : strategy = .cIncludes := by
  cases strategy <;> simp_all [guarded]

/-- When a strategy returns, and what: it returns exactly when its setup succeeds and, for
`_query_c_includes`, its grammar pass raises nothing, and it then returns the guarded
result of the pass. -/
theorem run_eq_ok_iff_guardedResult (externals : Externals) (strategy : QueryStrategy)
    (sourceBytes : List UInt8) (languageId : String) (result : List String) :
    strategy.run externals sourceBytes languageId = .ok result ↔
      strategy.setup externals sourceBytes languageId = .ok () ∧
        (strategy.guarded = true ∨ (strategy.pass externals sourceBytes languageId).2 = none) ∧
          result = guardedResult (strategy.pass externals sourceBytes languageId)
            (strategy.fallback externals (decodeIgnore sourceBytes)) := by
  cases guarded : strategy.guarded
  · obtain rfl := eq_cIncludes_of_not_guarded guarded
    rw [run_cIncludes]
    cases cIncludes.setup externals sourceBytes languageId with
    | error error => simp [Except.bind]
    | ok _ =>
        rcases cIncludes.pass externals sourceBytes languageId with ⟨_, _ | _⟩ <;>
          simp [Except.bind, unguardedResult, guardedResult, eq_comm]
  · rw [run_of_guarded externals guarded]
    cases strategy.setup externals sourceBytes languageId <;> simp [Except.map, eq_comm]

/-- How a strategy's result follows from its grammar pass: the collected tokens when the
pass completed with some; the fallback's references when it completed with none; and,
when it raised inside the handled region, the tokens collected before the exception
followed by the fallback's references. -/
structure ResultFixedByPass (pass : List String × Option ScriptError)
    (fallbackReferences : List String) (guarded : Bool) (result : List String) : Prop where
  completedWithTokens : pass.2 = none → pass.1 ≠ [] → result = pass.1
  completedEmpty : pass.2 = none → pass.1 = [] → result = fallbackReferences
  raisedHandled : pass.2.isSome → guarded = true ∧ result = pass.1 ++ fallbackReferences

/-- Whenever a strategy returns, its result is fixed by its grammar pass. -/
theorem result_by_pass (externals : Externals) (strategy : QueryStrategy)
    (sourceBytes : List UInt8) (languageId : String) (result : List String)
    (returned : strategy.run externals sourceBytes languageId = .ok result) :
    ResultFixedByPass (strategy.pass externals sourceBytes languageId)
      (strategy.fallback externals (decodeIgnore sourceBytes)) strategy.guarded result := by
  obtain ⟨-, allowed, rfl⟩ := (run_eq_ok_iff_guardedResult _ _ _ _ _).mp returned
  revert allowed
  rcases strategy.pass externals sourceBytes languageId with ⟨tokens, _ | _⟩ <;> intro allowed
  · exact ⟨fun _ nonEmpty => if_neg nonEmpty, fun _ empty => if_pos empty, by simp⟩
  · exact ⟨by simp, by simp, fun _ => ⟨allowed.resolve_right (by simp), rfl⟩⟩

/-! ### The result in terms of the captures -/

/-- The token a capture should give, in the words of the specification: its bytes decoded
strictly, with the delimiters stripped by `_strip_quotes` for C/C++ and Lua. -/
def expectedToken (strategy : QueryStrategy) (sourceBytes : List UInt8) (capture : Capture) :
    Option String :=
  (decodeStrict (sliceBytes sourceBytes capture.startByte capture.endByte)).map fun text =>
    if strategy = .cIncludes ∨ strategy = .luaRequires then stripQuotes text else text

theorem captureQuery_token (strategy : QueryStrategy) (sourceBytes : List UInt8) :
    strategy.captureQuery.token sourceBytes = strategy.expectedToken sourceBytes := by
  cases strategy <;> rfl

/-- The result in the three cases of the specification, over what Tree-sitter yields for
the strategy's query: the captures `found`, in capture order, of which the loop keeps
those of the strategy's capture name.  The pass completes when the iteration ends without
raising and every kept capture decodes; it raises inside the handled region when the query
fails to compile, when a kept capture does not decode (after the kept captures `before` it
decoded), or when the iteration raises after yielding `found`. -/
structure ResultFixedByCaptures (externals : Externals) (strategy : QueryStrategy)
    (sourceBytes : List UInt8) (languageId : String) (result : List String) : Prop where
  completedWithTokens : ∀ found tokens,
    externals.treeSitter languageId strategy.captureQuery.source sourceBytes =
        .captures found false →
      (strategy.captureQuery.named found).mapM (strategy.expectedToken sourceBytes) =
        some tokens →
      tokens ≠ [] → result = tokens
  completedEmpty : ∀ found,
    externals.treeSitter languageId strategy.captureQuery.source sourceBytes =
        .captures found false →
      strategy.captureQuery.named found = [] →
      result = strategy.fallback externals (decodeIgnore sourceBytes)
  raisedAtQuery :
    externals.treeSitter languageId strategy.captureQuery.source sourceBytes =
        .raises .compileQuery →
      strategy.guarded = true ∧ result = strategy.fallback externals (decodeIgnore sourceBytes)
  raisedAtDecode : ∀ iterationRaises before capture after tokens,
    externals.treeSitter languageId strategy.captureQuery.source sourceBytes =
        .captures (before ++ capture :: after) iterationRaises →
      capture.name = strategy.captureQuery.captureName →
      strategy.expectedToken sourceBytes capture = none →
      (strategy.captureQuery.named before).mapM (strategy.expectedToken sourceBytes) =
        some tokens →
      strategy.guarded = true ∧
        result = tokens ++ strategy.fallback externals (decodeIgnore sourceBytes)
  raisedInIteration : ∀ found tokens,
    externals.treeSitter languageId strategy.captureQuery.source sourceBytes =
        .captures found true →
      (strategy.captureQuery.named found).mapM (strategy.expectedToken sourceBytes) =
        some tokens →
      strategy.guarded = true ∧
        result = tokens ++ strategy.fallback externals (decodeIgnore sourceBytes)

/-- Whenever a strategy returns, its result is, by the case the captures fall in: the
kept captures' tokens, the fallback's references, or the tokens decoded before the
exception followed by the fallback's references. -/
theorem result_by_captures (externals : Externals) (strategy : QueryStrategy)
    (sourceBytes : List UInt8) (languageId : String) (result : List String)
    (returned : strategy.run externals sourceBytes languageId = .ok result) :
    ResultFixedByCaptures externals strategy sourceBytes languageId result := by
  have fixed := result_by_pass externals strategy sourceBytes languageId result returned
  rw [pass] at fixed
  constructor
  case completedWithTokens =>
    intro found tokens yields decoded nonEmpty
    rw [← captureQuery_token] at decoded
    rw [yields, collectQuery, collectCaptures_of_mapM _ _ false decoded] at fixed
    exact fixed.completedWithTokens rfl nonEmpty
  case completedEmpty =>
    intro found yields empty
    have decoded : (strategy.captureQuery.named found).mapM
        (strategy.captureQuery.token sourceBytes) = some [] := by rw [empty]; rfl
    rw [yields, collectQuery, collectCaptures_of_mapM _ _ false decoded] at fixed
    exact fixed.completedEmpty rfl rfl
  case raisedAtQuery =>
    intro yields
    rw [yields, collectQuery] at fixed
    exact fixed.raisedHandled rfl
  case raisedAtDecode =>
    intro iterationRaises before capture after tokens yields kept undecodable decoded
    rw [← captureQuery_token] at undecodable decoded
    rw [yields, collectQuery,
      collectCaptures_of_undecodable _ _ iterationRaises after kept undecodable decoded] at fixed
    exact fixed.raisedHandled rfl
  case raisedInIteration =>
    intro found tokens yields decoded
    rw [← captureQuery_token] at decoded
    rw [yields, collectQuery, collectCaptures_of_mapM _ _ true decoded] at fixed
    exact fixed.raisedHandled rfl

theorem result_by_captures_luaRequire :
    luaRequires.run (.constant (.captures [⟨0, 7, "func"⟩, ⟨8, 11, "mod"⟩] false))
        "require(\"m\")\n".toUTF8.data.toList "lua" = .ok ["m"] ∧
      ResultFixedByCaptures (.constant (.captures [⟨0, 7, "func"⟩, ⟨8, 11, "mod"⟩] false))
        luaRequires "require(\"m\")\n".toUTF8.data.toList "lua" ["m"] :=
  ⟨rfl, result_by_captures (.constant (.captures [⟨0, 7, "func"⟩, ⟨8, 11, "mod"⟩] false))
    luaRequires "require(\"m\")\n".toUTF8.data.toList "lua" ["m"] rfl⟩

end QueryStrategy

end XinimTooling.AstDependencies
