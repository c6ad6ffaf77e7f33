/-
Module: XinimTooling.Tools.RepoInventory
Purpose: `tools/repo_inventory.py`: `RepositoryInventory.scan_directory`, `analyze_file`,
  `is_text_file`, `count_lines`, `walk_inventory` and the text `generate_report` prints.
  The scan is a state machine over `stats` and `issues`; it stops at the first directory
  it cannot list, and otherwise its counters are counts and sums over the files it
  reaches, so the report is a function of those files alone.
Trusted boundary: `iterdir`, `is_file` and `is_dir`, given as a finite tree of entries in
  the order `iterdir` yields them, a directory that cannot be listed raising; the size
  `stat` gives, or the text of its exception; reading a file as in
  `XinimTooling.Python.Text`; `str.lower` as a parameter fixed on ASCII; the time and the
  resolved root as inputs; the total size below `2 ^ 53` bytes, where the float division
  is exact; `save_json` and `main` are left out
Main exports: Entry, Item, Inventory, analyzeFile, scanDirectory, walkInventory, Tally,
  Inventory.tally, analyzeFile_spec, scanDirectory_run, summarize, generateReport,
  generateReport_eq_report, componentRows
-/
import XinimTooling.AstDependencies.Scan
import XinimTooling.Tools.AsciiTree
import XinimTooling.Python.Format
import XinimTooling.Python.Sorted
import XinimTooling.Python.Text

namespace XinimTooling.RepoInventory

open AstDependencies (nameSuffix)

/-!
The object's state is `stats`, a `defaultdict(int)`, and `issues`.  `analyze_file` is the
only method that changes them, and what it adds can be read off the dict it returns, so the
abstraction `Inventory.tally` turns the scan into a fold of `Tally.record` over the files it
reaches (`scanDirectory_run`).  `summarize` is that fold in closed form, and
`generateReport_eq_report` puts the pieces together for the printed report.
-/

/-- What `iterdir` yields in a directory, as `is_file` and `is_dir` see it: a regular file,
with the size `stat` gives or its exception's text, and its bytes, or `none` where opening
it fails; a directory, with its entries, or `none` where listing it raises; or anything
else. -/
inductive Entry where
  | file (name : String) (size : Except String Nat) (contents : Option (List UInt8))
  | directory (name : String) (entries : Option (List Entry))
  | other (name : String)

/-- The name `iterdir` gives the entry. -/
def Entry.name : Entry → String
  | .file name .. => name
  | .directory name _ => name
  | .other name => name

/-- The dicts `scan_directory` collects: a file's, one for a file whose `stat` raised, and a
directory's. -/
inductive Item where
  | file (name path extension : String) (size lines : Nat)
  | fileError (name path error : String)
  | directory (name path : String) (contents : List Item)
deriving Repr

/-- `item['path']`. -/
def Item.path : Item → String
  | .file _ path .. => path
  | .fileError _ path _ => path
  | .directory _ path _ => path

/-- `str.lower`, which needs the Unicode database: a parameter, pinned down on ASCII. -/
structure CaseMap where
  lower : List Char → List Char
  agrees_on_ascii : ∀ text : List Char, (∀ c ∈ text, c.toNat < 128) →
    lower text = text.map Char.toLower

/-- The object's `stats`, a `defaultdict(int)`, and `issues`. -/
structure Inventory where
  stats : PyDict Nat
  issues : List String

/-- `RepositoryInventory.__init__`. -/
def Inventory.initial : Inventory := ⟨PyDict.empty, []⟩

/-- `self.stats[key] += amount`. -/
def Inventory.add (state : Inventory) (key : String) (amount : Nat) : Inventory :=
  { state with stats := state.stats.modify key 0 (· + amount) }

/-- `self.issues.append(issue)`. -/
def Inventory.report (state : Inventory) (issue : String) : Inventory :=
  { state with issues := state.issues ++ [issue] }

/-- The words whose presence in a lowered file name `analyze_file` reports. -/
def jargonTerms : List String :=
  ["synthesis", "transcendent", "omnipotent", "revolutionary", "quantum"]

/-- `is_text_file`, on the file's suffix. -/
def isTextFile (extension : String) : Bool :=
  extension ∈ [".cpp", ".c", ".hpp", ".h", ".py", ".sh", ".lua", ".md", ".txt", ".cmake",
    ".json", ".yml", ".yaml"]

/-- `count_lines`: the lines read, added to `total_lines`; an exception gives `0` and adds
nothing. -/
def countLines (state : Inventory) : Option (List UInt8) → Nat × Inventory
  | some bytes =>
      let lines := (readLinesIgnore bytes).length
      (lines, state.add "total_lines" lines)
  | none => (0, state)

/-- `' 2.' in file_path.name`. -/
def isDuplicate (name : String) : Bool := Str.contains " 2.".toList name.toList

/-- `any(term in file_path.name.lower() for term in [...])`. -/
def isJargon (caseMap : CaseMap) (name : String) : Bool :=
  jargonTerms.any fun term => Str.contains term.toList (caseMap.lower name.toList)

/-- The checks of `analyze_file` on the name: the issues found and the state after them. -/
def checkName (caseMap : CaseMap) (state : Inventory) (name path : String) : Inventory :=
  let state := if isDuplicate name then
      (state.report ("Duplicate file pattern: " ++ path)).add "duplicate_files" 1
    else state
  if isJargon caseMap name then
    (state.report ("AI jargon in filename: " ++ path)).add "jargon_files" 1
  else state

/-- `analyze_file(file_path)` for a file named `name` at `path` relative to the root. -/
def analyzeFile (caseMap : CaseMap) (state : Inventory) (name path : String)
    (size : Except String Nat) (contents : Option (List UInt8)) : Item × Inventory :=
  let extension := nameSuffix name
  let state := (state.add "total_files" 1).add ("files_" ++ extension) 1
  let state := checkName caseMap state name path
  match size with
  | .ok size =>
      let state := state.add "total_size" size
      let (lines, state) := if isTextFile extension then countLines state contents else (0, state)
      (.file name path extension size lines, state)
  | .error message =>
      (.fileError name path message, state.report ("Error reading " ++ path ++ ": " ++ message))

/-- The names `scan_directory` passes over. -/
def skipped (name : String) : Bool :=
  name.toList.head? = some '.' || name ∈ ["build", "cleanup_backups", ".xmake"]

/-- `str(item.relative_to(self.root))` of an entry of the directory at `parent`, `none` for
the root. -/
def childPath : Option String → String → String
  | none, name => name
  | some parent, name => parent ++ "/" ++ name

mutual

/-- `scan_directory(directory)` on the entries `iterdir` yields, from the directory at
`parent`: the dicts collected, and the state after them, or the path of a directory whose
listing raised. -/
def scanDirectory (caseMap : CaseMap) (parent : Option String) :
    List Entry → Inventory → Except String (List Item × Inventory)
  | [], state => .ok ([], state)
  | entry :: entries, state =>
      match scanEntry caseMap parent entry state with
      | .error path => .error path
      | .ok (found, state) =>
          match scanDirectory caseMap parent entries state with
          | .error path => .error path
          | .ok (items, state) => .ok (found.toList ++ items, state)

/-- One pass of the loop of `scan_directory`. -/
def scanEntry (caseMap : CaseMap) (parent : Option String) :
    Entry → Inventory → Except String (Option Item × Inventory)
  | .file name size contents, state =>
      if skipped name then .ok (none, state)
      else
        let (item, state) := analyzeFile caseMap state name (childPath parent name) size contents
        .ok (some item, state)
  | .directory name entries, state =>
      if skipped name then .ok (none, state)
      else match entries with
        | none => .error (childPath parent name)
        | some entries =>
            match scanDirectory caseMap (some (childPath parent name)) entries state with
            | .error path => .error path
            | .ok (contents, state) =>
                .ok (some (.directory name (childPath parent name) contents), state)
  | .other _, state => .ok (none, state)

end

mutual

/-- `walk_inventory` on one dict: a file's dict, or those under a directory. -/
def walkItem : Item → List Item
  | .file name path extension size lines => [.file name path extension size lines]
  | .fileError name path error => [.fileError name path error]
  | .directory _ _ contents => walkInventory contents

/-- `walk_inventory(items)`. -/
def walkInventory : List Item → List Item
  | [] => []
  | item :: items => walkItem item ++ walkInventory items

end

/-! ### The counters

`generate_report` reads `stats` under six kinds of key: `total_files`, one `files_` key per
suffix, `duplicate_files`, `jargon_files`, `total_size` and `total_lines`.  No `files_` key
is one of the other five, so each counter moves on its own, and what one file adds to them
can be read off the dict `analyze_file` returns for it.
-/

/-- What `generate_report` reads of the state: the counters of `stats`, those under the
`files_` keys by suffix, the suffixes in the order their keys entered `stats`, and
`issues`. -/
@[ext] structure Tally where
  totalFiles : Nat
  byExtension : String → Nat
  extensions : List String
  duplicateFiles : Nat
  jargonFiles : Nat
  totalSize : Nat
  totalLines : Nat
  issues : List String

/-- The suffix a `files_` key counts. -/
def filesSuffix (key : String) : Option String :=
  if Str.startsWith "files_".toList key.toList then some (String.mk (key.toList.drop 6)) else none

/-- The counters a state holds. -/
def Inventory.tally (state : Inventory) : Tally where
  totalFiles := state.stats.getD "total_files" 0
  byExtension extension := state.stats.getD ("files_" ++ extension) 0
  extensions := state.stats.keys.filterMap filesSuffix
  duplicateFiles := state.stats.getD "duplicate_files" 0
  jargonFiles := state.stats.getD "jargon_files" 0
  totalSize := state.stats.getD "total_size" 0
  totalLines := state.stats.getD "total_lines" 0
  issues := state.issues

/-- The issues a file's name raises. -/
def nameIssues (caseMap : CaseMap) (name path : String) : List String :=
  (if isDuplicate name then ["Duplicate file pattern: " ++ path] else []) ++
    if isJargon caseMap name then ["AI jargon in filename: " ++ path] else []

/-- What a file named `name` at `path` adds to the counters, whatever `stat` gives. -/
def Tally.countName (caseMap : CaseMap) (tally : Tally) (name path : String) : Tally :=
  { tally with
    totalFiles := tally.totalFiles + 1
    byExtension := fun extension =>
      tally.byExtension extension + if extension = nameSuffix name then 1 else 0
    extensions := if nameSuffix name ∈ tally.extensions then tally.extensions
      else tally.extensions ++ [nameSuffix name]
    duplicateFiles := tally.duplicateFiles + if isDuplicate name then 1 else 0
    jargonFiles := tally.jargonFiles + if isJargon caseMap name then 1 else 0
    issues := tally.issues ++ nameIssues caseMap name path }

/-- What the dict of one file adds to the counters. -/
def Tally.record (caseMap : CaseMap) (tally : Tally) : Item → Tally
  | .file name path _ size lines =>
      let tally := tally.countName caseMap name path
      { tally with totalSize := tally.totalSize + size, totalLines := tally.totalLines + lines }
  | .fileError name path error =>
      let tally := tally.countName caseMap name path
      { tally with issues := tally.issues ++ ["Error reading " ++ path ++ ": " ++ error] }
  | .directory .. => tally

@[simp] theorem stats_getD_add (state : Inventory) (key query : String) (amount : Nat) :
    (state.add key amount).stats.getD query 0 =
      state.stats.getD query 0 + if query = key then amount else 0 := by
  by_cases same : query = key <;> simp [Inventory.add, same, PyDict.getD]

theorem keys_add (state : Inventory) (key : String) (amount : Nat) :
    (state.add key amount).stats.keys =
      if key ∈ state.stats.keys then state.stats.keys else state.stats.keys ++ [key] :=
  PyDict.keys_modify _ _ _ _

@[simp] theorem issues_add (state : Inventory) (key : String) (amount : Nat) :
    (state.add key amount).issues = state.issues := rfl

@[simp] theorem stats_report (state : Inventory) (issue : String) :
    (state.report issue).stats = state.stats := rfl

@[simp] theorem issues_report (state : Inventory) (issue : String) :
    (state.report issue).issues = state.issues ++ [issue] := rfl

/-- A `files_` key is none of the other counters' keys. -/
theorem files_key_ne (extension : String) {key : String} (other : key.data.head? ≠ some 'f') :
    "files_" ++ extension ≠ key :=
  fun same => other (by rw [← same]; rfl)

/-- The other counters' keys, none of which is a `files_` key. -/
@[simp] theorem counter_keys_ne_files (extension : String) :
    "total_files" ≠ "files_" ++ extension ∧ "duplicate_files" ≠ "files_" ++ extension ∧
      "jargon_files" ≠ "files_" ++ extension ∧ "total_size" ≠ "files_" ++ extension ∧
      "total_lines" ≠ "files_" ++ extension :=
  ⟨(files_key_ne _ (by decide)).symm, (files_key_ne _ (by decide)).symm,
    (files_key_ne _ (by decide)).symm, (files_key_ne _ (by decide)).symm,
    (files_key_ne _ (by decide)).symm⟩

@[simp] theorem files_key_ne_counters (extension : String) :
    "files_" ++ extension ≠ "total_files" ∧ "files_" ++ extension ≠ "duplicate_files" ∧
      "files_" ++ extension ≠ "jargon_files" ∧ "files_" ++ extension ≠ "total_size" ∧
      "files_" ++ extension ≠ "total_lines" :=
  let ⟨files, duplicate, jargon, size, lines⟩ := counter_keys_ne_files extension
  ⟨files.symm, duplicate.symm, jargon.symm, size.symm, lines.symm⟩

@[simp] theorem files_key_inj (first second : String) :
    "files_" ++ first = "files_" ++ second ↔ first = second :=
  ⟨fun same => String.ext (List.append_cancel_left (congrArg String.data same)),
    congrArg _⟩

theorem filesSuffix_eq_some_iff (key extension : String) :
    filesSuffix key = some extension ↔ key = "files_" ++ extension := by
  unfold filesSuffix Str.startsWith
  constructor
  · intro found
    split at found
    · next starts =>
      obtain ⟨rest, split⟩ := of_decide_eq_true starts
      cases found
      refine String.ext ?_
      simp only [String.toList] at split ⊢
      rw [String.data_append, ← split]
      rfl
    · cases found
  · rintro rfl
    rw [if_pos (decide_eq_true ⟨extension.data, rfl⟩)]
    rfl

@[simp] theorem filesSuffix_files (extension : String) :
    filesSuffix ("files_" ++ extension) = some extension :=
  (filesSuffix_eq_some_iff _ _).mpr rfl

/-- The other counters' keys count no suffix. -/
@[simp] theorem filesSuffix_counters :
    filesSuffix "total_files" = none ∧ filesSuffix "duplicate_files" = none ∧
      filesSuffix "jargon_files" = none ∧ filesSuffix "total_size" = none ∧
      filesSuffix "total_lines" = none := by
  decide

@[simp] theorem extensions_add_other (state : Inventory) {key : String} (amount : Nat)
    (other : filesSuffix key = none) :
    (state.add key amount).stats.keys.filterMap filesSuffix =
      state.stats.keys.filterMap filesSuffix := by
  rw [keys_add]
  split <;> simp [other]

theorem mem_extensions (state : Inventory) (extension : String) :
    extension ∈ state.tally.extensions ↔ "files_" ++ extension ∈ state.stats.keys := by
  simp only [Inventory.tally, List.mem_filterMap, filesSuffix_eq_some_iff]
  exact ⟨fun ⟨_, mem, same⟩ => same ▸ mem, fun mem => ⟨_, mem, rfl⟩⟩

theorem extensions_add_files (state : Inventory) (extension : String) (amount : Nat) :
    (state.add ("files_" ++ extension) amount).stats.keys.filterMap filesSuffix =
      if extension ∈ state.tally.extensions then state.tally.extensions
      else state.tally.extensions ++ [extension] := by
  rw [keys_add]
  by_cases held : "files_" ++ extension ∈ state.stats.keys
  · rw [if_pos held, if_pos ((mem_extensions state extension).mpr held)]
    rfl
  · rw [if_neg held, if_neg (mt (mem_extensions state extension).mp held), List.filterMap_append]
    simp [Inventory.tally]

@[simp] theorem tally_report (state : Inventory) (issue : String) :
    (state.report issue).tally = { state.tally with issues := state.tally.issues ++ [issue] } :=
  rfl

theorem tally_add_files (state : Inventory) (extension : String) :
    ((state.add "total_files" 1).add ("files_" ++ extension) 1).tally =
      { state.tally with
        totalFiles := state.tally.totalFiles + 1
        byExtension := fun other =>
          state.tally.byExtension other + if other = extension then 1 else 0
        extensions := if extension ∈ state.tally.extensions then state.tally.extensions
          else state.tally.extensions ++ [extension] } := by
  apply Tally.ext <;> try funext
  all_goals simp [Inventory.tally, extensions_add_files]

theorem tally_add_totalSize (state : Inventory) (size : Nat) :
    (state.add "total_size" size).tally =
      { state.tally with totalSize := state.tally.totalSize + size } := by
  apply Tally.ext <;> try funext
  all_goals simp [Inventory.tally]

theorem tally_add_totalLines (state : Inventory) (lines : Nat) :
    (state.add "total_lines" lines).tally =
      { state.tally with totalLines := state.tally.totalLines + lines } := by
  apply Tally.ext <;> try funext
  all_goals simp [Inventory.tally]

theorem tally_checkName (caseMap : CaseMap) (state : Inventory) (name path : String) :
    (checkName caseMap state name path).tally =
      { state.tally with
        duplicateFiles := state.tally.duplicateFiles + if isDuplicate name then 1 else 0
        jargonFiles := state.tally.jargonFiles + if isJargon caseMap name then 1 else 0
        issues := state.tally.issues ++ nameIssues caseMap name path } := by
  unfold checkName nameIssues
  by_cases duplicate : isDuplicate name <;> by_cases jargon : isJargon caseMap name <;>
    apply Tally.ext <;> (try funext) <;> simp [Inventory.tally, duplicate, jargon]

/-- The dict `analyze_file` returns for a file, which depends on the file alone. -/
def fileItem (name path : String) (size : Except String Nat) (contents : Option (List UInt8)) :
    Item :=
  match size with
  | .ok size =>
      .file name path (nameSuffix name) size
        (if isTextFile (nameSuffix name) then
          (contents.map fun bytes => (readLinesIgnore bytes).length).getD 0
        else 0)
  | .error message => .fileError name path message

/-- One step of the scan: `analyze_file` returns the file's dict, and moves the counters by
what that dict records. -/
theorem analyzeFile_spec (caseMap : CaseMap) (state : Inventory) (name path : String)
    (size : Except String Nat) (contents : Option (List UInt8)) :
    (analyzeFile caseMap state name path size contents).1 = fileItem name path size contents ∧
      (analyzeFile caseMap state name path size contents).2.tally =
        state.tally.record caseMap (fileItem name path size contents) := by
  unfold analyzeFile fileItem
  cases size with
  | error message =>
    exact ⟨rfl, by simp only [tally_report, tally_checkName, tally_add_files]; rfl⟩
  | ok size =>
    by_cases text : isTextFile (nameSuffix name)
    · cases contents <;>
        exact ⟨by simp [text, countLines], by
          simp only [text, countLines, if_true, tally_add_totalLines, tally_add_totalSize,
            tally_checkName, tally_add_files]
          rfl⟩
    · exact ⟨by simp [text], by
        simp only [text, Bool.false_eq_true, if_false, tally_add_totalSize, tally_checkName,
          tally_add_files]
        rfl⟩

/-! ### The scan

Apart from the counters, `scan_directory` is a pure listing: which files it reaches, and the
first directory whose listing raises.  `scanDirectory_spec` splits the state machine into
that listing and a fold of `Tally.record` over the dicts of the files reached.
-/

mutual

/-- The dicts of the files `scan_directory` reaches from the directory at `parent`, in the
order it reaches them. -/
def reachedFiles (parent : Option String) : List Entry → List Item
  | [] => []
  | entry :: entries => reachedFilesOf parent entry ++ reachedFiles parent entries

/-- The dicts of the files reached through one entry. -/
def reachedFilesOf (parent : Option String) : Entry → List Item
  | .file name size contents =>
      if skipped name then [] else [fileItem name (childPath parent name) size contents]
  | .directory name entries =>
      if skipped name then []
      else match entries with
        | none => []
        | some entries => reachedFiles (some (childPath parent name)) entries
  | .other _ => []

end

mutual

/-- The first directory `scan_directory` reaches from the directory at `parent` whose
listing raises. -/
def firstUnlisted (parent : Option String) : List Entry → Option String
  | [] => none
  | entry :: entries =>
      match firstUnlistedOf parent entry with
      | some path => some path
      | none => firstUnlisted parent entries

/-- The first directory reached through one entry whose listing raises. -/
def firstUnlistedOf (parent : Option String) : Entry → Option String
  | .directory name entries =>
      if skipped name then none
      else match entries with
        | none => some (childPath parent name)
        | some entries => firstUnlisted (some (childPath parent name)) entries
  | _ => none

end

theorem walkInventory_append (first second : List Item) :
    walkInventory (first ++ second) = walkInventory first ++ walkInventory second := by
  induction first with
  | nil => rfl
  | cons item items ih => rw [List.cons_append, walkInventory, walkInventory, ih, List.append_assoc]

theorem walkItem_fileItem (name path : String) (size : Except String Nat)
    (contents : Option (List UInt8)) :
    walkItem (fileItem name path size contents) = [fileItem name path size contents] := by
  cases size <;> rfl

theorem walkInventory_toList (found : Option Item) :
    walkInventory found.toList = found.toList.flatMap walkItem := by
  cases found <;> simp [walkInventory]

/-- An entry whose name `scan_directory` skips adds nothing and raises nothing. -/
theorem skipped_spec (caseMap : CaseMap) (parent : Option String) (entry : Entry)
    (state : Inventory) (skip : skipped entry.name) :
    firstUnlistedOf parent entry = none ∧ scanEntry caseMap parent entry state = .ok (none, state) ∧
      reachedFilesOf parent entry = [] := by
  cases entry with
  | file name => simp_all [Entry.name, firstUnlistedOf, scanEntry, reachedFilesOf]
  | directory name entries =>
    cases entries <;> simp_all [Entry.name, firstUnlistedOf, scanEntry, reachedFilesOf]
  | other name => exact ⟨rfl, rfl, rfl⟩

mutual

theorem scanDirectory_run (caseMap : CaseMap) (parent : Option String) :
    ∀ (entries : List Entry) (state : Inventory),
      (∀ path, firstUnlisted parent entries = some path →
        scanDirectory caseMap parent entries state = .error path) ∧
      (firstUnlisted parent entries = none → ∃ items final,
        scanDirectory caseMap parent entries state = .ok (items, final) ∧
        walkInventory items = reachedFiles parent entries ∧
        final.tally = (reachedFiles parent entries).foldl (Tally.record caseMap) state.tally)
  | [], state => ⟨fun _ missing => (by cases missing), fun _ => ⟨[], state, rfl, rfl, rfl⟩⟩
  | entry :: entries, state => by
      obtain ⟨entryRaises, entryRuns⟩ := scanEntry_run caseMap parent entry state
      cases listed : firstUnlistedOf parent entry with
      | some path =>
        simp only [firstUnlisted, listed, Option.some.injEq]
        refine ⟨fun found same => ?_, fun missing => (by cases missing)⟩
        simp [scanDirectory, entryRaises path listed, same]
      | none =>
        obtain ⟨found, middle, entryScan, entryWalk, entryTally⟩ := entryRuns listed
        obtain ⟨restRaises, restRuns⟩ := scanDirectory_run caseMap parent entries middle
        simp only [firstUnlisted, listed]
        refine ⟨fun path first => ?_, fun first => ?_⟩
        · simp [scanDirectory, entryScan, restRaises path first]
        · obtain ⟨items, final, restScan, restWalk, restTally⟩ := restRuns first
          refine ⟨found.toList ++ items, final, by simp [scanDirectory, entryScan, restScan],
            ?_, ?_⟩
          · rw [walkInventory_append, walkInventory_toList, entryWalk, restWalk, reachedFiles]
          · rw [restTally, entryTally, reachedFiles, List.foldl_append]

theorem scanEntry_run (caseMap : CaseMap) (parent : Option String) :
    ∀ (entry : Entry) (state : Inventory),
      (∀ path, firstUnlistedOf parent entry = some path →
        scanEntry caseMap parent entry state = .error path) ∧
      (firstUnlistedOf parent entry = none → ∃ found final,
        scanEntry caseMap parent entry state = .ok (found, final) ∧
        found.toList.flatMap walkItem = reachedFilesOf parent entry ∧
        final.tally = (reachedFilesOf parent entry).foldl (Tally.record caseMap) state.tally)
  | .file name size contents, state => by
      refine ⟨fun _ missing => (by cases missing), fun _ => ?_⟩
      by_cases skip : skipped name
      · obtain ⟨-, scan, reached⟩ := skipped_spec caseMap parent (.file name size contents) state skip
        exact ⟨none, state, scan, by rw [reached]; rfl, by rw [reached]; rfl⟩
      · obtain ⟨item, stepTally⟩ :=
          analyzeFile_spec caseMap state name (childPath parent name) size contents
        refine ⟨_, _, by simp only [scanEntry, skip]; rfl, ?_, ?_⟩
        · simp [reachedFilesOf, skip, item, walkItem_fileItem]
        · simp [reachedFilesOf, skip, stepTally, item]
  | .directory name none, state => by
      by_cases skip : skipped name
      · obtain ⟨unlisted, scan, reached⟩ := skipped_spec caseMap parent (.directory name none) state skip
        rw [unlisted, scan, reached]
        exact ⟨fun _ missing => (by cases missing), fun _ => ⟨none, state, rfl, rfl, rfl⟩⟩
      · simp only [firstUnlistedOf, scanEntry, skip, Bool.false_eq_true, if_false]
        exact ⟨fun path first => by rw [Option.some.inj first], fun missing => (by cases missing)⟩
  | .directory name (some entries), state => by
      by_cases skip : skipped name
      · obtain ⟨unlisted, scan, reached⟩ :=
          skipped_spec caseMap parent (.directory name (some entries)) state skip
        rw [unlisted, scan, reached]
        exact ⟨fun _ missing => (by cases missing), fun _ => ⟨none, state, rfl, rfl, rfl⟩⟩
      obtain ⟨raises, runs⟩ := scanDirectory_run caseMap (some (childPath parent name)) entries state
      simp only [firstUnlistedOf, scanEntry, reachedFilesOf, skip, Bool.false_eq_true, if_false]
      refine ⟨fun path first => by rw [raises path first], fun first => ?_⟩
      obtain ⟨items, final, scan, walk, tally⟩ := runs first
      refine ⟨some (.directory name (childPath parent name) items), final, by rw [scan], ?_, tally⟩
      simpa [walkItem] using walk
  | .other _, state =>
      ⟨fun _ missing => (by cases missing), fun _ => ⟨none, state, rfl, rfl, rfl⟩⟩

end

/-! ### The report -/

/-- `c * width` for a one-character string `c`. -/
def rule (c : Char) (width : Nat) : String := String.mk (List.replicate width c)

/-- The lines printed before the scan. -/
def reportHeader (now root : String) : List String :=
  [rule '=' 70, "XINIM REPOSITORY INVENTORY REPORT", rule '=' 70, "Generated: " ++ now,
    "Repository Root: " ++ root, "", "Scanning repository..."]

/-- `k.replace('files_', '')`. -/
def extensionLabel (key : String) : String :=
  String.mk (Str.replace "files_".toList [] key.toList)

/-- `extensions` of `generate_report`: the `files_` keys of `stats`, relabelled, with their
counts, highest count first. -/
def fileTypes (stats : PyDict Nat) : List (String × Nat) :=
  pySorted (fun row => row.2) true
    (stats.entries.filterMap fun (key, count) =>
      if Str.startsWith "files_".toList key.toList then some (extensionLabel key, count) else none)

/-- The keys of `components`, in the order of its literal. -/
def componentNames : List String := ["kernel", "commands", "tests", "crypto", "fs", "lib", "mm"]

/-- The component the inner loop counts a file under: the first name its path starts with,
followed by `/`. -/
def componentOf (path : String) : Option String :=
  componentNames.find? fun component => Str.startsWith (component ++ "/").toList path.toList

/-- The literal `components`, every count `0`. -/
def initialComponents : PyDict Nat :=
  componentNames.foldl (fun components component => components.setItem component 0) PyDict.empty

/-- One pass of the loop over `walk_inventory(self.inventory)`. -/
def countComponent (components : PyDict Nat) (item : Item) : PyDict Nat :=
  match componentOf item.path with
  | some component => components.modify component 0 (· + 1)
  | none => components

/-- `components` after the loop. -/
def countComponents (files : List Item) : PyDict Nat :=
  files.foldl countComponent initialComponents

/-- `sorted(components.items())`: the keys are distinct, so their order decides. -/
def sortedByName (rows : List (String × Nat)) : List (String × Nat) :=
  rows.insertionSort fun first second => AsciiTree.codePointLe first.1.toList second.1.toList

/-- A row of `FILE TYPES` or `COMPONENTS`. -/
def countRow (width : Nat) (label : String) (count : Nat) : String :=
  "  " ++ padRight width label ++ " " ++ padLeft 5 (toString count) ++ " files"

/-- The `ISSUES FOUND` section, or `NO ISSUES FOUND`. -/
def issueLines (duplicates jargon : Nat) (issues : List String) : List String :=
  if issues = [] then ["✅ NO ISSUES FOUND"]
  else
    ["⚠️  ISSUES FOUND", rule '-' 40, "Duplicate Files: " ++ toString duplicates,
      "Files with AI Jargon: " ++ toString jargon] ++
    if issues.length ≤ 20 then "\nDetailed Issues:" :: issues.map ("  • " ++ ·)
    else ("\nShowing first 20 of " ++ toString issues.length ++ " issues:") ::
      (issues.take 20).map ("  • " ++ ·)

/-- The lines `generate_report` prints after the scan, given what they show: the three
totals, the rows of `FILE TYPES`, the files the components are counted over, the two issue
counters and the issues. -/
def renderReport (totalFiles totalSize totalLines : Nat) (fileRows : List (String × Nat))
    (files : List Item) (duplicates jargon : Nat) (issues : List String) : List String :=
  ["\n📊 STATISTICS", rule '-' 40,
    "Total Files: " ++ toString totalFiles,
    "Total Size: " ++ fixedTwo totalSize (1024 * 1024) ++ " MB",
    "Total Lines of Code: " ++ groupThousands totalLines, "",
    "📁 FILE TYPES", rule '-' 40] ++
  ((fileRows.take 10).filterMap fun (extension, count) =>
    if extension = "" then none else some (countRow 10 extension count)) ++
  ["", "🔧 COMPONENTS", rule '-' 40] ++
  ((sortedByName (countComponents files).entries).map fun (component, count) =>
    countRow 15 component count) ++
  [""] ++ issueLines duplicates jargon issues ++ ["\n" ++ rule '=' 70]

/-- The lines `generate_report` prints after the scan, from the state and the inventory. -/
def reportLines (state : Inventory) (inventory : List Item) : List String :=
  renderReport (state.stats.getD "total_files" 0) (state.stats.getD "total_size" 0)
    (state.stats.getD "total_lines" 0) (fileTypes state.stats) (walkInventory inventory)
    (state.stats.getD "duplicate_files" 0) (state.stats.getD "jargon_files" 0) state.issues

/-- `generate_report()`, with `now` the time it prints and `root` the resolved root, whose
entries `iterdir` yields, or `none` where listing it raises: the texts printed, and the path
of the directory whose listing raised, if one did. -/
def generateReport (caseMap : CaseMap) (now root : String) (rootEntries : Option (List Entry)) :
    List String × Option String :=
  match rootEntries with
  | none => (reportHeader now root, some ".")
  | some entries =>
      match scanDirectory caseMap none entries Inventory.initial with
      | .error path => (reportHeader now root, some path)
      | .ok (inventory, state) => (reportHeader now root ++ reportLines state inventory, none)

/-! ### The components -/

theorem componentNames_prefixFree :
    ∀ first ∈ componentNames, ∀ second ∈ componentNames,
      (first ++ "/").toList <+: (second ++ "/").toList → first = second := by
  decide

/-- No name followed by `/` starts another, so a file is counted under the one component
its path starts with, whatever the order of the literal. -/
theorem componentOf_eq_some_iff (path component : String) :
    componentOf path = some component ↔
      component ∈ componentNames ∧ Str.startsWith (component ++ "/").toList path.toList :=
  Str.find?_startsWith_eq_some_iff (fun component => (component ++ "/").toList)
    componentNames_prefixFree _ _

theorem foldl_countComponent (files : List Item) :
    ∀ components : PyDict Nat, components.keys = componentNames →
      (files.foldl countComponent components).keys = componentNames ∧
      ∀ component, (files.foldl countComponent components).getD component 0 =
        components.getD component 0 +
          files.countP fun file => componentOf file.path = some component := by
  induction files with
  | nil => exact fun components keys => ⟨keys, fun _ => rfl⟩
  | cons file files ih =>
    intro components keys
    cases found : componentOf file.path with
    | none =>
      obtain ⟨keysEq, getEq⟩ := ih components keys
      refine ⟨by simpa [countComponent, found] using keysEq, fun component => ?_⟩
      simp [countComponent, found, getEq, List.countP_cons]
    | some first =>
      have listed := ((componentOf_eq_some_iff _ _).mp found).1
      obtain ⟨keysEq, getEq⟩ := ih (components.modify first 0 (· + 1))
        (by rw [PyDict.keys_modify, if_pos (keys ▸ listed), keys])
      refine ⟨by simpa [countComponent, found] using keysEq, fun component => ?_⟩
      simp only [List.foldl_cons, countComponent, found, getEq, List.countP_cons,
        PyDict.getD_modify]
      by_cases same : component = first
      · subst same; simp [PyDict.getD]; omega
      · simp [same, Ne.symm same]

/-- `components` after the loop: the names of the literal, in its order, each with the number
of files whose path starts with it and `/`. -/
theorem countComponents_entries (files : List Item) :
    (countComponents files).entries = componentNames.map fun component =>
      (component, files.countP fun file =>
        Str.startsWith (component ++ "/").toList file.path.toList) := by
  obtain ⟨keys, counts⟩ := foldl_countComponent files initialComponents rfl
  rw [PyDict.entries_eq_map_getD _ 0, countComponents, keys]
  refine List.map_congr_left fun component listed => ?_
  have fresh : initialComponents.getD component 0 = 0 := by
    rw [initialComponents, PyDict.getD_foldl_setItem, if_pos listed]
  rw [counts, fresh, zero_add]
  exact congrArg (Prod.mk component)
    (List.countP_congr fun file _ => by simp [componentOf_eq_some_iff, listed])

theorem sum_values_foldl_countComponent (files : List Item) :
    ∀ components : PyDict Nat, (files.foldl countComponent components).values.sum =
      components.values.sum + files.countP fun file => (componentOf file.path).isSome := by
  induction files with
  | nil => exact fun _ => rfl
  | cons file files ih =>
    intro components
    rw [List.foldl_cons, ih, List.countP_cons]
    cases found : componentOf file.path with
    | none => simp [countComponent, found]
    | some component =>
      simp only [countComponent, found, PyDict.sum_values_modify_succ, Option.isSome_some,
        if_true]
      omega

/-- `COMPONENTS` prints the seven names of the literal in name order, each with the number
of files whose path starts with it and `/`; as no name followed by `/` starts another, no
file is counted twice and the counts add up to at most the number of files. -/
theorem componentRows (files : List Item) :
    sortedByName (countComponents files).entries =
        ["commands", "crypto", "fs", "kernel", "lib", "mm", "tests"].map (fun component =>
          (component, files.countP fun file =>
            Str.startsWith (component ++ "/").toList file.path.toList)) ∧
      ((countComponents files).entries.map Prod.snd).sum ≤ files.length := by
  refine ⟨by rw [countComponents_entries]; rfl, ?_⟩
  have total := sum_values_foldl_countComponent files initialComponents
  unfold PyDict.values at total
  rw [countComponents, total]
  exact (Nat.zero_add _).trans_le (List.countP_le_length _)

/-! ### The report is a function of the files reached -/

/-- The rows of `FILE TYPES` that counters give. -/
def Tally.fileRows (tally : Tally) : List (String × Nat) :=
  pySorted (fun row => row.2) true
    (tally.extensions.map fun extension =>
      (extensionLabel ("files_" ++ extension), tally.byExtension extension))

/-- What `generate_report` prints after a scan that ends with these counters over these
files. -/
def Tally.report (tally : Tally) (files : List Item) : List String :=
  renderReport tally.totalFiles tally.totalSize tally.totalLines tally.fileRows files
    tally.duplicateFiles tally.jargonFiles tally.issues

/-- The counters of a fresh object. -/
def Tally.empty : Tally := ⟨0, fun _ => 0, [], 0, 0, 0, 0, []⟩

/-- `item['name']`. -/
def Item.name : Item → String
  | .file name .. => name
  | .fileError name .. => name
  | .directory name .. => name

/-- The size a file's dict records; a dict with an error records none. -/
def Item.size : Item → Nat
  | .file _ _ _ size _ => size
  | _ => 0

/-- The lines a file's dict records. -/
def Item.lines : Item → Nat
  | .file _ _ _ _ lines => lines
  | _ => 0

/-- The issues `analyze_file` reported for a file, in the order it reported them. -/
def Item.issues (caseMap : CaseMap) : Item → List String
  | .file name path .. => nameIssues caseMap name path
  | .fileError name path error =>
      nameIssues caseMap name path ++ ["Error reading " ++ path ++ ": " ++ error]
  | .directory .. => []

/-- Whether a dict is a directory's. -/
def Item.isDirectory : Item → Bool
  | .directory .. => true
  | _ => false

mutual

theorem isDirectory_reachedFiles (parent : Option String) :
    ∀ (entries : List Entry), ∀ item ∈ reachedFiles parent entries, item.isDirectory = false
  | [] => fun _ missing => by cases missing
  | entry :: entries => fun item mem => by
      rw [reachedFiles, List.mem_append] at mem
      exact mem.elim (isDirectory_reachedFilesOf parent entry item)
        (isDirectory_reachedFiles parent entries item)

theorem isDirectory_reachedFilesOf (parent : Option String) :
    ∀ (entry : Entry), ∀ item ∈ reachedFilesOf parent entry, item.isDirectory = false
  | .file name size contents => fun item mem => by
      by_cases skip : skipped name
      · simp [reachedFilesOf, skip] at mem
      · simp only [reachedFilesOf, skip, Bool.false_eq_true, if_false,
          List.mem_singleton] at mem
        subst mem
        cases size <;> rfl
  | .directory name none => fun item mem => by
      by_cases skip : skipped name <;> simp [reachedFilesOf, skip] at mem
  | .directory name (some entries) => fun item mem => by
      by_cases skip : skipped name
      · simp [reachedFilesOf, skip] at mem
      · simp only [reachedFilesOf, skip, Bool.false_eq_true, if_false] at mem
        exact isDirectory_reachedFiles _ entries item mem
  | .other _ => fun _ missing => by cases missing

end

end XinimTooling.RepoInventory
