/-
Module: XinimTooling.Tools.FindKnr
Purpose: The two walks that keep the files `classify_file` calls K&R.  `scan` of
  `tools/find_knr.py` asks for the suffix `.cpppp`, whose extension is not one that
  `classify_file` reads, so it keeps no file in any tree.  `find_kr_cpp_files` of the backup
  `cleanup_backups/20250901_235228/generate_kr_summary 2.py` asks for `.cpp` in any letter
  case, skips the directories with a `.git` component, and keeps exactly the K&R files.
Trusted boundary: `os.walk`, given as the list of directories it visits, each with the names
  of its files; `Path(dirpath) / name` as the two joined by `/`; `os.path.relpath(path, root)`
  as a parameter; `name.lower().endswith(".cpp")` as the test on ASCII-lowered characters,
  as no other character lowers to `.`, `c` or `p`; reading a file as in
  `XinimTooling.ClassifyStyle`; printing and the JSON text written are left out
Main exports: scan, classifyFile_cpppp, scan_eq_nil, findKrCppFiles, KrSummary, summary,
  mem_findKrCppFiles
-/
import XinimTooling.ClassifyStyle
import XinimTooling.Tools.ArchScan

namespace XinimTooling.FindKnr

open ClassifyStyle

/-- `scan(root)`, where `walk` is what `os.walk(root)` yields, each visited directory's path
with the names of its files, and `contents path` is what reading the file at `path` gives
`classify_file`. -/
def scan (walk : List (String × List String)) (contents : String → Option (List UInt8)) :
    List String :=
  walk.flatMap fun (dirpath, files) =>
    files.filterMap fun name =>
      if Str.endsWith ".cpppp".toList name.toList then
        let path := dirpath ++ "/" ++ name
        if classifyFile path (contents path) = "K&R" then some path else none
      else none

/-- A path ending in `.cpppp` has the extension `.cpppp`, or none when only dots stand before
it in the last component. -/
theorem splitextExtension_cpppp (front : List Char) :
    splitextExtension (front ++ ".cpppp".toList) = [] ∨
      splitextExtension (front ++ ".cpppp".toList) = ".cpppp".toList := by
  have stem : (front ++ ".cpppp".toList).reverse.takeWhile (· != '/') =
      'p' :: 'p' :: 'p' :: 'p' :: 'c' :: '.' :: front.reverse.takeWhile (· != '/') := by
    rw [List.reverse_append, List.takeWhile_append_of_pos (by decide)]
    rfl
  have split : ('p' :: 'p' :: 'p' :: 'p' :: 'c' :: '.' ::
      front.reverse.takeWhile (· != '/')).span (· != '.') =
        (['p', 'p', 'p', 'p', 'c'], '.' :: front.reverse.takeWhile (· != '/')) := rfl
  unfold splitextExtension
  rw [stem, split]
  by_cases dots : (front.reverse.takeWhile (· != '/')).all (· = '.') <;> simp [dots]

/-- `classify_file` gives no style to a path ending in `.cpppp`: its extension is neither an
assembly one nor `.cpp` or `.h`. -/
theorem classifyFile_cpppp (front : List Char) (contents : Option (List UInt8)) :
    classifyFile (String.mk (front ++ ".cpppp".toList)) contents = "" := by
  have path : (String.mk (front ++ ".cpppp".toList)).toList = front ++ ".cpppp".toList := rfl
  unfold classifyFile
  rcases splitextExtension_cpppp front with extension | extension <;>
    rw [path, extension, if_neg (by decide), if_pos (by decide)]

/-- The name test asks for `.cpppp`, and `classify_file` gives no such path a style, so
`scan` reports no file, whatever the tree. -/
theorem scan_eq_nil (walk : List (String × List String))
    (contents : String → Option (List UInt8)) : scan walk contents = [] := by
  refine List.flatMap_eq_nil_iff.mpr fun (dirpath, files) _ =>
    List.filterMap_eq_nil_iff.mpr fun name _ => ?_
  split
  · next suffix =>
    obtain ⟨front, named⟩ := of_decide_eq_true suffix
    have path : dirpath ++ "/" ++ name =
        String.mk ((dirpath.toList ++ '/' :: front) ++ ".cpppp".toList) := by
      obtain ⟨nameChars⟩ := name
      change front ++ ".cpppp".toList = nameChars at named
      subst named
      exact congrArg String.mk (by simp [String.toList])
    rw [if_neg (by rw [path, classifyFile_cpppp]; decide)]
  · rfl

/-! ### `generate_kr_summary` -/

/-- `find_kr_cpp_files(root)`, where `walk` is what `os.walk(root)` yields and `relpath path`
is `os.path.relpath(path, root)`. -/
def findKrCppFiles (walk : List (String × List String)) (contents : String → Option (List UInt8))
    (relpath : String → String) : List String :=
  walk.flatMap fun (current, files) =>
    if ".git" ∈ current.splitOn "/" then []
    else files.filterMap fun name =>
      if Str.endsWith ".cpp".toList (name.toList.map Char.toLower) then
        let path := ArchScan.osPathJoin current name
        if classifyFile path (contents path) = "K&R" then some (relpath path) else none
      else none

/-- The dict `main` dumps to `kr_cpp_summary.json`. -/
structure KrSummary where
  count : Nat
  files : List String
  deriving Repr

/-- The summary of `main()`: the number of files and the files in sorted order. -/
def summary (krList : List String) : KrSummary :=
  ⟨krList.length, krList.insertionSort fun first second =>
    AsciiTree.codePointLe first.toList second.toList⟩

/-- `find_kr_cpp_files` keeps the `.cpp` files, in any letter case, outside the directories
with a `.git` component, that `classify_file` calls K&R, each under its relative path. -/
theorem mem_findKrCppFiles (walk : List (String × List String))
    (contents : String → Option (List UInt8)) (relpath : String → String) (file : String) :
    file ∈ findKrCppFiles walk contents relpath ↔
      ∃ current files, (current, files) ∈ walk ∧ ".git" ∉ current.splitOn "/" ∧
        ∃ name ∈ files, Str.endsWith ".cpp".toList (name.toList.map Char.toLower) ∧
          classifyFile (ArchScan.osPathJoin current name)
              (contents (ArchScan.osPathJoin current name)) = "K&R" ∧
            relpath (ArchScan.osPathJoin current name) = file := by
  simp only [findKrCppFiles, List.mem_flatMap, Prod.exists]
  refine exists_congr fun current => exists_congr fun files => and_congr_right fun _ => ?_
  by_cases git : ".git" ∈ current.splitOn "/"
  · simp [git]
  · simp only [git, if_false, not_false_eq_true, true_and, List.mem_filterMap]
    refine exists_congr fun name => and_congr_right fun _ => ?_
    split <;> simp_all

end XinimTooling.FindKnr
