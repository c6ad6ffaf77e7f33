/-
Module: XinimTooling.ClassifyStyle
Purpose: `classify_style.py`: the extension test of `classify_file`, and its scan of the
  file's lines for a first function header, judged by the text between its parentheses
  and the lines down to the next `{`.
Trusted boundary: opening and reading the file, given as its bytes or `none` for an
  `OSError`; a UTF-8 locale
Main exports: typeTokens, containsType, splitextExtension, classifyFrom, classifyFile
-/
import XinimTooling.Python.Str
import XinimTooling.Python.Text

namespace XinimTooling.ClassifyStyle

/-- `TYPE_TOKENS`. -/
def typeTokens : List String :=
  ["int", "char", "long", "short", "float", "double", "void", "struct"]

/-- `_contains_type`: some type token occurs in the text, as a substring. -/
def containsType (text : List Char) : Bool :=
  typeTokens.any fun token => Str.contains token.toList text

/-- `os.path.splitext(path)[1]` on POSIX: the last component's text from its last `.`,
unless only dots stand before that dot in the component. -/
def splitextExtension (path : List Char) : List Char :=
  match (path.reverse.takeWhile (· != '/')).span (· != '.') with
  | (reversedExtension, _ :: reversedStem) =>
      if reversedStem.all (· = '.') then [] else '.' :: reversedExtension.reverse
  | (_, []) => []

/-- The loop `for i, line in enumerate(lines)` of `classify_file` from line `i` on, where
`line :: later` is `lines[i:]`.  The `while` loop looking for `{` is `findIdx?` over the
same lines, and `lines[i + 1 : j]` is the first `j - i - 1` of the later ones. -/
def classifyFrom : List (List Char) → String
  | [] => "unknown"
  | line :: later =>
      if !(line.contains '(' && line.contains ')') then classifyFrom later
      else if (Str.lstrip line).head? = some '#' then classifyFrom later
      else if (Str.strip line).getLast? = some ';' then classifyFrom later
      else match (line :: later).findIdx? (fun candidate => candidate.contains '{') with
        | none => classifyFrom later
        | some offset =>
            let inside := ((line.dropWhile (· != '(')).drop 1).takeWhile (· != ')')
            let after := (later.take (offset - 1)).flatten
            if containsType inside then "C++17"
            else if after.contains ';' || Str.strip inside = [] then "K&R"
            else classifyFrom later

/-- `classify_file(path)`, where `contents` is what opening and reading the path gives:
its bytes, or `none` for an `OSError`.  Python lowers the extension with the full Unicode
mapping; no character outside ASCII lowers into one of the five extensions tested, so
lowering ASCII letters alone decides the same tests. -/
def classifyFile (path : String) (contents : Option (List UInt8)) : String :=
  let ext := (splitextExtension path.toList).map Char.toLower
  if ext ∈ [".s".toList, ".asm".toList, ".S".toList] then "assembly"
  else if ext ∉ [".cpp".toList, ".h".toList] then ""
  else match contents with
    | none => ""
    | some bytes => classifyFrom (readLinesIgnore bytes)

/-- A parameter whose name contains a type word is read as a type: `pointer` contains
`int`, so a K&R header whose declaration line follows it is classified as C++17. -/
theorem typeWordInParameterName_classified_cpp :
    readLinesIgnore "f(pointer)\nchar *pointer;\n\x7b\n\x7d\n".toUTF8.data.toList =
        ["f(pointer)\n".toList, "char *pointer;\n".toList, "\x7b\n".toList, "\x7d\n".toList] ∧
      classifyFile "k.cpp" (some "f(pointer)\nchar *pointer;\n\x7b\n\x7d\n".toUTF8.data.toList) =
        "C++17" := by
  decide

end XinimTooling.ClassifyStyle
