/-
Module: XinimTooling.Python.Str
Purpose: The `str` methods the source tools call on lines, fragments of C text and paths:
  `strip`, `lstrip`, `rstrip` with a character set, `rsplit(sep, 1)` unpacked into two
  names, the substring test `needle in text`, `text.startswith(head)`,
  `text.endswith(suffix)` and `text.replace(old, new)`.  `str.split(sep)` is
  `List.splitOn` and `sep.join(parts)` is `List.intercalate`.
Trusted boundary: CPython's `str` methods; whitespace is `str.isspace()`
Main exports: Str.lstrip, Str.rstrip, Str.strip, Str.rsplitOnce, Str.contains, Str.startsWith,
  Str.endsWith, Str.replace
-/
import XinimTooling.Python.Regex
import Mathlib.Data.List.Infix

namespace XinimTooling

namespace Str

/-!
A `str` is its list of code points.  The methods below work on that list, so that Python's
indices and slices are the list's.
-/

/-- `text.lstrip()`. -/
def lstrip (text : List Char) : List Char := text.dropWhile isSpace

/-- `text.rstrip(chars)`, the characters given as a class; `text.rstrip()` is
`rstrip isSpace`. -/
def rstrip (inSet : Char → Bool) (text : List Char) : List Char :=
  (text.reverse.dropWhile inSet).reverse

/-- `text.strip()`. -/
def strip (text : List Char) : List Char := rstrip isSpace (lstrip text)

/-- `first, second = text.rsplit(sep, 1)`: the text before and after the last `sep`, or
`none` where the text has no `sep`, the split has one part and the unpacking raises
`ValueError`. -/
def rsplitOnce (sep : Char) (text : List Char) : Option (List Char × List Char) :=
  match text.reverse.span (· != sep) with
  | (after, _ :: before) => some (before.reverse, after.reverse)
  | (_, []) => none

/-- `needle in text` between two strings: a substring test. -/
def contains (needle text : List Char) : Bool := decide (List.IsInfix needle text)

/-- `text.startswith(head)`. -/
def startsWith (head text : List Char) : Bool := decide (List.IsPrefix head text)

/-- `text.endswith(suffix)`. -/
def endsWith (suffix text : List Char) : Bool := decide (List.IsSuffix suffix text)

/-- `text.replace(old, new)` for a non-empty `old`, once `skip` more characters of the
occurrence just replaced are passed over: occurrences are replaced from the left, never
overlapping. -/
def replaceFrom (old new : List Char) : Nat → List Char → List Char
  | _, [] => []
  | skip + 1, _ :: rest => replaceFrom old new skip rest
  | 0, c :: rest =>
      if old ≠ [] ∧ startsWith old (c :: rest) then new ++ replaceFrom old new (old.length - 1) rest
      else c :: replaceFrom old new 0 rest

/-- `text.replace(old, new)` for a non-empty `old`. -/
def replace (old new text : List Char) : List Char := replaceFrom old new 0 text

/-- Among heads none of which starts another, the first one a text starts with is the only
one it starts with: a loop that stops at its first match finds the same head in any order. -/
theorem find?_startsWith_eq_some_iff {α : Type} {heads : List α} (tag : α → List Char)
    (free : ∀ first ∈ heads, ∀ second ∈ heads, tag first <+: tag second → first = second)
    (text : List Char) (head : α) :
    heads.find? (fun head => startsWith (tag head) text) = some head ↔
      head ∈ heads ∧ startsWith (tag head) text := by
  refine ⟨fun found => ⟨List.mem_of_find?_eq_some found, by simpa using List.find?_some found⟩,
    fun ⟨listed, starts⟩ => ?_⟩
  obtain ⟨first, found⟩ := Option.ne_none_iff_exists'.mp fun missing =>
    (List.find?_eq_none.mp missing : ∀ other ∈ heads, ¬startsWith (tag other) text)
      head listed starts
  have firstStarts := List.find?_some found
  have firstListed := List.mem_of_find?_eq_some found
  rcases List.prefix_or_prefix_of_prefix (by simpa [startsWith] using firstStarts)
      (by simpa [startsWith] using starts) with shorter | longer
  · rwa [← free first firstListed head listed shorter]
  · rwa [free head listed first firstListed longer]

@[simp] theorem strip_nil : strip [] = [] := rfl

end Str

end XinimTooling
