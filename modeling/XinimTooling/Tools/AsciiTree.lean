/-
Module: XinimTooling.Tools.AsciiTree
Purpose: `tools/ascii_tree.py`: `list_directory`, which draws a directory tree with one
  line per listed entry, a connector chosen by the entry's place in the sorted listing,
  and the lines of each listed subdirectory indented under it; and when that drawing is
  the intended one, with `└── ` on the last entry drawn in each directory.
Trusted boundary: `os.listdir` and `os.path.isdir`, given as a finite tree of entries (no
  symbolic link loops); `main`'s argument parsing and printing are left out
Main exports: Entry, codePointLe, sortedEntries, listDirectory, isListed, intendedTree,
  LastListed, listDirectory_eq_intendedTree
-/
import Mathlib.Data.List.Sort

namespace XinimTooling.AsciiTree

/-- A directory entry as `os.listdir` names it and `os.path.isdir` classifies it; a
directory holds what `os.listdir` lists in it, in any order. -/
inductive Entry where
  | file (name : String)
  | directory (name : String) (entries : List Entry)
deriving Repr

/-- The name `os.listdir` gives the entry. -/
def Entry.name : Entry → String
  | .file name => name
  | .directory name _ => name

/-- Python's order on `str`: code points compared from the left, a proper prefix first. -/
def codePointLe : List Char → List Char → Bool
  | [], _ => true
  | _ :: _, [] => false
  | c :: rest, d :: more => c < d || (c = d && codePointLe rest more)

/-- `sorted(os.listdir(path))`. -/
def sortedEntries (entries : List Entry) : List Entry :=
  entries.insertionSort fun first second => codePointLe first.name.toList second.name.toList

/-- `list_directory(path, prefix, show_hidden, exclude)`, where `entries` is what
`os.listdir(path)` gives and `linePrefix` is `prefix`.  The connector is chosen by the
entry's index among all sorted entries, listed or not. -/
def listDirectory (entries : List Entry) (linePrefix : String) (showHidden : Bool)
    (exclude : List String) : List String :=
  (sortedEntries entries).enum.attach.flatMap fun ⟨(index, entry), listed⟩ =>
    if entry.name ∈ exclude then []
    else if !showHidden && entry.name.toList.head? = some '.' then []
    else
      let isLast := index == (sortedEntries entries).length - 1
      let connector := if isLast then "└── " else "├── "
      (linePrefix ++ connector ++ entry.name) ::
        match entry, listed with
        | .file _, _ => []
        | .directory _ children, _listed =>
            let extension := if isLast then "    " else "│   "
            listDirectory children (linePrefix ++ extension) showHidden exclude
termination_by sizeOf entries
decreasing_by
  have inSorted := List.snd_mem_of_mem_enum _listed
  have := List.sizeOf_lt_of_mem ((List.perm_insertionSort _ entries).subset inSorted)
  simp only [Entry.directory.sizeOf_spec] at this
  omega

/-- The connector follows the entry's place among all entries, so when the last sorted
entry is excluded, the last one drawn keeps `├── `, and the lines under it `│   `. -/
theorem excludedLastEntry_breaks_connectors :
    listDirectory [.file "a", .directory "d" [.file "x"], .directory "z" []] "" false ["z"] =
      ["├── a", "├── d", "│   └── x"] := by
  unfold listDirectory
  unfold listDirectory
  decide

/-! ### When the connectors are right

The connector of an entry is chosen by its index among all sorted entries, listed or not.
When the last sorted entry of every drawn directory is drawn, that is the intended choice.
-/

/-- Whether `list_directory` draws an entry: its name is not excluded, and it is not hidden
unless `show_hidden`. -/
def isListed (showHidden : Bool) (exclude : List String) (entry : Entry) : Bool :=
  !decide (entry.name ∈ exclude) && !(!showHidden && entry.name.toList.head? = some '.')

/-- The drawing the comment on the connectors intends: the drawn entries in sorted order,
`└── ` on the last one drawn and `├── ` on the others, and the lines of a drawn directory
under it, extended by `    ` after `└── ` and by `│   ` after `├── `. -/
def intendedTree (entries : List Entry) (linePrefix : String) (showHidden : Bool)
    (exclude : List String) : List String :=
  let listed := (sortedEntries entries).filter (isListed showHidden exclude)
  listed.enum.attach.flatMap fun ⟨(index, entry), mem⟩ =>
    let isLast := index == listed.length - 1
    (linePrefix ++ (if isLast then "└── " else "├── ") ++ entry.name) ::
      match entry, mem with
      | .file _, _ => []
      | .directory _ children, _mem =>
          intendedTree children (linePrefix ++ if isLast then "    " else "│   ") showHidden
            exclude
termination_by sizeOf entries
decreasing_by
  have inSorted := (List.mem_filter.mp (List.snd_mem_of_mem_enum _mem)).1
  have := List.sizeOf_lt_of_mem ((List.perm_insertionSort _ entries).subset inSorted)
  simp only [Entry.directory.sizeOf_spec] at this
  omega

/-- In every directory that is drawn, the last entry in sorted order is drawn. -/
inductive LastListed (showHidden : Bool) (exclude : List String) : List Entry → Prop
  | intro {entries : List Entry}
      (last : ∀ entry, (sortedEntries entries).getLast? = some entry →
        isListed showHidden exclude entry)
      (children : ∀ name children, Entry.directory name children ∈ entries →
        isListed showHidden exclude (.directory name children) →
        LastListed showHidden exclude children) :
      LastListed showHidden exclude entries

section Connectors

variable {α β : Type}

theorem flatMap_enum_snd (items : List α) (f : α → List β) :
    items.enum.flatMap (fun x => f x.2) = items.flatMap f := by
  unfold List.flatMap
  conv_rhs => rw [← List.enum_map_snd items, List.map_map]
  rfl

theorem flatMap_filter_eq (p : α → Bool) (f : α → List β) :
    ∀ items : List α, (items.filter p).flatMap f = items.flatMap fun a => if p a then f a else []
  | [] => rfl
  | a :: items => by
      by_cases held : p a <;> simp [List.filter_cons, held, flatMap_filter_eq p f items]

theorem flatMap_attach_eq {items : List α} {F : {x // x ∈ items} → List β}
    (G : α → List β) (same : ∀ x (mem : x ∈ items), F ⟨x, mem⟩ = G x) :
    items.attach.flatMap F = items.flatMap G := by
  rw [@List.flatMap_subtype _ _ _ _ _ G same, List.unattach_attach]


/-- Drawing the listed items of a list with a connector chosen by whether an item's index is
the list's last (`list_directory`) or the last among the listed items: the two drawings agree
when the list's last item is listed. -/
theorem flatMap_enum_lastIndex (listed : α → Bool) {draw intended : Bool → α → List β}
    {items : List α} (lastListed : ∀ item, items.getLast? = some item → listed item)
    (agree : ∀ item ∈ items, listed item → ∀ isLast, draw isLast item = intended isLast item) :
    items.enum.flatMap (fun entry =>
        if listed entry.2 then draw (entry.1 == items.length - 1) entry.2 else []) =
      (items.filter listed).enum.flatMap fun entry =>
        intended (entry.1 == (items.filter listed).length - 1) entry.2 := by
  rcases List.eq_nil_or_concat items with rfl | ⟨front, last, rfl⟩
  · rfl
  · simp only [List.concat_eq_append] at lastListed agree ⊢
    have listedLast := lastListed last (List.getLast?_concat front)
    have early : ∀ (items : List α) (f : Bool → α → List β), items.enum.flatMap
        (fun entry => f (entry.1 == items.length) entry.2) = items.flatMap (f false) := by
      intro items f
      rw [← flatMap_enum_snd items (f false)]
      refine List.flatMap_congr fun entry mem => ?_
      rw [beq_eq_false_iff_ne.mpr (Nat.ne_of_lt (List.fst_lt_of_mem_enum mem))]
    rw [List.filter_append, List.filter_singleton, listedLast, cond_true, List.enum_append,
      List.enum_append, List.flatMap_append, List.flatMap_append, List.enumFrom_singleton,
      List.enumFrom_singleton]
    simp only [List.length_append, List.length_singleton, Nat.add_sub_cancel, beq_self_eq_true,
      List.flatMap_cons, List.flatMap_nil, List.append_nil, listedLast, if_true]
    congr 1
    · calc _ = front.flatMap fun item => if listed item then draw false item else [] :=
            early front fun isLast item => if listed item then draw isLast item else []
        _ = (front.filter listed).flatMap (draw false) := (flatMap_filter_eq _ _ _).symm
        _ = (front.filter listed).flatMap (intended false) := List.flatMap_congr fun item mem =>
            agree item (List.mem_append_left _ (List.mem_filter.mp mem).1)
              (List.mem_filter.mp mem).2 false
        _ = _ := (early _ intended).symm
    · exact agree last (by simp) listedLast true

end Connectors

/-- When the last sorted entry of every drawn directory is drawn, `list_directory` draws the
tree as intended. -/
theorem listDirectory_eq_intendedTree {showHidden : Bool} {exclude : List String}
    {entries : List Entry} (lastListed : LastListed showHidden exclude entries)
    (linePrefix : String) :
    listDirectory entries linePrefix showHidden exclude =
      intendedTree entries linePrefix showHidden exclude := by
  induction lastListed generalizing linePrefix with
  | @intro entries last children same =>
    let draw := fun (recurse : List Entry → String → List String) (isLast : Bool)
        (entry : Entry) =>
      (linePrefix ++ (if isLast then "└── " else "├── ") ++ entry.name) ::
        match entry with
        | .file _ => []
        | .directory _ children =>
            recurse children (linePrefix ++ if isLast then "    " else "│   ")
    rw [listDirectory, intendedTree, flatMap_attach_eq (fun entry =>
      if isListed showHidden exclude entry.2 then
        draw (listDirectory · · showHidden exclude)
          (entry.1 == (sortedEntries entries).length - 1) entry.2
      else []) ?drawn, flatMap_attach_eq (fun entry =>
        draw (intendedTree · · showHidden exclude)
          (entry.1 == ((sortedEntries entries).filter (isListed showHidden exclude)).length - 1)
          entry.2) ?intended]
    · refine flatMap_enum_lastIndex _ last fun entry mem listed isLast => ?_
      cases entry with
      | file => rfl
      | directory name children =>
        exact congrArg (_ :: ·) (same name children
          ((List.perm_insertionSort _ entries).subset mem) listed _)
    case drawn =>
      rintro ⟨index, entry⟩ mem
      dsimp only
      by_cases excluded : entry.name ∈ exclude
      · rw [if_pos excluded, isListed, decide_eq_true excluded]
        rfl
      by_cases hidden : (!showHidden && entry.name.toList.head? = some '.') = true
      · rw [if_neg excluded, if_pos hidden, isListed, hidden]
        simp
      · rw [if_neg excluded, if_neg hidden, isListed, decide_eq_false excluded,
          Bool.eq_false_iff.mpr hidden]
        cases entry <;> rfl
    case intended =>
      rintro ⟨index, entry⟩ mem
      cases entry <;> rfl

theorem listDirectory_eq_intendedTree_hiddenFirst :
    LastListed false [] [.file ".h", .file "a", .directory "d" [.file "x"]] ∧
      listDirectory [.file ".h", .file "a", .directory "d" [.file "x"]] "" false [] =
        intendedTree [.file ".h", .file "a", .directory "d" [.file "x"]] "" false [] := by
  have lastListed : LastListed false [] [.file ".h", .file "a", .directory "d" [.file "x"]] := by
    refine .intro (fun entry found => ?_) fun name children mem _ => ?_
    · obtain rfl := Option.some.inj found
      decide
    · simp only [List.mem_cons, List.mem_singleton, reduceCtorEq, false_or,
        List.not_mem_nil, or_false, Entry.directory.injEq] at mem
      obtain ⟨rfl, rfl⟩ := mem
      refine .intro (fun entry found => ?_) fun _ _ mem _ => ?_
      · obtain rfl := Option.some.inj found
        decide
      · simp at mem
  exact ⟨lastListed, listDirectory_eq_intendedTree lastListed ""⟩

end XinimTooling.AsciiTree
