/-
Module: XinimTooling.Python.Dict
Purpose: Python `dict` with `str` keys, as the scripts use it: insertion order, distinct
  keys, `defaultdict` access followed by an in-place update, item assignment, dict
  comprehensions over `.items()`, and the key order that `json.dumps(..., sort_keys=True)`
  writes.
Trusted boundary: CPython's dict semantics (insertion-ordered since 3.7)
Main exports: PyDict, PyDict.get?, PyDict.modify, PyDict.setItem, PyDict.erase,
  PyDict.mapValues, PyDict.sortedItems, PyDict.get?_modify, PyDict.keys_modify,
  PyDict.sortedItems_eq_of_get?_eq, PyDict.appendTo, PyDict.getD_foldl_appendTo
-/
import Mathlib.Data.List.Sort
import Mathlib.Data.String.Basic
import Mathlib.Algebra.Order.Ring.Nat

namespace XinimTooling

/-- A Python `dict` keyed by `str`: its items in insertion order.  Distinct keys are a
field, so no value of this type repeats a key, as no Python dict can. -/
structure PyDict (β : Type) where
  entries : List (String × β)
  keys_nodup : (entries.map Prod.fst).Nodup

namespace PyDict

variable {β γ : Type}

/-- `{}`. -/
def empty : PyDict β := ⟨[], List.nodup_nil⟩

/-- `d.keys()`, in insertion order. -/
def keys (d : PyDict β) : List String := d.entries.map Prod.fst

/-- `d.values()`, in insertion order. -/
def values (d : PyDict β) : List β := d.entries.map Prod.snd

/-- Lookup in an item list: the value of the first item with this key. -/
def lookupIn (key : String) : List (String × β) → Option β
  | [] => none
  | (k, v) :: rest => if k = key then some v else lookupIn key rest

/-- `d.get(key)`: `None` when the key is absent. -/
def get? (d : PyDict β) (key : String) : Option β := lookupIn key d.entries

/-- `d.get(key, default)`. -/
def getD (d : PyDict β) (key : String) (default : β) : β := (d.get? key).getD default

/-- Item-list form of `modify`: update the item with this key in place, or append a new
item built from the default. -/
def updateIn (key : String) (default : β) (update : β → β) :
    List (String × β) → List (String × β)
  | [] => [(key, update default)]
  | (k, v) :: rest =>
      if k = key then (k, update v) :: rest else (k, v) :: updateIn key default update rest

theorem map_fst_updateIn (key : String) (default : β) (update : β → β) :
    ∀ entries : List (String × β),
      (updateIn key default update entries).map Prod.fst =
        if key ∈ entries.map Prod.fst then entries.map Prod.fst
        else entries.map Prod.fst ++ [key]
  | [] => by simp [updateIn]
  | (k, v) :: rest => by
      by_cases same : k = key
      · subst same; simp [updateIn]
      · have ih := map_fst_updateIn key default update rest
        simp only [updateIn, same, if_false, List.map_cons, List.mem_cons, ih]
        by_cases mem : key ∈ rest.map Prod.fst <;> simp [mem, Ne.symm same]

/-- `d[key]` on a `defaultdict` (or a `Counter`) followed by an in-place update of the
value: an absent key is first inserted, at the end, with the default. -/
def modify (d : PyDict β) (key : String) (default : β) (update : β → β) : PyDict β :=
  ⟨updateIn key default update d.entries, by
    rw [map_fst_updateIn]
    split
    · exact d.keys_nodup
    · exact List.nodup_append_comm.mp (List.nodup_cons.mpr ⟨‹_›, d.keys_nodup⟩)⟩

/-- `d[key] = value`: an existing key keeps its place and takes the new value. -/
def setItem (d : PyDict β) (key : String) (value : β) : PyDict β :=
  d.modify key value fun _ => value

/-- `del d[key]`, for a key the dict holds. -/
def erase (d : PyDict β) (key : String) : PyDict β :=
  ⟨d.entries.filter (·.1 != key),
    List.Nodup.sublist ((List.filter_sublist d.entries).map Prod.fst) d.keys_nodup⟩

theorem sum_map_snd_updateIn_succ (key : String) :
    ∀ entries : List (String × Nat),
      ((updateIn key 0 (· + 1) entries).map Prod.snd).sum = (entries.map Prod.snd).sum + 1
  | [] => rfl
  | (k, v) :: rest => by
      unfold updateIn
      split
      · simp only [List.map_cons, List.sum_cons]; omega
      · simp only [List.map_cons, List.sum_cons, sum_map_snd_updateIn_succ key rest]; omega

/-- `counter[key] += 1` adds one to the sum of the counter's values. -/
theorem sum_values_modify_succ (d : PyDict Nat) (key : String) :
    (d.modify key 0 (· + 1)).values.sum = d.values.sum + 1 :=
  sum_map_snd_updateIn_succ key d.entries

/-- `{k: f(k, v) for k, v in d.items()}`. -/
def mapValues (f : String → β → γ) (d : PyDict β) : PyDict γ :=
  ⟨d.entries.map (fun item => (item.1, f item.1 item.2)), by
    simpa [Function.comp_def] using d.keys_nodup⟩

/-- The items in the order `json.dumps(..., sort_keys=True)` writes them. -/
def sortedItems (d : PyDict β) : List (String × β) :=
  d.entries.insertionSort (fun first second => first.1 ≤ second.1)

/-! ### Lookup -/

@[simp] theorem get?_empty (key : String) : (empty : PyDict β).get? key = none := rfl

@[simp] theorem keys_empty : (empty : PyDict β).keys = [] := rfl

theorem lookupIn_updateIn (key query : String) (default : β) (update : β → β) :
    ∀ entries : List (String × β),
      lookupIn query (updateIn key default update entries) =
        if query = key then some (update ((lookupIn key entries).getD default))
        else lookupIn query entries
  | [] => by
      by_cases same : query = key
      · subst same; simp [updateIn, lookupIn]
      · simp [updateIn, lookupIn, same, Ne.symm same]
  | (k, v) :: rest => by
      have ih := lookupIn_updateIn key query default update rest
      by_cases hk : k = key
      · subst hk
        by_cases same : query = k <;> simp [updateIn, lookupIn, same, eq_comm]
      · by_cases hq : k = query
        · subst hq; simp [updateIn, lookupIn, hk, Ne.symm hk]
        · simp only [updateIn, lookupIn, hk, hq, if_false, ih]

/-- The one fact about `modify` that lookups need. -/
@[simp] theorem get?_modify (d : PyDict β) (key query : String) (default : β)
    (update : β → β) :
    (d.modify key default update).get? query =
      if query = key then some (update ((d.get? key).getD default)) else d.get? query :=
  lookupIn_updateIn key query default update d.entries

@[simp] theorem get?_setItem (d : PyDict β) (key query : String) (value : β) :
    (d.setItem key value).get? query = if query = key then some value else d.get? query :=
  get?_modify d key query value fun _ => value

/-- A new key is appended; an existing key keeps its place. -/
theorem keys_modify (d : PyDict β) (key : String) (default : β) (update : β → β) :
    (d.modify key default update).keys = if key ∈ d.keys then d.keys else d.keys ++ [key] :=
  map_fst_updateIn key default update d.entries

@[simp] theorem mem_keys_modify (d : PyDict β) (key query : String) (default : β)
    (update : β → β) : query ∈ (d.modify key default update).keys ↔ query ∈ d.keys ∨ query = key := by
  rw [keys_modify]
  split
  · next held => exact ⟨.inl, fun | .inl mem => mem | .inr rfl => held⟩
  · simp

@[simp] theorem mem_keys_setItem (d : PyDict β) (key query : String) (value : β) :
    query ∈ (d.setItem key value).keys ↔ query ∈ d.keys ∨ query = key :=
  mem_keys_modify d key query value fun _ => value

@[simp] theorem getD_setItem (d : PyDict β) (key query : String) (value default : β) :
    (d.setItem key value).getD query default = if query = key then value else d.getD query default := by
  by_cases same : query = key <;> simp [getD, same]

@[simp] theorem getD_modify (d : PyDict β) (key query : String) (default fallback : β)
    (update : β → β) :
    (d.modify key default update).getD query fallback =
      if query = key then update ((d.get? key).getD default) else d.getD query fallback := by
  by_cases same : query = key <;> simp [getD, same]

theorem lookupIn_filter (key query : String) :
    ∀ entries : List (String × β),
      lookupIn query (entries.filter (·.1 != key)) =
        if query = key then none else lookupIn query entries
  | [] => by simp [lookupIn]
  | (k, v) :: rest => by
      have ih := lookupIn_filter key query rest
      by_cases hk : k = key
      · subst hk
        by_cases same : query = k
        · subst same; simpa using ih
        · simp [lookupIn, ih, same, Ne.symm same]
      · by_cases hq : k = query
        · subst hq; simp [lookupIn, hk, Ne.symm hk]
        · simp [lookupIn, hk, hq, ih]

@[simp] theorem get?_erase (d : PyDict β) (key query : String) :
    (d.erase key).get? query = if query = key then none else d.get? query :=
  lookupIn_filter key query d.entries

theorem keys_setItem (d : PyDict β) (key : String) (value : β) :
    (d.setItem key value).keys = if key ∈ d.keys then d.keys else d.keys ++ [key] :=
  keys_modify d key value fun _ => value

theorem updateIn_of_not_mem (key : String) (default : β) (update : β → β) :
    ∀ {entries : List (String × β)}, key ∉ entries.map Prod.fst →
      updateIn key default update entries = entries ++ [(key, update default)]
  | [], _ => rfl
  | (k, v) :: rest, fresh => by
      rw [List.map_cons, List.mem_cons, not_or] at fresh
      rw [updateIn, if_neg (Ne.symm fresh.1), updateIn_of_not_mem key default update fresh.2]
      rfl

/-- Assigning a new key appends its item. -/
theorem entries_setItem_of_not_mem {d : PyDict β} {key : String} (value : β)
    (fresh : key ∉ d.keys) : (d.setItem key value).entries = d.entries ++ [(key, value)] :=
  updateIn_of_not_mem key value _ fresh

theorem keys_erase (d : PyDict β) (key : String) :
    (d.erase key).keys = d.keys.filter (· != key) := by
  simp only [erase, keys, List.filter_map]
  rfl

/-- Deleting a key the dict holds leaves one key fewer. -/
theorem length_keys_erase {d : PyDict β} {key : String} (held : key ∈ d.keys) :
    (d.erase key).keys.length + 1 = d.keys.length := by
  rw [keys_erase, ← (show d.keys.Nodup from d.keys_nodup).erase_eq_filter,
    List.length_erase_of_mem held,
    Nat.sub_add_cancel (List.length_pos_of_mem held)]

theorem lookupIn_eq_some_iff {key : String} {value : β} :
    ∀ {entries : List (String × β)}, (entries.map Prod.fst).Nodup →
      (lookupIn key entries = some value ↔ (key, value) ∈ entries)
  | [], _ => by simp [lookupIn]
  | (k, v) :: rest, nodup => by
      rw [List.map_cons, List.nodup_cons] at nodup
      by_cases hk : k = key
      · subst hk
        have absent : ∀ w, (k, w) ∉ rest := fun w mem =>
          nodup.1 (List.mem_map.mpr ⟨(k, w), mem, rfl⟩)
        constructor
        · intro found; simp_all [lookupIn]
        · intro mem
          rcases List.mem_cons.mp mem with same | later
          · simp_all [lookupIn]
          · exact absurd later (absent value)
      · simp [lookupIn, hk, lookupIn_eq_some_iff nodup.2, Ne.symm hk]

/-- With distinct keys, a lookup reads exactly the items. -/
theorem get?_eq_some_iff (d : PyDict β) {key : String} {value : β} :
    d.get? key = some value ↔ (key, value) ∈ d.entries :=
  lookupIn_eq_some_iff d.keys_nodup

theorem lookupIn_isSome_iff (key : String) :
    ∀ entries : List (String × β), (lookupIn key entries).isSome ↔ key ∈ entries.map Prod.fst
  | [] => by simp [lookupIn]
  | (k, v) :: rest => by
      by_cases hk : k = key
      · subst hk; simp [lookupIn]
      · simp [lookupIn, hk, Ne.symm hk, lookupIn_isSome_iff key rest]

theorem mem_keys_iff (d : PyDict β) (key : String) : key ∈ d.keys ↔ (d.get? key).isSome :=
  (lookupIn_isSome_iff key d.entries).symm

theorem get?_eq_none_of_not_mem {d : PyDict β} {key : String} (absent : key ∉ d.keys) :
    d.get? key = none :=
  Option.not_isSome_iff_eq_none.mp fun held => absent ((mem_keys_iff d key).mpr held)

/-- An item of the list a key holds, the list being `[]` for a missing key. -/
theorem mem_getD_nil_iff (d : PyDict (List γ)) (key : String) (item : γ) :
    item ∈ d.getD key [] ↔ ∃ value, (key, value) ∈ d.entries ∧ item ∈ value := by
  simp only [← get?_eq_some_iff, getD]
  cases d.get? key <;> simp

theorem lookupIn_map (f : String → β → γ) (key : String) :
    ∀ entries : List (String × β),
      lookupIn key (entries.map fun item => (item.1, f item.1 item.2)) =
        (lookupIn key entries).map (f key)
  | [] => rfl
  | (k, v) :: rest => by
      by_cases hk : k = key
      · subst hk; simp [lookupIn]
      · simp [lookupIn, hk, lookupIn_map f key rest]

@[simp] theorem get?_mapValues (f : String → β → γ) (d : PyDict β) (key : String) :
    (d.mapValues f).get? key = (d.get? key).map (f key) :=
  lookupIn_map f key d.entries

@[simp] theorem keys_mapValues (f : String → β → γ) (d : PyDict β) :
    (d.mapValues f).keys = d.keys := by
  simp [keys, mapValues, Function.comp_def]

@[simp] theorem values_mapValues (f : String → β → γ) (d : PyDict β) :
    (d.mapValues f).values = d.entries.map (fun item => f item.1 item.2) := by
  simp [values, mapValues, Function.comp_def]

theorem map_snd_eq_map_lookupIn (default : β) :
    ∀ {entries : List (String × β)}, (entries.map Prod.fst).Nodup →
      entries.map Prod.snd =
        (entries.map Prod.fst).map fun key => (lookupIn key entries).getD default
  | [], _ => rfl
  | (k, v) :: rest, nodup => by
      rw [List.map_cons, List.nodup_cons] at nodup
      simp only [List.map_cons, lookupIn, if_true, Option.getD_some,
        map_snd_eq_map_lookupIn default nodup.2, List.cons.injEq, true_and]
      refine List.map_congr_left fun key mem => ?_
      rw [if_neg fun (same : k = key) => nodup.1 (same ▸ mem)]

/-- `d.values()` lists each key's value, in key order. -/
theorem values_eq_map_getD (d : PyDict β) (default : β) :
    d.values = d.keys.map fun key => d.getD key default :=
  map_snd_eq_map_lookupIn default d.keys_nodup

theorem eq_map_lookupIn (default : β) :
    ∀ {entries : List (String × β)}, (entries.map Prod.fst).Nodup →
      entries = (entries.map Prod.fst).map fun key => (key, (lookupIn key entries).getD default)
  | [], _ => rfl
  | (k, v) :: rest, nodup => by
      rw [List.map_cons, List.nodup_cons] at nodup
      simp only [List.map_cons, lookupIn, if_true, Option.getD_some, List.cons.injEq, true_and]
      refine (eq_map_lookupIn default nodup.2).trans (List.map_congr_left fun key mem => ?_)
      rw [if_neg fun (same : k = key) => nodup.1 (same ▸ mem)]

/-- `d.items()` pairs each key with its value, in key order. -/
theorem entries_eq_map_getD (d : PyDict β) (default : β) :
    d.entries = d.keys.map fun key => (key, d.getD key default) :=
  eq_map_lookupIn default d.keys_nodup

/-- Two dicts with the same lookups hold the same items, up to order. -/
theorem entries_perm_of_get?_eq {first second : PyDict β}
    (same : ∀ key, first.get? key = second.get? key) : first.entries.Perm second.entries := by
  refine (List.perm_ext_iff_of_nodup (first.keys_nodup.of_map _)
    (second.keys_nodup.of_map _)).mpr fun item => ?_
  rw [← get?_eq_some_iff, ← get?_eq_some_iff, same]

/-! ### Sorted keys -/

/-- Strict key order on items; on items with distinct keys it is the order `sort_keys`
writes. -/
def KeyLt (first second : String × β) : Prop := first.1 < second.1

instance : IsAntisymm (String × β) KeyLt :=
  ⟨fun _ _ lt gt => absurd (lt_trans lt gt) (lt_irrefl _)⟩

theorem sortedItems_sorted (d : PyDict β) : d.sortedItems.Sorted KeyLt := by
  have total : IsTotal (String × β) (fun first second => first.1 ≤ second.1) :=
    ⟨fun first second => le_total first.1 second.1⟩
  have trans : IsTrans (String × β) (fun first second => first.1 ≤ second.1) :=
    ⟨fun _ _ _ => le_trans⟩
  have nodup : (d.sortedItems.map Prod.fst).Nodup :=
    ((List.perm_insertionSort _ d.entries).map Prod.fst).nodup_iff.mpr d.keys_nodup
  have sorted := List.sorted_insertionSort (fun first second : String × β =>
    first.1 ≤ second.1) d.entries
  exact ((List.pairwise_map.mp nodup).and sorted).imp fun ⟨distinct, le⟩ =>
    lt_of_le_of_ne le distinct

/-- `sort_keys` output is canonical: dicts with the same lookups are written alike,
whatever their insertion orders. -/
theorem sortedItems_eq_of_get?_eq {first second : PyDict β}
    (same : ∀ key, first.get? key = second.get? key) :
    first.sortedItems = second.sortedItems :=
  List.eq_of_perm_of_sorted
    (((List.perm_insertionSort _ _).trans (entries_perm_of_get?_eq same)).trans
      (List.perm_insertionSort _ _).symm)
    (sortedItems_sorted first) (sortedItems_sorted second)

/-- A dict built by setting each key of a list to one value holds that value at each of
them. -/
theorem getD_foldl_setItem (value default : β) :
    ∀ (keys : List String) (d : PyDict β) (key : String),
      (keys.foldl (fun d k => d.setItem k value) d).getD key default =
        if key ∈ keys then value else d.getD key default
  | [], _, _ => by simp
  | first :: keys, d, key => by
      rw [List.foldl_cons, getD_foldl_setItem value default keys, getD_setItem]
      by_cases listed : key ∈ keys <;> by_cases same : key = first <;> simp [listed, same]

/-! ### Grouping into lists

`for item in items: ... d[key].append(item); break`: the loop that files each item under
the first key a test picks for it, into a dict whose keys are all present from the start.
-/

section AppendTo

variable {α : Type} (classify : α → Option String)

/-- One pass of the grouping loop: `d[key].append(item)` for the key `classify` picks, and
nothing when it picks none. -/
def appendTo (d : PyDict (List α)) (item : α) : PyDict (List α) :=
  match classify item with
  | some key => d.modify key [] (· ++ [item])
  | none => d

/-- When every picked key is already present, the loop adds no key. -/
theorem keys_foldl_appendTo :
    ∀ (items : List α) (d : PyDict (List α)),
      (∀ item ∈ items, ∀ key, classify item = some key → key ∈ d.keys) →
        (items.foldl (appendTo classify) d).keys = d.keys
  | [], _, _ => rfl
  | item :: items, d, present => by
      have step : (appendTo classify d item).keys = d.keys := by
        unfold appendTo
        split
        · next found => rw [keys_modify, if_pos (present item (.head _) _ found)]
        · rfl
      rw [List.foldl_cons, keys_foldl_appendTo items _ (step ▸ fun item mem =>
        present item (.tail _ mem)), step]

/-- Each key ends up holding the items filed under it, in their order, after what it held. -/
theorem getD_foldl_appendTo (key : String) :
    ∀ (items : List α) (d : PyDict (List α)),
      (items.foldl (appendTo classify) d).getD key [] =
        d.getD key [] ++ items.filter fun item => classify item = some key
  | [], _ => by simp
  | item :: items, d => by
      rw [List.foldl_cons, getD_foldl_appendTo key items, List.filter_cons]
      cases found : classify item with
      | none => simp [appendTo, found]
      | some first =>
        by_cases same : key = first
        · simp [appendTo, found, same, getD]
        · simp [appendTo, found, same, Ne.symm same]

end AppendTo

end PyDict

end XinimTooling
