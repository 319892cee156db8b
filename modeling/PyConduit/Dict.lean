import Mathlib.Algebra.GroupWithZero.Nat
import Mathlib.Data.List.Nodup

/-!
# Dictionaries that remember the order of insertion

An association list with distinct keys, kept in the order in which the keys
were first inserted: assigning to a key that is present replaces its value where
it stands, a new key goes to the end. Iteration follows this order.
-/

namespace PyConduit

set_option autoImplicit false

structure Dict (Key Value : Type*) where
  entries : List (Key × Value)
  distinct : (entries.map Prod.fst).Nodup

namespace Dict

variable {Key Value : Type*}

def empty : Dict Key Value := ⟨[], List.nodup_nil⟩

def keys (dict : Dict Key Value) : List Key := dict.entries.map Prod.fst

def values (dict : Dict Key Value) : List Value := dict.entries.map Prod.snd

def size (dict : Dict Key Value) : Nat := dict.entries.length

theorem size_eq_keys_length (dict : Dict Key Value) : dict.size = dict.keys.length := by
  simp [size, keys]

variable [DecidableEq Key]

def lookup (dict : Dict Key Value) (key : Key) : Option Value :=
  dict.entries.lookup key

theorem lookup_cons_entry (key first : Key) (value : Value) (rest : List (Key × Value)) :
    List.lookup key ((first, value) :: rest) =
      if key = first then some value else rest.lookup key := by
  by_cases same : key = first
  · simp [same]
  · have differs : (key == first) = false := by simpa using same
    simp [List.lookup_cons, same, differs]

def assign (key : Key) (value : Value) : List (Key × Value) → List (Key × Value)
  | [] => [(key, value)]
  | (other, old) :: rest =>
      if other = key then (key, value) :: rest else (other, old) :: assign key value rest

theorem assign_keys (key : Key) (value : Value) (entries : List (Key × Value)) :
    (assign key value entries).map Prod.fst =
      if key ∈ entries.map Prod.fst then entries.map Prod.fst
      else entries.map Prod.fst ++ [key] := by
  induction entries with
  | nil => simp [assign]
  | cons entry rest induction =>
      obtain ⟨other, old⟩ := entry
      by_cases same : other = key
      · simp [assign, same]
      · simp only [assign, if_neg same, List.map_cons, induction, List.mem_cons,
          Ne.symm same, false_or]
        split
        · rfl
        · rfl

theorem assign_lookup (key other : Key) (value : Value) (entries : List (Key × Value)) :
    (assign key value entries).lookup other =
      if other = key then some value else entries.lookup other := by
  induction entries with
  | nil => simp [assign, lookup_cons_entry]
  | cons entry rest induction =>
      obtain ⟨first, old⟩ := entry
      by_cases same : first = key
      · subst same
        simp only [assign, if_true, lookup_cons_entry]
        split
        · rfl
        · rfl
      · simp only [assign, if_neg same, lookup_cons_entry, induction]
        by_cases asked : other = first
        · have differs : other ≠ key := fun equal => same (asked.symm.trans equal)
          rw [if_pos asked, if_neg differs, if_pos asked]
        · rw [if_neg asked, if_neg asked]

theorem filter_lookup (key other : Key) (entries : List (Key × Value)) :
    (entries.filter fun entry => entry.1 ≠ key).lookup other =
      if other = key then none else entries.lookup other := by
  induction entries with
  | nil => simp
  | cons entry rest induction =>
      obtain ⟨first, value⟩ := entry
      by_cases same : first = key
      · rw [List.filter_cons_of_neg (by simp [same]), induction, lookup_cons_entry, same]
        split
        · rfl
        · rfl
      · rw [List.filter_cons_of_pos (by simpa using same), lookup_cons_entry, induction,
          lookup_cons_entry]
        by_cases asked : other = first
        · have differs : other ≠ key := fun equal => same (asked.symm.trans equal)
          rw [if_pos asked, if_neg differs, if_pos asked]
        · rw [if_neg asked, if_neg asked]

/-- `dict[key] = value` -/
def setItem (dict : Dict Key Value) (key : Key) (value : Value) : Dict Key Value where
  entries := assign key value dict.entries
  distinct := by
    rw [assign_keys]
    split
    · exact dict.distinct
    · next new =>
        apply List.nodup_append.mpr
        refine ⟨dict.distinct, List.nodup_singleton key, ?_⟩
        intro first member second last equal
        rw [List.mem_singleton] at last
        exact new (last ▸ equal ▸ member)

/-- `dict.pop(key, None)`, for its effect on the dictionary -/
def pop (dict : Dict Key Value) (key : Key) : Dict Key Value where
  entries := dict.entries.filter fun entry => entry.1 ≠ key
  distinct := dict.distinct.sublist (List.filter_sublist.map Prod.fst)

@[simp] theorem lookup_empty (key : Key) : (empty : Dict Key Value).lookup key = none := rfl

theorem lookup_set_item (dict : Dict Key Value) (key other : Key) (value : Value) :
    (dict.setItem key value).lookup other =
      if other = key then some value else dict.lookup other :=
  assign_lookup key other value dict.entries

theorem lookup_pop (dict : Dict Key Value) (key other : Key) :
    (dict.pop key).lookup other = if other = key then none else dict.lookup other :=
  filter_lookup key other dict.entries

theorem keys_set_item (dict : Dict Key Value) (key : Key) (value : Value) :
    (dict.setItem key value).keys =
      if key ∈ dict.keys then dict.keys else dict.keys ++ [key] :=
  assign_keys key value dict.entries

theorem mem_keys_set_item (dict : Dict Key Value) (key other : Key) (value : Value) :
    other ∈ (dict.setItem key value).keys ↔ other ∈ dict.keys ∨ other = key := by
  rw [keys_set_item]
  split
  · next present =>
      constructor
      · exact Or.inl
      · rintro (member | rfl)
        · exact member
        · exact present
  · simp

theorem keys_pop (dict : Dict Key Value) (key : Key) :
    (dict.pop key).keys = dict.keys.filter (· ≠ key) := by
  simp [keys, pop, List.filter_map, Function.comp_def]

theorem lookup_eq_some_iff (dict : Dict Key Value) (key : Key) (value : Value) :
    dict.lookup key = some value ↔ (key, value) ∈ dict.entries := by
  obtain ⟨entries, distinct⟩ := dict
  unfold lookup
  induction entries with
  | nil => simp
  | cons entry rest induction =>
      obtain ⟨first, old⟩ := entry
      rw [List.map_cons, List.nodup_cons] at distinct
      rw [lookup_cons_entry, List.mem_cons, Prod.mk.injEq]
      by_cases same : key = first
      · subst same
        have gone : (key, value) ∉ rest := by
          intro member
          exact distinct.1 (List.mem_map.mpr ⟨(key, value), member, rfl⟩)
        simp only [if_true, true_and, gone, or_false, Option.some.injEq]
        exact eq_comm
      · simp only [same, if_false, false_and, false_or]
        exact induction distinct.2

theorem lookup_none_iff (dict : Dict Key Value) (key : Key) :
    dict.lookup key = none ↔ key ∉ dict.keys := by
  constructor
  · intro absent member
    obtain ⟨⟨_, value⟩, entry, rfl⟩ := List.mem_map.mp member
    rw [(dict.lookup_eq_some_iff _ value).mpr entry] at absent
    cases absent
  · intro absent
    cases found : dict.lookup key with
    | none => rfl
    | some value =>
        have entry := (dict.lookup_eq_some_iff key value).mp found
        exact absurd (List.mem_map.mpr ⟨(key, value), entry, rfl⟩) absent

theorem mem_keys_iff (dict : Dict Key Value) (key : Key) :
    key ∈ dict.keys ↔ ∃ value, dict.lookup key = some value := by
  rw [← Option.ne_none_iff_exists', ne_eq, lookup_none_iff, not_not]

theorem assign_of_lookup {key : Key} {value : Value} {entries : List (Key × Value)}
    (found : entries.lookup key = some value) : assign key value entries = entries := by
  induction entries with
  | nil => cases found
  | cons entry rest induction =>
      obtain ⟨first, old⟩ := entry
      rw [lookup_cons_entry] at found
      by_cases same : first = key
      · rw [if_pos same.symm] at found
        cases found
        simp [assign, same]
      · rw [if_neg (Ne.symm same)] at found
        simp [assign, same, induction found]

theorem set_item_eq_self_iff (dict : Dict Key Value) (key : Key) (value : Value) :
    dict.setItem key value = dict ↔ dict.lookup key = some value := by
  constructor
  · intro same
    rw [← same, lookup_set_item, if_pos rfl]
  · intro found
    obtain ⟨entries, distinct⟩ := dict
    simp only [setItem, mk.injEq]
    exact assign_of_lookup found

theorem pop_eq_self_iff (dict : Dict Key Value) (key : Key) :
    dict.pop key = dict ↔ key ∉ dict.keys := by
  constructor
  · intro same
    rw [← lookup_none_iff, ← same, lookup_pop, if_pos rfl]
  · intro absent
    obtain ⟨entries, distinct⟩ := dict
    simp only [pop, mk.injEq, List.filter_eq_self]
    intro entry member
    have differs : entry.1 ≠ key := by
      rintro rfl
      exact absent (List.mem_map.mpr ⟨entry, member, rfl⟩)
    simpa using differs

theorem assign_sum (weigh : Value → Nat) (key : Key) (value : Value) (entries : List (Key × Value)) :
    ((assign key value entries).map fun entry => weigh entry.2).sum +
        ((entries.lookup key).map weigh).getD 0 =
      (entries.map fun entry => weigh entry.2).sum + weigh value := by
  induction entries with
  | nil => simp [assign]
  | cons entry rest induction =>
      obtain ⟨first, old⟩ := entry
      rw [lookup_cons_entry]
      by_cases same : first = key
      · rw [if_pos same.symm]
        simp only [assign, same, if_true, List.map_cons, List.sum_cons, Option.map_some,
          Option.getD_some]
        omega
      · rw [if_neg (Ne.symm same)]
        simp only [assign, same, if_false, List.map_cons, List.sum_cons]
        omega

theorem sum_set_item (weigh : Value → Nat) (dict : Dict Key Value) (key : Key) (value : Value) :
    ((dict.setItem key value).values.map weigh).sum + ((dict.lookup key).map weigh).getD 0 =
      (dict.values.map weigh).sum + weigh value := by
  have sums := assign_sum weigh key value dict.entries
  simpa [values, setItem, lookup, Function.comp_def] using sums

theorem mem_values_iff (dict : Dict Key Value) (value : Value) :
    value ∈ dict.values ↔ ∃ key, dict.lookup key = some value := by
  simp [values, lookup_eq_some_iff]

end Dict

end PyConduit
