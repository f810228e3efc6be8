import Mathlib.Data.List.Induction
import Mathlib.Data.List.Nodup
import Mathlib.Tactic.TypeStar

-- A dictionary: a key is listed once, in the order in which the keys were first set.
structure Dict (κ α : Type*) where
  items : List (κ × α)
  nodup : (items.map Prod.fst).Nodup

namespace Dict

variable {κ α : Type*}

@[ext]
theorem ext {d d' : Dict κ α} (h : d.items = d'.items) : d = d' := by
  cases d
  cases d'
  cases h
  rfl

def keys (d : Dict κ α) : List κ := d.items.map Prod.fst

def empty : Dict κ α := ⟨[], List.nodup_nil⟩

-- The items whose key passes a test.
def filterKeys (p : κ → Bool) (d : Dict κ α) : Dict κ α where
  items := d.items.filter fun item => p item.1
  nodup := d.nodup.sublist (List.filter_sublist.map Prod.fst)

theorem items_filterKeys {d : Dict κ α} {p : κ → Bool} :
    (d.filterKeys p).items = d.items.filter fun item => p item.1 := rfl

theorem mem_keys_filterKeys {d : Dict κ α} {p : κ → Bool} {k : κ} :
    k ∈ (d.filterKeys p).keys ↔ k ∈ d.keys ∧ p k = true := by
  constructor
  · intro h
    obtain ⟨item, hitem, rfl⟩ := List.mem_map.mp h
    obtain ⟨hmem, hkey⟩ := List.mem_filter.mp hitem
    exact ⟨List.mem_map_of_mem hmem, hkey⟩
  · rintro ⟨h, hkey⟩
    obtain ⟨item, hmem, rfl⟩ := List.mem_map.mp h
    exact List.mem_map_of_mem (List.mem_filter.mpr ⟨hmem, hkey⟩)

variable [DecidableEq κ]

-- An item keeps its place when its value is set again.
def replace (key : κ) (value : α) (items : List (κ × α)) : List (κ × α) :=
  items.map fun item => if item.1 = key then (key, value) else item

theorem keys_replace {key : κ} {value : α} {items : List (κ × α)} :
    (replace key value items).map Prod.fst = items.map Prod.fst := by
  rw [replace, List.map_map]
  refine List.map_congr_left fun item _ => ?_
  rw [Function.comp_apply]
  by_cases h : item.1 = key
  · rw [if_pos h, h]
  · rw [if_neg h]

-- `d[key] = value`
def set (d : Dict κ α) (key : κ) (value : α) : Dict κ α :=
  if h : key ∈ d.keys then ⟨replace key value d.items, by
    rw [keys_replace]
    exact d.nodup⟩
  else ⟨d.items ++ [(key, value)], by
    rw [List.map_append, List.map_singleton]
    exact d.nodup.append (List.nodup_singleton key) (List.disjoint_singleton.mpr h)⟩

-- `dict(pairs)`
def ofPairs (pairs : List (κ × α)) : Dict κ α :=
  pairs.foldl (fun (d : Dict κ α) pair => d.set pair.1 pair.2) empty

-- `d.pop(key, None)`
def pop (d : Dict κ α) (key : κ) : Option α × Dict κ α :=
  ((d.items.find? fun item => item.1 = key).map Prod.snd, d.filterKeys fun k => k ≠ key)

-- `d.setdefault(key, value)`
def setDefault (d : Dict κ α) (key : κ) (value : α) : Dict κ α :=
  if key ∈ d.keys then d else d.set key value

variable {d : Dict κ α} {key k : κ} {value : α} {pairs : List (κ × α)} {p : κ → Bool} {item : κ × α}

theorem items_set_of_mem (h : key ∈ d.keys) : (d.set key value).items = replace key value d.items := by
  rw [set, dif_pos h]

theorem items_set_of_not_mem (h : key ∉ d.keys) : (d.set key value).items = d.items ++ [(key, value)] := by
  rw [set, dif_neg h]

theorem mem_keys_set : k ∈ (d.set key value).keys ↔ k ∈ d.keys ∨ k = key := by
  by_cases h : key ∈ d.keys
  · have hkeys : (d.set key value).keys = d.keys := by
      rw [keys, items_set_of_mem h]
      exact keys_replace
    rw [hkeys]
    exact (or_iff_left_of_imp fun hkey => hkey ▸ h).symm
  · rw [keys, items_set_of_not_mem h, List.map_append, List.mem_append, List.map_singleton, List.mem_singleton]
    rfl

theorem mem_set (h : item ∈ (d.set key value).items) : item ∈ d.items ∨ item = (key, value) := by
  by_cases hkey : key ∈ d.keys
  · rw [items_set_of_mem hkey] at h
    obtain ⟨old, hold, rfl⟩ := List.mem_map.mp h
    by_cases hsame : old.1 = key
    · exact .inr (if_pos hsame)
    · rw [if_neg hsame]
      exact .inl hold
  · rw [items_set_of_not_mem hkey] at h
    rcases List.mem_append.mp h with hold | hnew
    · exact .inl hold
    · exact .inr (List.mem_singleton.mp hnew)

theorem replace_of_not_mem {items : List (κ × α)} (h : key ∉ items.map Prod.fst) :
    replace key value items = items := by
  have hid : items.map (fun item => if item.1 = key then (key, value) else item) = items.map id := by
    refine List.map_congr_left fun item hitem => if_neg ?_
    rintro rfl
    exact h (List.mem_map_of_mem hitem)
  rw [replace, hid, List.map_id]

theorem filter_replace {items : List (κ × α)} : (replace key value items).filter (fun item => p item.1) =
    replace key value (items.filter fun item => p item.1) := by
  rw [replace, List.filter_map, replace]
  congr 1
  refine List.filter_congr fun item _ => ?_
  rw [Function.comp_apply]
  by_cases h : item.1 = key
  · rw [if_pos h, h]
  · rw [if_neg h]

-- A test on the keys sees a key being set if the key passes it, and nothing otherwise.

theorem filterKeys_set_of_pos (h : p key = true) :
    (d.set key value).filterKeys p = (d.filterKeys p).set key value := by
  apply ext
  by_cases hmem : key ∈ d.keys
  · rw [items_set_of_mem (mem_keys_filterKeys.mpr ⟨hmem, h⟩), items_filterKeys,
      items_set_of_mem hmem, filter_replace,
      items_filterKeys]
  · rw [items_set_of_not_mem fun hkey => hmem (mem_keys_filterKeys.mp hkey).1, items_filterKeys,
      items_set_of_not_mem hmem, List.filter_append, items_filterKeys]
    simp [h]

theorem filterKeys_set_of_neg (h : ¬ p key = true) : (d.set key value).filterKeys p = d.filterKeys p := by
  apply ext
  by_cases hmem : key ∈ d.keys
  · rw [items_filterKeys, items_set_of_mem hmem, filter_replace]
    exact replace_of_not_mem fun hkey => h (mem_keys_filterKeys.mp hkey).2
  · rw [items_filterKeys, items_set_of_not_mem hmem, List.filter_append, items_filterKeys]
    simp [h]

theorem ofPairs_append (pair : κ × α) : ofPairs (pairs ++ [pair]) = (ofPairs pairs).set pair.1 pair.2 := by
  rw [ofPairs, List.foldl_append]
  rfl

theorem mem_keys_ofPairs : k ∈ (ofPairs pairs).keys ↔ k ∈ pairs.map Prod.fst := by
  induction pairs using List.reverseRecOn with
  | nil => rfl
  | append_singleton pairs pair ih =>
      rw [ofPairs_append, mem_keys_set, ih, List.map_append, List.mem_append, List.map_singleton,
        List.mem_singleton]

theorem mem_ofPairs (h : item ∈ (ofPairs pairs).items) : item ∈ pairs := by
  induction pairs using List.reverseRecOn with
  | nil => exact h
  | append_singleton pairs pair ih =>
      rw [ofPairs_append] at h
      rcases mem_set h with hold | rfl
      · exact List.mem_append_left _ (ih hold)
      · exact List.mem_append_right _ (List.mem_singleton_self _)

theorem items_ofPairs (h : (pairs.map Prod.fst).Nodup) : (ofPairs pairs).items = pairs := by
  induction pairs using List.reverseRecOn with
  | nil => rfl
  | append_singleton pairs pair ih =>
      rw [List.map_append, List.map_singleton] at h
      have hfresh : pair.1 ∉ pairs.map Prod.fst := List.disjoint_singleton.mp (List.disjoint_of_nodup_append h)
      rw [ofPairs_append, items_set_of_not_mem (mt mem_keys_ofPairs.mp hfresh),
        ih (List.Nodup.of_append_left h)]

theorem filterKeys_ofPairs : (ofPairs pairs).filterKeys p = ofPairs (pairs.filter fun pair => p pair.1) := by
  induction pairs using List.reverseRecOn with
  | nil => rfl
  | append_singleton pairs pair ih =>
      rw [ofPairs_append, List.filter_append]
      by_cases h : p pair.1 = true
      · have hone : ([pair].filter fun pair => p pair.1) = [pair] := by simp [h]
        rw [filterKeys_set_of_pos h, ih, hone, ofPairs_append]
      · have hnone : ([pair].filter fun pair => p pair.1) = [] := by simp [h]
        rw [filterKeys_set_of_neg h, ih, hnone, List.append_nil]

theorem filter_of_not_mem {items : List (κ × α)} (h : key ∉ items.map Prod.fst) :
    (items.filter fun item => item.1 = key) = [] := by
  rw [List.filter_eq_nil_iff]
  intro item hitem hkey
  exact h (of_decide_eq_true hkey ▸ List.mem_map_of_mem hitem)

-- A dictionary has one item for a key.
theorem items_of_mem_keys (h : key ∈ d.keys) :
    ∃ value, (key, value) ∈ d.items ∧ (d.items.filter fun item => item.1 = key) = [(key, value)] := by
  obtain ⟨⟨_, value⟩, hitem, rfl⟩ := List.mem_map.mp h
  refine ⟨value, hitem, ?_⟩
  have hnodup := d.nodup
  obtain ⟨before, after, hitems⟩ := List.append_of_mem hitem
  rw [hitems, List.map_append, List.map_cons, List.nodup_append, List.nodup_cons] at hnodup
  obtain ⟨-, ⟨hafter, -⟩, hbefore⟩ := hnodup
  have hfresh : ¬ _ ∈ before.map Prod.fst := fun hmem => hbefore _ hmem _ List.mem_cons_self rfl
  rw [hitems, List.filter_append, filter_of_not_mem hfresh, List.filter_cons, if_pos (decide_eq_true rfl),
    filter_of_not_mem hafter, List.nil_append]

theorem setDefault_of_mem (h : key ∈ d.keys) : d.setDefault key value = d := if_pos h

theorem items_setDefault_of_not_mem (h : key ∉ d.keys) :
    (d.setDefault key value).items = d.items ++ [(key, value)] := by
  rw [setDefault, if_neg h, items_set_of_not_mem h]

theorem mem_keys_setDefault : k ∈ (d.setDefault key value).keys ↔ k ∈ d.keys ∨ k = key := by
  by_cases h : key ∈ d.keys
  · rw [setDefault_of_mem h]
    exact (or_iff_left_of_imp fun hkey => hkey ▸ h).symm
  · rw [setDefault, if_neg h, mem_keys_set]

theorem mem_setDefault (h : item ∈ (d.setDefault key value).items) : item ∈ d.items ∨ item = (key, value) := by
  by_cases hkey : key ∈ d.keys
  · rw [setDefault_of_mem hkey] at h
    exact .inl h
  · rw [setDefault, if_neg hkey] at h
    exact mem_set h

end Dict
