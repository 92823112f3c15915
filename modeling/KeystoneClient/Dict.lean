import Mathlib.Data.Finset.Basic

/-!
# Python dictionaries with unique keys

The builders keep their attributes and expression values in Python `dict`s, and
the Put builder copies them into protobuf `map` fields. Both are finite maps with
unique keys. A Python `dict` also remembers insertion order, and an assignment to
a present key keeps that key's position.

A `Dict` is the list of its `items()` in that order. The uniqueness of its keys is
a field, so no operation can build a dictionary with a repeated key, and every
later proof reads it from the value instead of re-establishing it.

A protobuf `map` keeps no order. `MapField` is a dictionary up to the order of its
keys: the quotient of dictionaries by storing the same value under every key. What
a map field offers, its lookups and its set of keys, is lifted through the quotient.
-/

namespace KeystoneClient

/-- A Python `dict`: its `items()` in insertion order, with unique keys. -/
structure Dict (κ ν : Type) where
  /-- `items()`, oldest key first. -/
  items : List (κ × ν)
  /-- No key occurs twice. -/
  keys_nodup : (items.map Prod.fst).Nodup

namespace Dict

/-- Dictionaries with the same items in the same order are equal. -/
theorem ext_items {κ ν : Type} {d e : Dict κ ν} (same : d.items = e.items) : d = e := by
  cases d
  cases e
  cases same
  rfl

variable {κ ν μ : Type} [DecidableEq κ]

/-- The entries after `d[key] = value`: a present key keeps its position and takes
the new value; an absent key is appended. -/
def setItem (key : κ) (value : ν) : List (κ × ν) → List (κ × ν)
  | [] => [(key, value)]
  | entry :: rest => if entry.1 = key then (key, value) :: rest else entry :: setItem key value rest

/-- The value of the first entry stored under `key`. -/
def lookup (key : κ) : List (κ × ν) → Option ν
  | [] => none
  | entry :: rest => if entry.1 = key then some entry.2 else lookup key rest

/-- An assignment adds its key and no other. -/
theorem mem_keys_setItem (key tested : κ) (value : ν) (entries : List (κ × ν)) :
    tested ∈ (setItem key value entries).map Prod.fst ↔ tested = key ∨ tested ∈ entries.map Prod.fst := by
  induction entries with
  | nil => simp [setItem]
  | cons entry rest inductionHypothesis =>
    by_cases present : entry.1 = key <;>
      simp only [setItem, present, if_true, if_false, List.map_cons, List.mem_cons,
        inductionHypothesis] <;> tauto

/-- An assignment never repeats a key: a present key is overwritten in place. -/
theorem setItem_nodup (key : κ) (value : ν) (entries : List (κ × ν))
    (unique : (entries.map Prod.fst).Nodup) : ((setItem key value entries).map Prod.fst).Nodup := by
  induction entries with
  | nil => simp [setItem]
  | cons entry rest inductionHypothesis =>
    obtain ⟨absent, restUnique⟩ := List.nodup_cons.mp unique
    by_cases present : entry.1 = key
    · simpa only [setItem, present, if_true, List.map_cons] using unique
    · simp only [setItem, present, if_false, List.map_cons, List.nodup_cons, mem_keys_setItem]
      exact ⟨by tauto, inductionHypothesis restUnique⟩

/-- Reading after an assignment sees the assigned value under its key and the old
value under every other key. -/
theorem lookup_setItem (key tested : κ) (value : ν) (entries : List (κ × ν)) :
    lookup tested (setItem key value entries) =
      if key = tested then some value else lookup tested entries := by
  induction entries with
  | nil => simp [setItem, lookup]
  | cons entry rest inductionHypothesis =>
    obtain ⟨stored, old⟩ := entry
    by_cases present : stored = key
    · subst present
      by_cases same : stored = tested <;> simp [setItem, lookup, same]
    · by_cases same : stored = tested
      · subst same
        simp [setItem, lookup, present, Ne.symm present]
      · simp [setItem, lookup, present, same, inductionHypothesis]

/-- A key is stored exactly when a lookup finds a value for it. -/
theorem mem_keys_iff_lookup (tested : κ) (entries : List (κ × ν)) :
    tested ∈ entries.map Prod.fst ↔ (lookup tested entries).isSome := by
  induction entries with
  | nil => simp [lookup]
  | cons entry rest inductionHypothesis =>
    obtain ⟨stored, value⟩ := entry
    by_cases same : stored = tested
    · subst same
      simp [lookup]
    · simp [lookup, same, inductionHypothesis, Ne.symm same]

/-- Assigning twice to one key is assigning once, the second value: the key keeps
its place and the first value is gone. -/
theorem setItem_setItem (key : κ) (first second : ν) (entries : List (κ × ν)) :
    setItem key second (setItem key first entries) = setItem key second entries := by
  induction entries with
  | nil => simp [setItem]
  | cons entry rest inductionHypothesis =>
    by_cases present : entry.1 = key <;> simp [setItem, present, inductionHypothesis]

/-- Assigning to a key not yet present appends it after the others. -/
theorem setItem_of_not_mem (key : κ) (value : ν) (entries : List (κ × ν))
    (absent : key ∉ entries.map Prod.fst) : setItem key value entries = entries ++ [(key, value)] := by
  induction entries with
  | nil => rfl
  | cons entry rest inductionHypothesis =>
    have different : entry.1 ≠ key := fun same => absent (same ▸ List.mem_cons_self _ _)
    simp [setItem, different,
      inductionHypothesis (fun member => absent (List.mem_cons_of_mem _ member))]

/-- In a list of unique keys, a lookup of an entry's key finds that entry's value. -/
theorem lookup_of_mem (entries : List (κ × ν)) (unique : (entries.map Prod.fst).Nodup)
    {entry : κ × ν} (member : entry ∈ entries) : lookup entry.1 entries = some entry.2 := by
  induction entries with
  | nil => cases member
  | cons head rest inductionHypothesis =>
    obtain ⟨absent, restUnique⟩ := List.nodup_cons.mp unique
    rcases List.mem_cons.mp member with rfl | later
    · simp [lookup]
    · have different : head.1 ≠ entry.1 := fun same =>
        absent (same ▸ List.mem_map_of_mem Prod.fst later)
      simp [lookup, different, inductionHypothesis restUnique later]

/-- `{}`. -/
def empty : Dict κ ν := ⟨[], List.nodup_nil⟩

/-- `d[key] = value`. -/
def set (d : Dict κ ν) (key : κ) (value : ν) : Dict κ ν :=
  ⟨setItem key value d.items, setItem_nodup key value d.items d.keys_nodup⟩

/-- `d.get(key)`: the stored value, `None` for an absent key. -/
def get (d : Dict κ ν) (key : κ) : Option ν := lookup key d.items

/-- `d.keys()`, in insertion order. -/
def keys (d : Dict κ ν) : List κ := d.items.map Prod.fst

/-- `{key: f(value) for key, value in d.items()}`: the same keys, in the same
order, with each value transformed. -/
def mapValues (f : ν → μ) (d : Dict κ ν) : Dict κ μ :=
  ⟨d.items.map (fun entry => (entry.1, f entry.2)), by simpa [Function.comp_def] using d.keys_nodup⟩

/-- `d[key] = second` after `d[key] = first` leaves the dictionary `d[key] = second`
alone would. -/
theorem set_set (d : Dict κ ν) (key : κ) (first second : ν) :
    (d.set key first).set key second = d.set key second :=
  ext_items (setItem_setItem key first second d.items)

/-- An empty dictionary stores nothing. -/
@[simp] theorem get_empty (key : κ) : (empty : Dict κ ν).get key = none := rfl

/-- `d[key] = value` is read back under `key`; every other key reads as before. -/
@[simp] theorem get_set (d : Dict κ ν) (key tested : κ) (value : ν) :
    (d.set key value).get tested = if key = tested then some value else d.get tested :=
  lookup_setItem key tested value d.items

/-- A key of a dictionary is exactly a key with a stored value. -/
theorem mem_keys_iff_get (d : Dict κ ν) (key : κ) : key ∈ d.keys ↔ (d.get key).isSome :=
  mem_keys_iff_lookup key d.items

/-- Each entry of a dictionary is what a lookup of its key finds. -/
theorem get_of_mem (d : Dict κ ν) {entry : κ × ν} (member : entry ∈ d.items) :
    d.get entry.1 = some entry.2 :=
  lookup_of_mem d.items d.keys_nodup member

/-- A comprehension stores the transformed value under each key it had. -/
@[simp] theorem get_mapValues (f : ν → μ) (d : Dict κ ν) (key : κ) :
    (d.mapValues f).get key = (d.get key).map f := by
  simp only [get, mapValues]
  induction d.items with
  | nil => rfl
  | cons entry rest inductionHypothesis =>
    by_cases same : entry.1 = key <;> simp [lookup, same, inductionHypothesis]

/-- Dictionaries that store the same value under every key, in whatever order. -/
def SameEntries (d e : Dict κ ν) : Prop := ∀ key, d.get key = e.get key

/-- Storing the same values is an equivalence. -/
instance entriesSetoid : Setoid (Dict κ ν) where
  r := SameEntries
  iseqv := ⟨fun _ _ => rfl, fun same key => (same key).symm,
    fun first second key => (first key).trans (second key)⟩

end Dict

/-- A protobuf `map` field: a value under each of finitely many keys, in no order.
It is what a message constructor keeps of the Python `dict` it is given. -/
def MapField (κ ν : Type) [DecidableEq κ] : Type := Quotient (@Dict.entriesSetoid κ ν _)

namespace MapField

variable {κ ν : Type} [DecidableEq κ]

/-- The map field holding a dictionary's entries. -/
def ofDict (d : Dict κ ν) : MapField κ ν := Quotient.mk _ d

/-- Every map field holds the entries of some dictionary. -/
theorem exists_ofDict (m : MapField κ ν) : ∃ d, ofDict d = m := Quotient.exists_rep m

/-- `m[key]` for a present key, `None` for an absent one. -/
def get (m : MapField κ ν) (key : κ) : Option ν :=
  Quotient.liftOn m (·.get key) fun _ _ same => same key

/-- The keys of a map field, as a set. -/
def keys (m : MapField κ ν) : Finset κ :=
  Quotient.liftOn m (·.keys.toFinset) fun d e same => Finset.ext fun key => by
    simp only [List.mem_toFinset, Dict.mem_keys_iff_get, same key]

/-- The empty map. -/
def empty : MapField κ ν := ofDict Dict.empty

/-- A map field reads as the dictionary it holds. -/
@[simp] theorem get_ofDict (d : Dict κ ν) (key : κ) : (ofDict d).get key = d.get key := rfl

/-- A key of a map field is exactly a key with a stored value. -/
theorem mem_keys_iff_get (m : MapField κ ν) (key : κ) : key ∈ m.keys ↔ (m.get key).isSome := by
  obtain ⟨d, rfl⟩ := exists_ofDict m
  exact List.mem_toFinset.trans (Dict.mem_keys_iff_get d key)

end MapField

end KeystoneClient
