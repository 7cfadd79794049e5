/-
  ChatBot.Dict — a map that keeps the order in which its keys were first given.
-/

namespace ChatBot

/-- A value for some keys; `insert` keeps the place of a key that is there. -/
structure Dict (κ α : Type) where
  entries : List (κ × α)

namespace Dict

variable {κ α : Type} [DecidableEq κ]

def empty : Dict κ α := ⟨[]⟩

instance : Inhabited (Dict κ α) := ⟨empty⟩

def get? (d : Dict κ α) (key : κ) : Option α := d.entries.lookup key

def contains (d : Dict κ α) (key : κ) : Bool := (d.get? key).isSome

def size (d : Dict κ α) : Nat := d.entries.length

def isEmpty (d : Dict κ α) : Bool := d.entries.isEmpty

def keys (d : Dict κ α) : List κ := d.entries.map Prod.fst

def values (d : Dict κ α) : List α := d.entries.map Prod.snd

/-- The entries with `key` set to `value`. -/
def put (key : κ) (value : α) : List (κ × α) → List (κ × α)
  | [] => [(key, value)]
  | e :: es => if e.1 = key then (key, value) :: es else e :: put key value es

def insert (d : Dict κ α) (key : κ) (value : α) : Dict κ α := ⟨put key value d.entries⟩

def erase (d : Dict κ α) (key : κ) : Dict κ α := ⟨d.entries.filter fun e => e.1 != key⟩

/-- Every entry in turn; a later one for the same key wins. -/
def ofList (entries : List (κ × α)) : Dict κ α :=
  entries.foldl (fun d e => d.insert e.1 e.2) empty

/-- The entries in the order of their keys. -/
def sorted (d : Dict String α) : List (String × α) := d.entries.mergeSort fun a b => a.1 ≤ b.1

/-- One more for `key`, counting from nothing. -/
def increment (d : Dict κ Nat) (key : κ) : Dict κ Nat :=
  d.insert key ((d.get? key).getD 0 + 1)

/-! ## What an operation does to a look-up -/

theorem lookup_cons_if (e : κ × α) (es : List (κ × α)) (key : κ) :
    (e :: es).lookup key = if key = e.1 then some e.2 else es.lookup key := by
  rw [show e = (e.1, e.2) from rfl, List.lookup_cons]
  by_cases h : key = e.1
  · simp [h]
  · have hb : (key == e.1) = false := by simp [h]
    simp [h, hb]

theorem lookup_put (key other : κ) (value : α) (es : List (κ × α)) :
    (put key value es).lookup other = if other = key then some value else es.lookup other := by
  induction es with
  | nil => rw [put, lookup_cons_if]
  | cons e es ih =>
    rw [put]
    split
    · rename_i he
      rw [lookup_cons_if, lookup_cons_if, he]
      split <;> rfl
    · rename_i he
      rw [lookup_cons_if, lookup_cons_if, ih]
      by_cases h : other = e.1
      · rw [if_pos h, if_neg (fun hn => he (h ▸ hn)), if_pos h]
      · rw [if_neg h, if_neg h]

theorem get?_insert (d : Dict κ α) (key other : κ) (value : α) :
    (d.insert key value).get? other = if other = key then some value else d.get? other :=
  lookup_put key other value d.entries

theorem lookup_filter_ne (key other : κ) (es : List (κ × α)) :
    (es.filter fun e => e.1 != key).lookup other = if other = key then none else es.lookup other := by
  induction es with
  | nil => simp
  | cons e es ih =>
    by_cases he : e.1 = key
    · rw [List.filter_cons_of_neg (by simp [he]), ih, lookup_cons_if, he]
      split <;> rfl
    · rw [List.filter_cons_of_pos (by simp [he]), lookup_cons_if, lookup_cons_if, ih]
      by_cases h : other = e.1
      · rw [if_pos h, if_neg (fun hn => he (h ▸ hn)), if_pos h]
      · rw [if_neg h, if_neg h]

theorem get?_erase (d : Dict κ α) (key other : κ) :
    (d.erase key).get? other = if other = key then none else d.get? other :=
  lookup_filter_ne key other d.entries

theorem mem_values_of_get? {d : Dict κ α} {key : κ} {value : α} (h : d.get? key = some value) :
    value ∈ d.values := by
  obtain ⟨before, after, he, -⟩ := List.lookup_eq_some_iff.mp h
  rw [values, he]
  simp

end Dict

end ChatBot
