/-!
# Entries in order of first appearance

Parameters, counters, headers and fields are lists of key and value whose order answers show: a
new key goes to the end, and a known key keeps its place when its value changes.

## Main definitions

* `Toolpath.Entries.put` — a value stored under a key.
* `Toolpath.Entries.bump` — a counter raised by one.
* `Toolpath.Entries.find?`, `Toolpath.Entries.remove` — the value of a key, and its removal.
-/

namespace Toolpath.Entries

variable {κ ν : Type} [DecidableEq κ]

/-- The entries with the value of `key` changed by `change`, or with the value `fresh` under a
new key at the end. -/
def alter (key : κ) (change : ν → ν) (fresh : ν) : List (κ × ν) → List (κ × ν)
  | [] => [(key, fresh)]
  | (k, v) :: rest =>
    if k = key then (k, change v) :: rest else (k, v) :: alter key change fresh rest

/-- The entries with a value stored under a key. -/
def put (entries : List (κ × ν)) (key : κ) (value : ν) : List (κ × ν) :=
  alter key (fun _ => value) value entries

/-- The entries put one after the other, so that a later value wins. -/
def putAll (entries new : List (κ × ν)) : List (κ × ν) :=
  new.foldl (fun acc (k, v) => put acc k v) entries

/-- The counters with that of `key` raised by one. -/
def bump (counters : List (κ × Nat)) (key : κ) : List (κ × Nat) :=
  alter key (· + 1) 1 counters

/-- The value of a key. -/
def find? (entries : List (κ × ν)) (key : κ) : Option ν :=
  (entries.find? fun (k, _) => k = key).map (·.2)

/-- The entries without a key. -/
def remove (entries : List (κ × ν)) (key : κ) : List (κ × ν) :=
  entries.filter fun (k, _) => k ≠ key

/-- Storing adds a key at the end unless it is there. -/
theorem keys_alter (key : κ) (change : ν → ν) (fresh : ν) (entries : List (κ × ν)) :
    (alter key change fresh entries).map (·.1)
      = if key ∈ entries.map (·.1) then entries.map (·.1) else entries.map (·.1) ++ [key] := by
  induction entries with
  | nil => simp [alter]
  | cons e rest ih =>
    obtain ⟨k, v⟩ := e
    by_cases h : k = key
    · simp [alter, h]
    · have h' : ¬ key = k := fun e => h e.symm
      simp only [alter, h, if_false, List.map_cons, ih, List.mem_cons, h', false_or]
      split <;> simp

/-- The first entry with a key decides. -/
theorem find?_cons (k : κ) (v : ν) (entries : List (κ × ν)) (key : κ) :
    find? ((k, v) :: entries) key = if k = key then some v else find? entries key := by
  by_cases h : k = key <;> simp [find?, h]

/-- Storing changes the value of its key alone. -/
theorem find?_alter (key other : κ) (change : ν → ν) (fresh : ν) (entries : List (κ × ν)) :
    find? (alter key change fresh entries) other
      = if key = other then some (((find? entries key).map change).getD fresh)
        else find? entries other := by
  induction entries with
  | nil =>
    rw [alter, find?_cons]
    rfl
  | cons e rest ih =>
    obtain ⟨k, v⟩ := e
    by_cases hk : k = key
    · subst hk
      by_cases ho : k = other <;> simp [alter, find?_cons, ho]
    · have halter : alter key change fresh ((k, v) :: rest) = (k, v) :: alter key change fresh rest :=
        if_neg hk
      rw [halter, find?_cons, find?_cons, find?_cons, if_neg hk, ih]
      by_cases ho : k = other
      · have hne : ¬ key = other := fun h => hk (ho.trans h.symm)
        rw [if_pos ho, if_neg hne, if_pos ho]
      · rw [if_neg ho, if_neg ho]

end Toolpath.Entries
