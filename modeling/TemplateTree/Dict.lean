/-!
# Dictionaries

Dictionaries with strings as keys, kept as lists of entries in the order of their keys. Strings are
ordered by code points, which is also the order of their UTF-8 bytes. A lookup finds what was inserted
last; this holds of any list of entries, and `Sorted` says that the list is one an insertion leaves
behind.
-/

namespace TemplateTree

abbrev Dict (α : Type) := List (String × α)

namespace Dict

variable {α β : Type}

def get? : Dict α → String → Option α
  | [], _ => none
  | (k, v) :: d, key => if k = key then some v else get? d key

def has (d : Dict α) (key : String) : Bool :=
  (d.get? key).isSome

/-- Gives a key a value, in place of the one it had. -/
def insert : Dict α → String → α → Dict α
  | [], key, value => [(key, value)]
  | (k, v) :: d, key, value =>
    if key < k then (key, value) :: (k, v) :: d
    else if k = key then (key, value) :: d
    else (k, v) :: insert d key value

def insertAll (d : Dict α) (entries : List (String × α)) : Dict α :=
  entries.foldl (fun d e => d.insert e.1 e.2) d

def ofList (entries : List (String × α)) : Dict α :=
  insertAll [] entries

def keys (d : Dict α) : List String :=
  d.map (·.1)

/-- Every key is less than the keys after it. -/
def Sorted (d : Dict α) : Prop :=
  d.Pairwise fun a b => a.1 < b.1

@[simp] theorem get?_nil (key : String) : get? ([] : Dict α) key = none := rfl

@[simp] theorem get?_insert_self (d : Dict α) (key : String) (value : α) :
    (d.insert key value).get? key = some value := by
  induction d with
  | nil => simp [insert, get?]
  | cons e d ih =>
    obtain ⟨k, v⟩ := e
    simp only [insert]
    split
    · simp [get?]
    · split
      · simp [get?]
      · simp [get?, *]

theorem get?_insert_of_ne {key other : String} (h : key ≠ other) (d : Dict α) (value : α) :
    (d.insert key value).get? other = d.get? other := by
  induction d with
  | nil => simp [insert, get?, h]
  | cons e d ih =>
    obtain ⟨k, v⟩ := e
    simp only [insert]
    split
    · simp [get?, h]
    · split
      · next hk => subst hk; simp [get?, h]
      · simp [get?, ih]

theorem get?_insert (d : Dict α) (key other : String) (value : α) :
    (d.insert key value).get? other = if key = other then some value else d.get? other := by
  split
  · next h => subst h; simp
  · next h => exact get?_insert_of_ne h d value

/-- Of the entries of a key the last one counts, and what was there counts for the other keys. -/
theorem get?_insertAll (key : String) : ∀ (entries : List (String × α)) (d : Dict α),
    (d.insertAll entries).get? key = ((ofList entries).get? key).or (d.get? key)
  | [], _ => rfl
  | e :: entries, d => by
    show (insertAll (d.insert e.1 e.2) entries).get? key =
      ((insertAll (insert [] e.1 e.2) entries).get? key).or (d.get? key)
    rw [get?_insertAll key entries, get?_insertAll key entries (insert [] e.1 e.2), get?_insert, get?_insert]
    by_cases h : e.1 = key <;> simp [h]

theorem get?_ofList_eq_none_iff {key : String} {entries : List (String × α)} :
    (ofList entries).get? key = none ↔ key ∉ keys entries := by
  induction entries with
  | nil => simp [ofList, insertAll, keys]
  | cons e entries ih =>
    have hcons : (ofList (e :: entries)).get? key =
        ((ofList entries).get? key).or ((insert [] e.1 e.2).get? key) :=
      get?_insertAll key entries (insert [] e.1 e.2)
    rw [hcons, Option.or_eq_none_iff, ih, get?_insert]
    simp [keys, eq_comm, and_comm]

end Dict

end TemplateTree
