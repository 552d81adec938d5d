/-!
# Dictionaries in insertion order

A dictionary is a list of keys with their values, each key at most once, in the order in which
the keys were first put. Putting a key again changes its value and keeps its place.

* `get?_put_self` and `get?_put_of_ne`: putting a key gives it its value and leaves all others.
* `get?_erase_self` and `get?_erase_of_ne`: erasing a key takes it away and leaves all others.
-/

namespace TagGateway.Assoc

variable {κ β : Type} [BEq κ]

/-- The value of a key. -/
def get? (k : κ) : List (κ × β) → Option β
  | [] => none
  | (k', v) :: rest => if k' == k then some v else get? k rest

/-- Whether a key is present. -/
def has (k : κ) (d : List (κ × β)) : Bool := d.any (·.1 == k)

/-- Give a key a value: in its place if it is present, else at the end. -/
def put (k : κ) (v : β) : List (κ × β) → List (κ × β)
  | [] => [(k, v)]
  | (k', v') :: rest => if k' == k then (k', v) :: rest else (k', v') :: put k v rest

/-- The dictionary without a key. -/
def erase (k : κ) (d : List (κ × β)) : List (κ × β) := d.filter fun e => !(e.1 == k)

/-- The dictionary that holds the entries of a list, put one after the other. -/
def ofList (es : List (κ × β)) : List (κ × β) := es.foldl (fun d e => put e.1 e.2 d) []

variable [LawfulBEq κ]

theorem get?_put_self (k : κ) (v : β) (d : List (κ × β)) : get? k (put k v d) = some v := by
  induction d with
  | nil => simp [put, get?]
  | cons e rest ih => by_cases h : e.1 = k <;> simp [put, get?, h, ih]

theorem get?_put_of_ne {k k' : κ} (h : k' ≠ k) (v : β) (d : List (κ × β)) :
    get? k' (put k v d) = get? k' d := by
  induction d with
  | nil => simp [put, get?, Ne.symm h]
  | cons e rest ih =>
    by_cases hk : e.1 = k
    · simp [put, get?, hk, Ne.symm h]
    · simp [put, get?, hk, ih]

theorem get?_erase_self (k : κ) (d : List (κ × β)) : get? k (erase k d) = none := by
  induction d with
  | nil => rfl
  | cons e rest ih =>
    simp only [erase] at ih ⊢
    by_cases hk : e.1 = k <;> simp [get?, hk, ih]

theorem get?_erase_of_ne {k k' : κ} (h : k' ≠ k) (d : List (κ × β)) :
    get? k' (erase k d) = get? k' d := by
  induction d with
  | nil => rfl
  | cons e rest ih =>
    simp only [erase] at ih ⊢
    by_cases hk : e.1 = k
    · simp [get?, hk, ih, Ne.symm h]
    · simp [get?, hk, ih]

end TagGateway.Assoc
