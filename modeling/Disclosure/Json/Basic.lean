import Disclosure.Number.Shortest

/-!
# JSON values

Values of JSON documents. Objects keep the order of their keys; a number is either an integer of at
most 64 bits or a floating-point number, and stays what it was read as.
-/

namespace Disclosure

/-- A number of a JSON document. -/
inductive Json.Number where
  | int (value : Int)
  | float (value : Binary64)
deriving DecidableEq

/-- A JSON value. The members of an object stand in document order, with distinct keys. -/
inductive Json where
  | null
  | bool (value : Bool)
  | num (value : Json.Number)
  | str (value : String)
  | arr (items : List Json)
  | obj (members : List (String × Json))
deriving Inhabited

namespace Json

/-- The members of an object. -/
abbrev Members := List (String × Json)

/-- The text of a number: an integer in decimal digits, any other number in its shortest form. -/
def Number.text : Number → List Char
  | .int n => integerText n
  | .float x => x.text

/-! ### Members -/

namespace Members

/-- The value under a key. -/
def get? (key : String) : Members → Option Json
  | [] => none
  | (k, v) :: ms => if k = key then some v else get? key ms

/-- Whether an object has a key. -/
def hasKey (key : String) (ms : Members) : Bool :=
  (get? key ms).isSome

/-- Set the value under a key: in its place if the key is present, and last otherwise. -/
def put (key : String) (value : Json) : Members → Members
  | [] => [(key, value)]
  | (k, v) :: ms => if k = key then (k, value) :: ms else (k, v) :: put key value ms

@[simp] theorem get?_nil (key : String) : get? key [] = none := rfl

theorem get?_cons (key k : String) (v : Json) (ms : Members) :
    get? key ((k, v) :: ms) = if k = key then some v else get? key ms := rfl

theorem mem_of_get? {key : String} {v : Json} {ms : Members} (h : get? key ms = some v) :
    (key, v) ∈ ms := by
  induction ms with
  | nil => simp at h
  | cons m ms ih =>
    rw [show m = (m.1, m.2) from rfl, get?_cons] at h
    split at h
    next hk =>
      cases h
      exact hk ▸ List.mem_cons_self
    next => exact List.mem_cons_of_mem m (ih h)

theorem get?_put_self (key : String) (value : Json) (ms : Members) :
    get? key (put key value ms) = some value := by
  induction ms with
  | nil => simp [put, get?]
  | cons m ms ih => by_cases h : m.1 = key <;> simp [put, get?, h, ih]

theorem get?_put_of_ne {key key' : String} (h : key ≠ key') (value : Json) (ms : Members) :
    get? key' (put key value ms) = get? key' ms := by
  induction ms with
  | nil => simp [put, get?, h]
  | cons m ms ih =>
    by_cases hm : m.1 = key
    · simp [put, get?, hm, h]
    · by_cases hm' : m.1 = key' <;> simp [put, get?, hm, hm', ih, h.symm]

end Members

/-! ### Views of a value -/

/-- The members, if the value is an object. -/
def members? : Json → Option Members
  | .obj ms => some ms
  | _ => none

/-- The items, if the value is a list. -/
def items? : Json → Option (List Json)
  | .arr items => some items
  | _ => none

/-- The text, if the value is a string. -/
def string? : Json → Option String
  | .str s => some s
  | _ => none

/-- The value under a key, if the value is an object that has it. -/
def get? (key : String) : Json → Option Json
  | .obj ms => Members.get? key ms
  | _ => none

/-- Whether the value is an object. -/
def isObject (v : Json) : Bool :=
  v.members?.isSome

/-- Whether the value is a list. -/
def isList (v : Json) : Bool :=
  v.items?.isSome

end Json

end Disclosure
