import Disclosure.Json.Scan

/-!
# Documents as far as they can be read

Reading a JSON text always gives a document: a tree that ends, at the latest, at the first
character that does not fit. What is expected of the document is decided afterwards, in the order
of the text, so that a wrong value in front of a malformed one is reported first.

Lists and objects that are still open are kept on a stack of frames; every step takes at least one
character, so reading ends.
-/

namespace Disclosure.Json

/-- A document, read as far as its text allows. -/
inductive Doc where
  /-- Reading stopped here. -/
  | broken (f : Fault)
  /-- A string or number that is complete and has no value. -/
  | flawed (f : Fault)
  | null
  | bool (value : Bool)
  | num (value : Number)
  | str (value : String)
  /-- A list, with the fault that stands in place of its end. -/
  | arr (items : List Doc) (stop : Option Fault)
  /-- An object in document order, with the fault that stands in place of its end. -/
  | obj (members : List (Except Fault String × Doc)) (stop : Option Fault)
deriving Inhabited

/-- A list or object whose end is still to come, with what it holds so far, last part first. -/
inductive Frame where
  | items (done : List Doc)
  | members (done : List (Except Fault String × Doc)) (key : Except Fault String)

namespace Frame

/-- The list or object that a frame becomes when `d` is its last part. -/
def plug (d : Doc) (stop : Option Fault) : Frame → Doc
  | .items done => .arr (d :: done).reverse stop
  | .members done key => .obj ((key, d) :: done).reverse stop

/-- Give up reading at `d`: every open list and object ends with it. -/
def abandon (stack : List Frame) (d : Doc) : Doc :=
  stack.foldl (fun d frame => frame.plug d none) d

end Frame

/-- A blank of JSON. -/
def isBlank (c : Char) : Bool :=
  c == ' ' || c == '\n' || c == '\t' || c == '\r'

/-- Drop leading blanks. -/
def skipBlanks (s : List Char) : List Char :=
  s.dropWhile isBlank

theorem skipBlanks_le (s : List Char) : (skipBlanks s).length ≤ s.length :=
  length_dropWhile_le ..

/-- The fault of a text that continues with `rest` where something else is due. -/
def faultAt (rest : List Char) : Fault :=
  if rest.isEmpty then .endOfText else .malformed

/-- The text that is left after leading blanks is no longer than the whole. -/
theorem le_of_skipBlanks {s t : List Char} (h : skipBlanks s = t) : t.length ≤ s.length :=
  h ▸ skipBlanks_le s

theorem lt_of_skipBlanks {s r : List Char} {c : Char} (h : skipBlanks s = c :: r) :
    r.length < s.length :=
  le_of_skipBlanks h

/-! ### Scalars -/

/-- A scalar as a document. -/
def Scan.toDoc {α : Type} (f : α → Doc) : Scan α → Scan Doc
  | .value a r => .value (f a) r
  | .flawed e r => .flawed e r
  | .stop e => .stop e

theorem Scan.rest?_toDoc {α : Type} (f : α → Doc) (x : Scan α) : (x.toDoc f).rest? = x.rest? := by
  cases x <;> rfl

/-- Read a string, a number or a word. -/
def scanScalar : List Char → Scan Doc
  | [] => .stop .endOfText
  | '"' :: s => (scanString none none [] s).toDoc .str
  | 'n' :: s => (scanWord ['u', 'l', 'l'] s).toDoc fun _ => .null
  | 't' :: s => (scanWord ['r', 'u', 'e'] s).toDoc fun _ => .bool true
  | 'f' :: s => (scanWord ['a', 'l', 's', 'e'] s).toDoc fun _ => .bool false
  | c :: s =>
    if c == '-' || isDigit c then (scanNumber (c :: s)).toDoc .num else .stop .malformed

theorem scanScalar_rest_lt {s r : List Char} (h : (scanScalar s).rest? = some r) :
    r.length < s.length := by
  fun_cases scanScalar s <;> simp only [scanScalar, Scan.rest?_toDoc] at h
  · simp [Scan.rest?] at h
  · have := scanString_rest_lt h
    simp only [List.length_cons]
    omega
  · have := scanWord_rest_le h
    simp only [List.length_cons]
    omega
  · have := scanWord_rest_le h
    simp only [List.length_cons]
    omega
  · have := scanWord_rest_le h
    simp only [List.length_cons]
    omega
  · rename_i hc
    rw [if_pos hc, Scan.rest?_toDoc] at h
    exact scanNumber_rest_lt h
  · rename_i hc
    rw [if_neg hc] at h
    simp [Scan.rest?] at h

theorem lt_of_scanScalar_value {s r : List Char} {d : Doc} (h : scanScalar s = .value d r) :
    r.length < s.length :=
  scanScalar_rest_lt (by rw [h]; rfl)

theorem lt_of_scanScalar_flawed {s r : List Char} {f : Fault} (h : scanScalar s = .flawed f r) :
    r.length < s.length :=
  scanScalar_rest_lt (by rw [h]; rfl)

/-! ### Lists and objects -/

set_option linter.unusedVariables false in
mutual

/-- Read a value, inside the open lists and objects of `stack`. -/
def readValue (stack : List Frame) (s : List Char) : Doc × Option (List Char) :=
  match h : skipBlanks s with
  | [] => (Frame.abandon stack (.broken .endOfText), none)
  | '[' :: r =>
    match h' : skipBlanks r with
    | [] => (Frame.abandon stack (.arr [] (some .endOfText)), none)
    | ']' :: r' => readOn stack (.arr [] none) r'
    | c :: r' => readValue (.items [] :: stack) (c :: r')
  | '{' :: r =>
    match h' : skipBlanks r with
    | '}' :: r' => readOn stack (.obj [] none) r'
    | '"' :: r' => readKey stack [] r'
    | r' => (Frame.abandon stack (.obj [] (some (faultAt r'))), none)
  | c :: r =>
    match h' : scanScalar (c :: r) with
    | .value d r' => readOn stack d r'
    | .flawed f r' => readOn stack (.flawed f) r'
    | .stop f => (Frame.abandon stack (.broken f), none)
termination_by s.length
decreasing_by
  · have := lt_of_skipBlanks h
    have := lt_of_skipBlanks h'
    omega
  · have := lt_of_skipBlanks h
    have := le_of_skipBlanks h'
    omega
  · have := lt_of_skipBlanks h
    have := lt_of_skipBlanks h'
    omega
  · have := lt_of_skipBlanks h
    have := lt_of_skipBlanks h'
    omega
  · have := le_of_skipBlanks h
    have := lt_of_scanScalar_value h'
    omega
  · have := le_of_skipBlanks h
    have := lt_of_scanScalar_flawed h'
    omega

/-- Read the rest of a key, whose opening quote has been read, and the value under it. -/
def readKey (stack : List Frame) (done : List (Except Fault String × Doc)) (s : List Char) :
    Doc × Option (List Char) :=
  let key := scanString none none [] s
  match h : key.rest? with
  | none =>
    let f := key.fault
    (Frame.abandon stack (.obj ((.error f, .broken f) :: done).reverse none), none)
  | some r =>
    match h' : skipBlanks r with
    | ':' :: r' => readValue (.members done key.toExcept :: stack) r'
    | r' =>
      let d := .broken (faultAt r')
      (Frame.abandon stack (.obj ((key.toExcept, d) :: done).reverse none), none)
termination_by s.length
decreasing_by
  have := scanString_rest_lt h
  have := lt_of_skipBlanks h'
  omega

/-- Go on after the value `d`: close or continue the innermost open list or object. -/
def readOn (stack : List Frame) (d : Doc) (s : List Char) : Doc × Option (List Char) :=
  match stack with
  | [] => (d, some s)
  | .items done :: outer =>
    match h : skipBlanks s with
    | ',' :: r => readValue (.items (d :: done) :: outer) r
    | ']' :: r => readOn outer (.arr (d :: done).reverse none) r
    | r => (Frame.abandon outer (.arr (d :: done).reverse (some (faultAt r))), none)
  | .members done key :: outer =>
    match h : skipBlanks s with
    | ',' :: r =>
      match h' : skipBlanks r with
      | '"' :: r' => readKey outer ((key, d) :: done) r'
      | r' =>
        let f := faultAt r'
        (Frame.abandon outer (.obj ((.error f, .broken f) :: (key, d) :: done).reverse none), none)
    | '}' :: r => readOn outer (.obj ((key, d) :: done).reverse none) r
    | r => (Frame.abandon outer (.obj ((key, d) :: done).reverse (some (faultAt r))), none)
termination_by s.length
decreasing_by
  · exact lt_of_skipBlanks h
  · exact lt_of_skipBlanks h
  · have := lt_of_skipBlanks h
    have := lt_of_skipBlanks h'
    omega
  · exact lt_of_skipBlanks h

end

/-- A text read as a document, and the fault of what follows it. -/
structure Reading where
  doc : Doc
  trailing : Option Fault

/-- Read a text. Only blanks may follow the document. -/
def read (s : List Char) : Reading :=
  match readValue [] s with
  | (d, some r) => ⟨d, if (skipBlanks r).isEmpty then none else some .trailing⟩
  | (d, none) => ⟨d, none⟩

end Disclosure.Json
