import Disclosure.Json.Text
import Disclosure.Search.Path
import Disclosure.Token.Selection

/-!
# Groups of tokens

A token that starts with `@` refers to a named group, whose members may refer to further groups.
Expansion replaces every reference, depth first and from left to right, by the members of its
group. Groups that were expanded to the end are remembered; the names on the way to the current
reference are kept on a path, and a name that returns to its own path is a cycle.
-/

namespace Disclosure

/-- The mark in front of a reference to a group. -/
def groupMark : Char := '@'

/-- The name of the group that a token refers to. -/
def referencedGroup? (token : String) : Option String :=
  match token.toList with
  | c :: name => if c = groupMark then some (String.ofList name) else none
  | [] => none

/-- The name of the group that a list of tokens refers to, if it is a single reference. -/
def soleReference? : List String → Option String
  | [token] => referencedGroup? token
  | _ => none

/-- A reference that cannot be expanded. -/
inductive GroupError where
  | unknown (name : String)
  | circular (name : String) (cycle : List String)
  | notASequence (name : String)
  | notALeaf (value : Json)

/-- The wording of an error. -/
def GroupError.message : GroupError → String
  | .unknown name => "Missing declaration for @" ++ name
  | .circular name cycle => "Circular reference to @" ++ name ++ " in " ++ arrows cycle
  | .notASequence name => "Group @" ++ name ++ " must be a list of tokens"
  | .notALeaf value => "Token " ++ value.text ++ " is not a string or number"

/-! ### Leaves of a value -/

/-- The scalars of a value in front of its first object, and that object. -/
structure Leaves where
  names : List String
  object : Option Json

mutual

/-- The scalars of a value, through any nesting of lists, up to the first object. -/
def Json.leaves : Json → Leaves
  | .null => ⟨[], none⟩
  | .bool b => ⟨[if b then "true" else "false"], none⟩
  | .num n => ⟨[String.ofList n.text], none⟩
  | .str s => ⟨[s], none⟩
  | .arr items => itemsLeaves items
  | .obj members => ⟨[], some (.obj members)⟩

/-- The scalars of a list of values, up to the first object. -/
def itemsLeaves : List Json → Leaves
  | [] => ⟨[], none⟩
  | v :: vs =>
    match v.leaves with
    | ⟨names, some o⟩ => ⟨names, some o⟩
    | ⟨names, none⟩ =>
      let rest := itemsLeaves vs
      ⟨names ++ rest.names, rest.object⟩

end

/-- The scalars of a value that holds no object. -/
def Json.flatten (v : Json) : Except GroupError (List String) :=
  match v.leaves with
  | ⟨_, some o⟩ => .error (.notALeaf o)
  | ⟨names, none⟩ => .ok names

/-- Whether a value is a list with a reference among its own strings. -/
def Json.refersToGroup (v : Json) : Bool :=
  match v with
  | .arr items => items.any fun item => (item.string?.bind referencedGroup?).isSome
  | _ => false

/-! ### Expansion -/

/-- Groups expanded so far. -/
abbrev Memo := List (String × Tokens)

set_option linter.unusedVariables false in
mutual

/-- The members of a group, all references expanded. -/
def expandGroup (table : Json.Members) (path : List String) (memo : Memo) (name : String) :
    Except GroupError Tokens × Memo :=
  match memo.lookup name with
  | some done => (.ok done, memo)
  | none =>
    if hp : name ∈ path then (.error (.circular name (cycleAt path name)), memo)
    else
      match hv : table.get? name with
      | none => (.error (.unknown name), memo)
      | some members =>
        if members.isObject then (.error (.notASequence name), memo)
        else
          match members.flatten with
          | .error e => (.error e, memo)
          | .ok tokens =>
            match expandTokens table (path ++ [name]) memo .empty tokens with
            | (.error e, memo) => (.error e, memo)
            | (.ok out, memo) => (.ok out, (name, out) :: memo)
termination_by (unvisited Prod.fst table path, 0)
decreasing_by exact Prod.Lex.left _ _ (unvisited_lt (Json.Members.mem_of_get? hv) hp)

/-- Append tokens to `out`, references expanded. -/
def expandTokens (table : Json.Members) (path : List String) (memo : Memo)
    (out : Tokens) : List String → Except GroupError Tokens × Memo
  | [] => (.ok out, memo)
  | t :: ts =>
    match referencedGroup? t with
    | none => expandTokens table path memo (out.insert t) ts
    | some name =>
      match expandGroup table path memo name with
      | (.error e, memo) => (.error e, memo)
      | (.ok tokens, memo) => expandTokens table path memo (out.union tokens) ts
termination_by ts => (unvisited Prod.fst table path, ts.length + 1)

end

/-! ### Resolvers -/

/-- A table of groups with the groups expanded so far. -/
structure Resolver where
  table : Json.Members
  memo : Memo

namespace Resolver

/-- A resolver that has expanded nothing. -/
def ofTable (table : Json.Members) : Resolver := ⟨table, []⟩

/-- The members of a group, all references expanded. -/
def group (r : Resolver) (name : String) : Except GroupError Tokens × Resolver :=
  let (answer, memo) := expandGroup r.table [] r.memo name
  (answer, { r with memo })

/--
The tokens of a value, all references expanded. The wildcard is a token like any other. A value
that is one reference has the members of its group.
-/
def expand (r : Resolver) (names : Json) : Except GroupError Tokens × Resolver :=
  match names.flatten with
  | .error e => (.error e, r)
  | .ok tokens =>
    match soleReference? tokens with
    | some name => r.group name
    | none =>
      let (answer, memo) := expandTokens r.table [] r.memo .empty tokens
      (answer, { r with memo })

/-- The selection that a value describes. -/
def resolve (r : Resolver) (names : Json) : Except GroupError Selection × Resolver :=
  let (answer, r) := r.expand names
  (answer.map Selection.ofTokens, r)

end Resolver

end Disclosure
