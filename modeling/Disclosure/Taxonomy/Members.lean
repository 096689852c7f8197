import Disclosure.Search.Path
import Disclosure.Taxonomy.Containment

/-!
# Members below a relationship

The target of a relationship and all its members, found by walks through members of members. A
concept may be reached in several ways, but not from itself.
-/

namespace Disclosure

/-- Where a walk through members has come: the members found, and a cycle if it met one. -/
structure MemberWalk where
  members : ConceptSet
  cycle : Option (List Concept)

/-- The result of a walk. -/
def MemberWalk.toExcept (w : MemberWalk) : Except (List Concept) ConceptSet :=
  match w.cycle with
  | some cycle => .error cycle
  | none => .ok w.members

/-- The message about a cycle. -/
def cycleMessage (cycle : List Concept) : String :=
  "Cycle in containment relationships: " ++ arrows (cycle.map Concept.text)

namespace Containment

/-- Whether a concept is of one of the given namespaces; without namespaces, every concept is. -/
def isStandard (standard : Option (List String)) (c : Concept) : Bool :=
  standard.all (·.contains c.ns)

/-- Add a member if it is of one of the given namespaces. -/
def collectMember (standard : Option (List String)) (members : ConceptSet) (c : Concept) :
    ConceptSet :=
  if isStandard standard c then members.insert c else members

set_option linter.unusedVariables false in
mutual

/-- Add the target of a relationship and its members, where `path` leads to the relationship. -/
def walk (g : Containment) (standard : Option (List String)) (path : List Concept)
    (members : ConceptSet) (r : Relationship) (hr : r ∈ g.relationships) : MemberWalk :=
  if hp : r.target ∈ path then ⟨members, some (cycleAt path r.target)⟩
  else
    walkAll g standard (path ++ [r.target]) (collectMember standard members r.target)
      (g.leaving r.target .domainMember (some r.consecutiveRole)) fun _ h => mem_of_mem_leaving h
termination_by (unvisited Relationship.target g.relationships path, 0)
decreasing_by exact Prod.Lex.left _ _ (unvisited_lt hr hp)

/-- Add the targets of relationships and their members, up to the first cycle. -/
def walkAll (g : Containment) (standard : Option (List String)) (path : List Concept)
    (members : ConceptSet) (rs : List Relationship) (hrs : ∀ r ∈ rs, r ∈ g.relationships) :
    MemberWalk :=
  match rs with
  | [] => ⟨members, none⟩
  | r :: rs =>
    let first := walk g standard path members r (hrs r List.mem_cons_self)
    match first.cycle with
    | some _ => first
    | none =>
      walkAll g standard path first.members rs fun x hx => hrs x (List.mem_cons_of_mem r hx)
termination_by (unvisited Relationship.target g.relationships path, rs.length + 1)

end

/-- Add the target of a relationship and its members to those found before. -/
def membersBelow (g : Containment) (standard : Option (List String)) (members : ConceptSet)
    (r : Relationship) (hr : r ∈ g.relationships) : MemberWalk :=
  g.walk standard [] members r hr

/-- The members of an axis: below each of its domains, in any role, the domains included. -/
def membersOnAxis (g : Containment) (axis : Concept) (standard : Option (List String)) :
    Except (List Concept) ConceptSet :=
  MemberWalk.toExcept <| g.walkAll standard [] .empty (g.leaving axis .dimensionDomain none)
    fun _ h => mem_of_mem_leaving h

/-- The relationships to members that leave the concepts with a name, in any role. -/
def leavingNamed (g : Containment) (name : String) : List Relationship :=
  (g.named name).flatMap fun c => g.leaving c .domainMember none

theorem mem_of_mem_leavingNamed {g : Containment} {name : String} {r : Relationship}
    (h : r ∈ g.leavingNamed name) : r ∈ g.relationships := by
  obtain ⟨_, _, h⟩ := List.mem_flatMap.1 h
  exact mem_of_mem_leaving h

/-- All members below the concepts with a name. -/
def membersBelowNamed (g : Containment) (name : String) : Except (List Concept) ConceptSet :=
  MemberWalk.toExcept <| g.walkAll none [] .empty (g.leavingNamed name)
    fun _ h => mem_of_mem_leavingNamed h

end Containment

end Disclosure
