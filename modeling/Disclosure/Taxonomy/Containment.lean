import Disclosure.Fact.ConceptSet

/-!
# Containment relationships

How concepts contain one another: tables contain axes, axes have domains, and domains and members
have members. Every relationship belongs to a link role, and may name the role in which the
relationships of its target are looked up.
-/

namespace Disclosure

/-- The kinds of containment. -/
inductive Arcrole where
  | hypercubeDimension
  | dimensionDomain
  | domainMember
deriving DecidableEq

namespace Arcrole

/-- The kinds of containment. -/
def all : List Arcrole := [.hypercubeDimension, .dimensionDomain, .domainMember]

/-- The identifier of a kind. -/
def uri : Arcrole → String
  | .hypercubeDimension => "http://xbrl.org/int/dim/arcrole/hypercube-dimension"
  | .dimensionDomain => "http://xbrl.org/int/dim/arcrole/dimension-domain"
  | .domainMember => "http://xbrl.org/int/dim/arcrole/domain-member"

/-- The kind with an identifier. -/
def ofUri? (uri : String) : Option Arcrole :=
  all.find? (·.uri == uri)

end Arcrole

/-- A relationship between two concepts. -/
structure Relationship where
  source : Concept
  target : Concept
  arcrole : Arcrole
  linkRole : String
  targetRole : Option String
deriving DecidableEq

namespace Relationship

/-- The role in which the relationships of the target are looked up. -/
def consecutiveRole (r : Relationship) : String :=
  r.targetRole.getD r.linkRole

/-- Whether a relationship may follow another: it leaves its target in its consecutive role. -/
def follows (r previous : Relationship) : Bool :=
  r.source == previous.target && r.linkRole == previous.consecutiveRole

theorem follows_iff {r previous : Relationship} :
    r.follows previous ↔
      r.source = previous.target ∧ r.linkRole = previous.consecutiveRole := by
  simp [follows]

end Relationship

/-- Relationships in the order in which they were added. -/
structure Containment where
  relationships : List Relationship

namespace Containment

/-- No relationships. -/
def empty : Containment := ⟨[]⟩

/-- Add a relationship. -/
def add (g : Containment) (r : Relationship) : Containment :=
  ⟨g.relationships ++ [r]⟩

/-- Relationships added one after another. -/
def ofList (rs : List Relationship) : Containment :=
  rs.foldl add empty

theorem relationships_foldl_add (rs : List Relationship) (g : Containment) :
    (rs.foldl add g).relationships = g.relationships ++ rs := by
  induction rs generalizing g with
  | nil => simp
  | cons r rs ih => simp [ih, add]

@[simp] theorem relationships_ofList (rs : List Relationship) :
    (ofList rs).relationships = rs :=
  relationships_foldl_add rs empty

/-- The concepts at the ends of the relationships. -/
def concepts (g : Containment) : ConceptSet :=
  .ofList (g.relationships.flatMap fun r => [r.source, r.target])

/-- Whether a relationship is in the given role; without a role, every relationship is. -/
def inRole (role : Option String) (r : Relationship) : Bool :=
  role.all (· == r.linkRole)

/-- The relationships of a kind that leave a concept, in a role if one is given. -/
def leaving (g : Containment) (source : Concept) (arcrole : Arcrole) (role : Option String) :
    List Relationship :=
  g.relationships.filter fun r => r.source == source && r.arcrole == arcrole && inRole role r

@[simp] theorem inRole_none (r : Relationship) : inRole none r = true := rfl

@[simp] theorem inRole_some {role : String} {r : Relationship} :
    inRole (some role) r ↔ r.linkRole = role := by
  rw [inRole, Option.all_some, beq_iff_eq, eq_comm]

theorem mem_leaving {g : Containment} {source : Concept} {arcrole : Arcrole}
    {role : Option String} {r : Relationship} :
    r ∈ g.leaving source arcrole role ↔
      r ∈ g.relationships ∧ r.source = source ∧ r.arcrole = arcrole ∧ inRole role r := by
  simp [leaving, and_assoc]

theorem mem_of_mem_leaving {g : Containment} {source : Concept} {arcrole : Arcrole}
    {role : Option String} {r : Relationship} (h : r ∈ g.leaving source arcrole role) :
    r ∈ g.relationships :=
  (mem_leaving.1 h).1

/-- The concepts with a name, in order. -/
def named (g : Containment) (name : String) : List Concept :=
  g.concepts.items.filter (·.name == name)

end Containment

end Disclosure
