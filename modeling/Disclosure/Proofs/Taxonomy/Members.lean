import Disclosure.Proofs.Search.Cycle
import Disclosure.Taxonomy.Members

/-!
# Walks through members

The members of an axis and the members below a name are the targets of all walks, unless a walk
meets a concept twice. Then the answer is a cycle of members that a walk leads to (`Surveyed`,
`members_surveyed`).

The recursion has no set of visited concepts. What carries the proof is its path: the walks from a
relationship are the relationship and the walks from its members, on a path that is one target
longer (`walk_cons`, `Covered.onward`).
-/

namespace Disclosure

namespace Containment

variable {g : Containment} {standard : Option (List String)} {path cycle : List Concept}
  {before : ConceptSet} {out rest : MemberWalk} {starts : Relationship → Prop}
  {r : Relationship} {rs steps : List Relationship} {c : Concept}

/-! ### Walks -/

/-- The concepts that relationships lead to. -/
def targets (steps : List Relationship) : List Concept :=
  steps.map (·.target)

@[simp] lemma targets_nil : targets [] = [] := rfl

@[simp] lemma targets_cons : targets (r :: steps) = r.target :: targets steps := rfl

@[simp] lemma targets_append (steps steps' : List Relationship) :
    targets (steps ++ steps') = targets steps ++ targets steps' :=
  List.map_append

/--
A walk: it begins with one of the given relationships and goes on through relationships to members,
each of which leaves the target of the one before in its consecutive role.
-/
structure Walk (g : Containment) (starts : Relationship → Prop) (steps : List Relationship) :
    Prop where
  added : ∀ r ∈ steps, r ∈ g.relationships
  starts : ∃ r ∈ steps.head?, starts r
  toMembers : ∀ r ∈ steps.tail, r.arcrole = .domainMember
  consecutive : steps.IsChain fun r next => next.follows r

/-- The relationships to members with which a walk goes on after a relationship. -/
abbrev membersOf (g : Containment) (r : Relationship) : List Relationship :=
  g.leaving r.target .domainMember (some r.consecutiveRole)

lemma mem_membersOf {next : Relationship} :
    next ∈ g.membersOf r ↔
      next ∈ g.relationships ∧ next.arcrole = .domainMember ∧ next.follows r := by
  rw [mem_leaving, inRole_some, Relationship.follows_iff]
  tauto

lemma walk_cons :
    g.Walk starts (r :: steps) ↔
      r ∈ g.relationships ∧ starts r ∧ (steps = [] ∨ g.Walk (· ∈ g.membersOf r) steps) := by
  constructor
  · rintro ⟨hadded, ⟨r', hhead, hstarts⟩, hmembers, hchain⟩
    obtain rfl : r = r' := by simpa using hhead
    obtain ⟨hr, hadded⟩ := List.forall_mem_cons.1 hadded
    refine ⟨hr, hstarts, ?_⟩
    cases steps with
    | nil => exact .inl rfl
    | cons next steps =>
      obtain ⟨hnext, hchain⟩ := List.isChain_cons_cons.1 hchain
      obtain ⟨hmember, hmembers⟩ := List.forall_mem_cons.1 hmembers
      have hmem : next ∈ g.membersOf r :=
        mem_membersOf.2 ⟨hadded next List.mem_cons_self, hmember, hnext⟩
      exact .inr ⟨hadded, ⟨next, rfl, hmem⟩, hmembers, hchain⟩
  · rintro ⟨hr, hstarts, rfl | hrest⟩
    · refine ⟨by simpa using hr, ⟨r, rfl, hstarts⟩, ?_, List.isChain_singleton r⟩
      simp
    · obtain ⟨hadded, ⟨next, hnext, hmem⟩, hmembers, hchain⟩ := hrest
      obtain ⟨steps', rfl⟩ := List.head?_eq_some_iff.1 hnext
      obtain ⟨-, hmember, hfollows⟩ := mem_membersOf.1 hmem
      exact ⟨List.forall_mem_cons.2 ⟨hr, hadded⟩, ⟨r, rfl, hstarts⟩,
        List.forall_mem_cons.2 ⟨hmember, hmembers⟩, List.isChain_cons_cons.2 ⟨hfollows, hchain⟩⟩

lemma Walk.imp {starts' : Relationship → Prop} (h : g.Walk starts steps)
    (himp : ∀ r ∈ g.relationships, starts r → starts' r) : g.Walk starts' steps := by
  obtain ⟨r, hr, hstarts⟩ := h.starts
  have hadded := h.added r (List.mem_of_mem_head? hr)
  exact { h with starts := ⟨r, hr, himp r hadded hstarts⟩ }

/-- Whether a concept is a member of another one. -/
def HasMember (g : Containment) (a b : Concept) : Prop :=
  ∃ r ∈ g.relationships, r.arcrole = .domainMember ∧ r.source = a ∧ r.target = b

lemma Walk.isChain_targets (h : g.Walk starts steps) : (targets steps).IsChain g.HasMember := by
  induction steps generalizing starts with
  | nil => exact List.isChain_nil
  | cons r steps ih =>
    obtain ⟨-, -, rfl | hrest⟩ := walk_cons.1 h
    · exact List.isChain_singleton _
    · obtain ⟨next, hnext, hmem⟩ := hrest.starts
      obtain ⟨steps', rfl⟩ := List.head?_eq_some_iff.1 hnext
      obtain ⟨hadded, hmember, hfollows⟩ := mem_membersOf.1 hmem
      have hsource : next.source = r.target := (Relationship.follows_iff.1 hfollows).1
      exact List.isChain_cons_cons.2 ⟨⟨next, hadded, hmember, hsource, rfl⟩, ih hrest⟩

/-! ### What a walk covers -/

/-- Whether a walk that continues a path meets a concept again at its end, and closes a cycle. -/
def ClosesCycle (path : List Concept) (steps : List Relationship) (cycle : List Concept) : Prop :=
  ∃ before last, steps = before ++ [last] ∧ (path ++ targets before).Nodup ∧
    last.target ∈ path ++ targets before ∧ cycle = cycleAt (path ++ targets before) last.target

lemma ClosesCycle.cons (h : ClosesCycle (path ++ [r.target]) steps cycle) :
    ClosesCycle path (r :: steps) cycle := by
  obtain ⟨before, last, rfl, hnodup, hlast, rfl⟩ := h
  refine ⟨r :: before, last, rfl, ?_⟩
  simp only [List.append_assoc, List.singleton_append] at hnodup hlast ⊢
  exact ⟨hnodup, hlast, rfl⟩

/--
Whether the result of a recursion accounts for all walks from some relationships, on a path: without
a cycle no walk meets a concept twice, and their targets have been added; a cycle is one that a walk
closes.
-/
structure Covered (g : Containment) (standard : Option (List String)) (path : List Concept)
    (before : ConceptSet) (starts : Relationship → Prop) (out : MemberWalk) : Prop where
  distinct : out.cycle = none → ∀ steps, g.Walk starts steps → (path ++ targets steps).Nodup
  members : out.cycle = none → ∀ c, c ∈ out.members.items ↔
    c ∈ before.items ∨ isStandard standard c ∧ ∃ steps, g.Walk starts steps ∧ c ∈ targets steps
  closed : ∀ cycle, out.cycle = some cycle →
    ∃ steps, g.Walk starts steps ∧ ClosesCycle path steps cycle

lemma mem_collectMember :
    c ∈ (collectMember standard before r.target).items ↔
      c ∈ before.items ∨ isStandard standard c ∧ c = r.target := by
  rw [collectMember]
  split_ifs with h
  · rw [ConceptSet.mem_items_insert, or_comm]
    refine or_congr_right ⟨?_, And.right⟩
    rintro rfl
    exact ⟨h, rfl⟩
  · refine ⟨.inl, ?_⟩
    rintro (hc | ⟨hc, rfl⟩)
    · exact hc
    · exact absurd hc h

/-- A relationship to a concept on the path closes a cycle. -/
lemma covered_of_mem_path (hr : r ∈ g.relationships) (hpath : path.Nodup)
    (hmem : r.target ∈ path) :
    g.Covered standard path before (· = r) ⟨before, some (cycleAt path r.target)⟩ := by
  refine ⟨nofun, nofun, ?_⟩
  rintro cycle ⟨⟩
  refine ⟨[r], walk_cons.2 ⟨hr, rfl, .inl rfl⟩, [], r, rfl, ?_⟩
  simpa using ⟨hpath, hmem⟩

/-- The walks from a relationship are the relationship itself and the walks on to its members. -/
lemma Covered.onward (hr : r ∈ g.relationships) (hpath : (path ++ [r.target]).Nodup)
    (h : g.Covered standard (path ++ [r.target]) (collectMember standard before r.target)
      (· ∈ g.membersOf r) out) :
    g.Covered standard path before (· = r) out := by
  constructor
  · intro hnone steps hsteps
    obtain ⟨r', hhead, rfl⟩ := hsteps.starts
    obtain ⟨steps', rfl⟩ := List.head?_eq_some_iff.1 hhead
    obtain ⟨-, -, rfl | hrest⟩ := walk_cons.1 hsteps
    · exact hpath
    · simpa using h.distinct hnone steps' hrest
  · intro hnone c
    rw [h.members hnone, mem_collectMember, or_assoc, ← and_or_left]
    refine or_congr_right (and_congr_right fun _ => ?_)
    constructor
    · rintro (rfl | ⟨steps, hsteps, hc⟩)
      · exact ⟨[r], walk_cons.2 ⟨hr, rfl, .inl rfl⟩, by simp⟩
      · exact ⟨r :: steps, walk_cons.2 ⟨hr, rfl, .inr hsteps⟩, List.mem_cons_of_mem _ hc⟩
    · rintro ⟨steps, hsteps, hc⟩
      obtain ⟨r', hhead, rfl⟩ := hsteps.starts
      obtain ⟨steps', rfl⟩ := List.head?_eq_some_iff.1 hhead
      obtain ⟨-, -, hrest⟩ := walk_cons.1 hsteps
      rw [targets_cons, List.mem_cons] at hc
      rcases hc with hc | hc
      · exact .inl hc
      · rcases hrest with rfl | hrest
        · cases hc
        · exact .inr ⟨steps', hrest, hc⟩
  · intro cycle hcycle
    obtain ⟨steps, hsteps, hcloses⟩ := h.closed cycle hcycle
    exact ⟨r :: steps, walk_cons.2 ⟨hr, rfl, .inr hsteps⟩, hcloses.cons⟩

lemma covered_nil (g : Containment) (standard : Option (List String)) (path : List Concept)
    (before : ConceptSet) : g.Covered standard path before (· ∈ []) ⟨before, none⟩ := by
  have hno : ∀ steps, ¬ g.Walk (· ∈ []) steps := by
    rintro steps ⟨-, ⟨r, -, hr⟩, -, -⟩
    cases hr
  refine ⟨fun _ steps hsteps => absurd hsteps (hno steps), fun _ c => ?_, nofun⟩
  refine ⟨.inl, ?_⟩
  rintro (hc | ⟨-, steps, hsteps, -⟩)
  · exact hc
  · exact absurd hsteps (hno steps)

lemma walk_or {starts' : Relationship → Prop} :
    g.Walk (fun r => starts r ∨ starts' r) steps ↔ g.Walk starts steps ∨ g.Walk starts' steps := by
  constructor
  · rintro ⟨hadded, ⟨r, hr, hstarts | hstarts⟩, hmembers, hchain⟩
    · exact .inl ⟨hadded, ⟨r, hr, hstarts⟩, hmembers, hchain⟩
    · exact .inr ⟨hadded, ⟨r, hr, hstarts⟩, hmembers, hchain⟩
  · rintro (h | h)
    · exact h.imp fun _ _ => .inl
    · exact h.imp fun _ _ => .inr

lemma walk_mem_cons :
    g.Walk (· ∈ r :: rs) steps ↔ g.Walk (· = r) steps ∨ g.Walk (· ∈ rs) steps := by
  simp only [List.mem_cons, walk_or]

/-- A cycle below the first relationship is the result. -/
lemma Covered.stop (h : g.Covered standard path before (· = r) out)
    (hcycle : out.cycle = some cycle) : g.Covered standard path before (· ∈ r :: rs) out := by
  have hsome : out.cycle ≠ none := by simp [hcycle]
  refine ⟨fun hnone => absurd hnone hsome, fun hnone => absurd hnone hsome, ?_⟩
  intro cycle' hcycle'
  obtain ⟨steps, hsteps, hcloses⟩ := h.closed cycle' hcycle'
  exact ⟨steps, walk_mem_cons.2 (.inl hsteps), hcloses⟩

/-- Without a cycle below the first relationship, the others add to what has been found. -/
lemma Covered.goOn (h : g.Covered standard path before (· = r) out) (hnone : out.cycle = none)
    (hrest : g.Covered standard path out.members (· ∈ rs) rest) :
    g.Covered standard path before (· ∈ r :: rs) rest := by
  constructor
  · intro hnone' steps hsteps
    rcases walk_mem_cons.1 hsteps with hsteps | hsteps
    · exact h.distinct hnone steps hsteps
    · exact hrest.distinct hnone' steps hsteps
  · intro hnone' c
    rw [hrest.members hnone', h.members hnone, or_assoc, ← and_or_left]
    simp only [walk_mem_cons, or_and_right, exists_or]
  · intro cycle hcycle
    obtain ⟨steps, hsteps, hcloses⟩ := hrest.closed cycle hcycle
    exact ⟨steps, walk_mem_cons.2 (.inr hsteps), hcloses⟩

mutual

lemma covered_walk (g : Containment) (standard : Option (List String)) (path : List Concept)
    (before : ConceptSet) (r : Relationship) (hr : r ∈ g.relationships) (hpath : path.Nodup) :
    g.Covered standard path before (· = r) (g.walk standard path before r hr) := by
  rw [walk]
  split_ifs with hmem
  · exact covered_of_mem_path hr hpath hmem
  · have hpath' : (path ++ [r.target]).Nodup := by
      simpa using hpath.concat hmem
    exact (covered_walkAll g standard _ _ _ _ hpath').onward hr hpath'
termination_by (unvisited Relationship.target g.relationships path, 0)
decreasing_by exact Prod.Lex.left _ _ (unvisited_lt hr hmem)

lemma covered_walkAll (g : Containment) (standard : Option (List String)) (path : List Concept)
    (before : ConceptSet) (rs : List Relationship) (hrs : ∀ r ∈ rs, r ∈ g.relationships)
    (hpath : path.Nodup) :
    g.Covered standard path before (· ∈ rs) (g.walkAll standard path before rs hrs) := by
  match rs with
  | [] =>
    rw [walkAll]
    exact covered_nil g standard path before
  | r :: rs =>
    have hfirst := covered_walk g standard path before r (hrs r List.mem_cons_self) hpath
    rw [walkAll]
    cases hcycle : (g.walk standard path before r (hrs r List.mem_cons_self)).cycle with
    | some cycle =>
      simp only
      exact hfirst.stop hcycle
    | none =>
      simp only
      exact hfirst.goOn hcycle (covered_walkAll g standard path _ rs _ hpath)
termination_by (unvisited Relationship.target g.relationships path, rs.length + 1)

end

/-! ### Answers -/

/--
Whether an answer surveys all walks from some relationships: it fails exactly if a walk meets a
concept twice, then with a cycle of members that a walk leads to, and otherwise holds exactly the
targets of the walks, as far as these are standard.
-/
structure Surveyed (g : Containment) (starts : Relationship → Prop)
    (standard : Option (List String)) (answer : Except (List Concept) ConceptSet) : Prop where
  fails_iff : (∃ cycle, answer = .error cycle) ↔
    ∃ steps, g.Walk starts steps ∧ ¬ (targets steps).Nodup
  cycle : ∀ cycle, answer = .error cycle → ∃ c, IsCycle g.HasMember c cycle ∧
    ∃ steps, g.Walk starts steps ∧ c ∈ targets steps
  members : ∀ found, answer = .ok found → ∀ c, c ∈ found.items ↔
    isStandard standard c ∧ ∃ steps, g.Walk starts steps ∧ c ∈ targets steps

lemma toExcept_eq_error_iff : out.toExcept = .error cycle ↔ out.cycle = some cycle := by
  rcases out with ⟨members, _ | cycle'⟩ <;> simp [MemberWalk.toExcept]

lemma toExcept_eq_ok_iff {found : ConceptSet} :
    out.toExcept = .ok found ↔ out.cycle = none ∧ out.members = found := by
  rcases out with ⟨members, _ | cycle'⟩ <;> simp [MemberWalk.toExcept]

/-- A walk that closes a cycle on the empty path meets a concept twice. -/
lemma ClosesCycle.not_nodup (h : ClosesCycle [] steps cycle) : ¬ (targets steps).Nodup := by
  obtain ⟨before, last, rfl, -, hlast, -⟩ := h
  intro hnodup
  rw [targets_append, List.nodup_append] at hnodup
  exact hnodup.2.2 _ hlast _ (by simp) rfl

lemma ClosesCycle.isCycle (h : ClosesCycle [] steps cycle) (hsteps : g.Walk starts steps) :
    ∃ c ∈ targets steps, IsCycle g.HasMember c cycle := by
  obtain ⟨before, last, rfl, hnodup, hlast, rfl⟩ := h
  refine ⟨last.target, by simp, isCycle_cycleAt hnodup ?_ hlast⟩
  simpa using hsteps.isChain_targets

lemma Covered.surveyed (h : g.Covered standard [] .empty starts out) :
    g.Surveyed starts standard out.toExcept := by
  constructor
  · constructor
    · rintro ⟨cycle, hcycle⟩
      obtain ⟨steps, hsteps, hcloses⟩ := h.closed cycle (toExcept_eq_error_iff.1 hcycle)
      exact ⟨steps, hsteps, hcloses.not_nodup⟩
    · rintro ⟨steps, hsteps, hrepeats⟩
      cases hcycle : out.cycle with
      | none => exact absurd (h.distinct hcycle steps hsteps) hrepeats
      | some cycle => exact ⟨cycle, toExcept_eq_error_iff.2 hcycle⟩
  · intro cycle hcycle
    obtain ⟨steps, hsteps, hcloses⟩ := h.closed cycle (toExcept_eq_error_iff.1 hcycle)
    obtain ⟨c, hc, hcyclic⟩ := hcloses.isCycle hsteps
    exact ⟨c, hcyclic, steps, hsteps, hc⟩
  · intro found hfound c
    obtain ⟨hnone, rfl⟩ := toExcept_eq_ok_iff.1 hfound
    rw [h.members hnone]
    simp [ConceptSet.empty]

lemma Surveyed.congr {starts' : Relationship → Prop} {answer : Except (List Concept) ConceptSet}
    (h : g.Surveyed starts standard answer)
    (hiff : ∀ r ∈ g.relationships, starts r ↔ starts' r) : g.Surveyed starts' standard answer := by
  have hwalk : ∀ steps, g.Walk starts steps ↔ g.Walk starts' steps := fun steps =>
    ⟨fun hsteps => hsteps.imp fun r hr => (hiff r hr).1,
      fun hsteps => hsteps.imp fun r hr => (hiff r hr).2⟩
  obtain ⟨hfails, hcycle, hmembers⟩ := h
  simp only [hwalk] at hfails hcycle hmembers
  exact ⟨hfails, hcycle, hmembers⟩

lemma source_mem_named {name : String} (hr : r ∈ g.relationships) (hname : r.source.name = name) :
    r.source ∈ g.named name := by
  have hmem : r.source ∈ g.concepts.items :=
    ConceptSet.mem_items_ofList.2 (List.mem_flatMap.2 ⟨r, hr, List.mem_cons_self⟩)
  exact List.mem_filter.2 ⟨hmem, by simpa using hname⟩

lemma mem_leavingNamed {name : String} :
    r ∈ g.leavingNamed name ↔
      r ∈ g.relationships ∧ r.source.name = name ∧ r.arcrole = .domainMember := by
  rw [leavingNamed, List.mem_flatMap]
  constructor
  · rintro ⟨c, hc, h⟩
    obtain ⟨hr, rfl, harcrole, -⟩ := mem_leaving.1 h
    have hname : r.source.name = name := by simpa using (List.mem_filter.1 hc).2
    exact ⟨hr, hname, harcrole⟩
  · rintro ⟨hr, hname, harcrole⟩
    exact ⟨r.source, source_mem_named hr hname, mem_leaving.2 ⟨hr, rfl, harcrole, rfl⟩⟩

/-- The answers about an axis and about a name survey the walks below them. -/
theorem members_surveyed (rs : List Relationship) :
    (∀ axis standard,
      (ofList rs).Surveyed (fun r => r.source = axis ∧ r.arcrole = .dimensionDomain) standard
        ((ofList rs).membersOnAxis axis standard)) ∧
    ∀ name,
      (ofList rs).Surveyed (fun r => r.source.name = name ∧ r.arcrole = .domainMember) none
        ((ofList rs).membersBelowNamed name) := by
  constructor
  · intro axis standard
    refine (covered_walkAll _ standard [] .empty _ _ List.nodup_nil).surveyed.congr fun r hr => ?_
    rw [mem_leaving, and_iff_right hr, inRole_none, and_iff_left rfl]
  · intro name
    refine (covered_walkAll _ none [] .empty _ _ List.nodup_nil).surveyed.congr fun r hr => ?_
    rw [mem_leavingNamed, and_iff_right hr]

end Containment

end Disclosure
