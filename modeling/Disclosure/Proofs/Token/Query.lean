import Disclosure.Proofs.Token.Memo

/-!
# Queries

A resolver answers three kinds of queries, and remembers groups from one query to the next. After
any history of queries, also of failing ones, a query has the reply that a fresh resolver gives
(`ask_after_eq_fresh`): every single query keeps the resolver serving its table, and what serves a
table replies as if nothing was remembered.
-/

namespace Disclosure

/-- What a resolver can be asked for. -/
inductive Query where
  /-- The members of a group. -/
  | group (name : String)
  /-- The tokens of a value. -/
  | expand (names : Json)
  /-- The selection that a value describes. -/
  | resolve (names : Json)

/-- What a query that succeeds is answered with. -/
inductive Reply where
  | tokens (tokens : Tokens)
  | selection (selection : Selection)

/-- The reply to a query when nothing is remembered. -/
def unrollQuery (table : Json.Members) : Query → Except GroupError Reply
  | .group name => (unrollGroup table [] name).map .tokens
  | .expand names => (unrollValue table names).map .tokens
  | .resolve names => (unrollValue table names).map fun tokens => .selection (.ofTokens tokens)

namespace Resolver

/-- The reply to a query. -/
def ask (r : Resolver) : Query → Except GroupError Reply × Resolver
  | .group name => ((r.group name).1.map .tokens, (r.group name).2)
  | .expand names => ((r.expand names).1.map .tokens, (r.expand names).2)
  | .resolve names => ((r.resolve names).1.map .selection, (r.resolve names).2)

/-- The resolver after a history of queries. -/
def after (r : Resolver) (history : List Query) : Resolver :=
  history.foldl (fun r q => (r.ask q).2) r

variable {r : Resolver} {table : Json.Members}

/-- One query: the reply is the one without a memory, and the resolver still serves its table. -/
lemma Serves.ask (h : r.Serves table) (q : Query) :
    (r.ask q).1 = unrollQuery table q ∧ (r.ask q).2.Serves table := by
  cases q with
  | group name =>
    obtain ⟨hreply, hserves⟩ := h.group name
    exact ⟨congrArg (Except.map Reply.tokens) hreply, hserves⟩
  | expand names =>
    obtain ⟨hreply, hserves⟩ := h.expand names
    exact ⟨congrArg (Except.map Reply.tokens) hreply, hserves⟩
  | resolve names =>
    obtain ⟨hreply, hserves⟩ := h.resolve names
    refine ⟨(congrArg (Except.map Reply.selection) hreply).trans ?_, hserves⟩
    rw [unrollQuery]
    cases unrollValue table names <;> rfl

/-- A history of queries: the resolver serves its table at every point. -/
lemma Serves.after (h : r.Serves table) (history : List Query) :
    (r.after history).Serves table := by
  induction history generalizing r with
  | nil => exact h
  | cons q history ih => exact ih (h.ask q).2

lemma serves_after (table : Json.Members) (history : List Query) :
    ((ofTable table).after history).Serves table :=
  (serves_ofTable table).after history

/-- What was asked before cannot be observed. -/
theorem ask_after_eq_fresh (table : Json.Members) (history : List Query) (q : Query) :
    (((ofTable table).after history).ask q).1 = ((ofTable table).ask q).1 := by
  have hafter := ((serves_after table history).ask q).1
  have hfresh := ((serves_ofTable table).ask q).1
  rw [hafter, hfresh]

end Resolver

end Disclosure
