import IssueSync.Table.Loading

/-! # The published table

A store holds the table in effect. A document that loads replaces it as a
whole; one that does not leaves it alone. Tables that were handed out stay as
they were.
-/

namespace IssueSync

/-- The holder of the published table. -/
structure Store where
  current : ProjectTable := ∅
  deriving DecidableEq, Inhabited

namespace Store

/-- The configuration of a project in the table in effect. -/
def get? (store : Store) (key : String) : Option Configuration :=
  store.current.get? key

/-- The store after another table was published. -/
def replace (_store : Store) (table : ProjectTable) : Store :=
  ⟨table⟩

variable [Libraries]

/-- The store after a document was loaded, and how that went. -/
def reload (store : Store) (text : String) : Except LoadError ProjectTable × Store :=
  match load text with
  | .ok table => (.ok table, store.replace table)
  | .error error => (.error error, store)

end Store

/-- A store in use, with the tables that its user has kept. -/
structure Session where
  store : Store := {}
  /-- The tables kept, oldest first. -/
  held : List ProjectTable := []
  deriving Inhabited

/-- What a user does with a store. -/
inductive Session.Step where
  | reload (text : String)
  | get (key : String)
  /-- Keep the current table. -/
  | hold
  /-- Publish a table kept earlier; an empty one without a position. -/
  | replace (position : Option Nat)
  /-- Start over with an empty store. -/
  | restart
  deriving Repr

/-- What the user sees of a step. -/
inductive Session.Answer where
  | reloaded (result : Except LoadError ProjectTable)
  | got (configuration : Option Configuration)
  | held (position : Nat)
  | replaced (previous : ProjectTable)
  | restarted

namespace Session

/-- The table at a position among those kept, the empty one where there is
none. -/
def table (session : Session) (position : Option Nat) : ProjectTable :=
  (position.bind fun index => session.held[index]?).getD ∅

variable [Libraries]

/-- What the user sees of a step, and the session after it. -/
def step (session : Session) : Step → Answer × Session
  | .reload text =>
      let (result, store) := session.store.reload text
      (.reloaded result, { session with store })
  | .get key => (.got (session.store.get? key), session)
  | .hold =>
      (.held session.held.length, { session with held := session.held ++ [session.store.current] })
  | .replace position =>
      (.replaced session.store.current,
        { session with store := session.store.replace (session.table position) })
  | .restart => (.restarted, { session with store := {} })

/-- The session after several steps. -/
def run (session : Session) (steps : List Step) : Session :=
  steps.foldl (fun state next => (state.step next).2) session

end Session

end IssueSync
