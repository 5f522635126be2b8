import Mathlib.Data.Option.Basic

/-! Statements on a database, each of which gives an answer or violates a constraint, in the two ways in which
a program runs them: on a connection that is opened for one call, and on one that stays open, where a
violation aborts the transaction and every statement after it fails until a rollback. -/

namespace Transaction

variable {σ α : Type}

/-- What a statement does to the tables; `none` is a violation. -/
abbrev Statement (σ α : Type) := σ → Option (α × σ)

/-- `with connect(..) as conn`: the call is rolled back when its statement fails. -/
def onOwnConnection (statement : Statement σ α) (tables : σ) : Option α × σ :=
  match statement tables with
  | some (answer, tables') => (some answer, tables')
  | none => (none, tables)

/-- A connection that stays open: the tables as they are committed, and as its transaction sees them. -/
structure Connection (σ : Type) where
  committed : σ
  working : σ
  aborted : Bool := false

namespace Connection

def idle (tables : σ) : Connection σ := { committed := tables, working := tables }

def execute (statement : Statement σ α) (connection : Connection σ) : Option α × Connection σ :=
  if connection.aborted then (none, connection)
  else
    match statement connection.working with
    | some (answer, tables) => (some answer, { connection with working := tables })
    | none => (none, { connection with aborted := true })

/-- An aborted transaction that is committed is rolled back. -/
def commit (connection : Connection σ) : Connection σ :=
  if connection.aborted then idle connection.committed else idle connection.working

/-- The statement and the `commit()` after it, which an exception skips. -/
def executeAndCommit (statement : Statement σ α) (connection : Connection σ) : Option α × Connection σ :=
  match connection.execute statement with
  | (some answer, connection) => (some answer, connection.commit)
  | (none, connection) => (none, connection)

variable {statement : Statement σ α} {tables tables' : σ} {answer : α} {connection : Connection σ}

theorem execute_idle_of_some (h : statement tables = some (answer, tables')) :
    (idle tables).execute statement = (some answer, { committed := tables, working := tables' }) := by
  simp [execute, idle, h]

theorem execute_idle_of_none (h : statement tables = none) :
    (idle tables).execute statement = (none, { committed := tables, working := tables, aborted := true }) := by
  simp [execute, idle, h]

theorem executeAndCommit_idle_of_some (h : statement tables = some (answer, tables')) :
    (idle tables).executeAndCommit statement = (some answer, idle tables') := by
  rw [executeAndCommit, execute_idle_of_some h]
  rfl

theorem executeAndCommit_idle_of_none (h : statement tables = none) :
    (idle tables).executeAndCommit statement =
      (none, { committed := tables, working := tables, aborted := true }) := by
  rw [executeAndCommit, execute_idle_of_none h]

/-- A connection whose transaction is aborted answers nothing any more. -/
theorem execute_of_aborted (h : connection.aborted) : connection.execute statement = (none, connection) := by
  rw [execute, if_pos h]

theorem executeAndCommit_of_aborted (h : connection.aborted) :
    connection.executeAndCommit statement = (none, connection) := by
  rw [executeAndCommit, execute_of_aborted h]

end Connection

/-! ## Two databases -/

/-- A statement does on the image of the tables what another does on the tables. -/
def Mirrors (f : σ → τ) (statement : Statement σ α) (image : Statement τ α) : Prop :=
  ∀ tables, image (f tables) = (statement tables).map (Prod.map id f)

namespace Mirrors

variable {f : σ → τ} {statement : Statement σ α} {image : Statement τ α} {tables tables' : σ} {answer : α}

theorem executeAndCommit_of_some (h : Mirrors f statement image)
    (hsome : statement tables = some (answer, tables')) :
    (Connection.idle (f tables)).executeAndCommit image = (some answer, .idle (f tables')) :=
  Connection.executeAndCommit_idle_of_some (by rw [h, hsome]; rfl)

theorem executeAndCommit_of_none (h : Mirrors f statement image) (hnone : statement tables = none) :
    (Connection.idle (f tables)).executeAndCommit image =
      (none, { committed := f tables, working := f tables, aborted := true }) :=
  Connection.executeAndCommit_idle_of_none (by rw [h, hnone]; rfl)

end Mirrors

theorem onOwnConnection_of_some {statement : Statement σ α} (h : statement tables = some (answer, tables')) :
    onOwnConnection statement tables = (some answer, tables') := by
  rw [onOwnConnection, h]

theorem onOwnConnection_of_none {statement : Statement σ α} (h : statement tables = none) :
    onOwnConnection statement tables = (none, tables) := by
  rw [onOwnConnection, h]

end Transaction
