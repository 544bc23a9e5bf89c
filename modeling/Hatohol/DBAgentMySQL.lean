/-!
# Queries and transactions on a MySQL connection

`DBAgentMySQL` sends a query again on a new connection if the server has gone, but not in a
transaction. Whether there is one it knows from a flag, which `begin`, `commit` and `rollback` change
after their query. `DBAgent::runTransaction` puts them together.
-/

namespace Hatohol

namespace DBAgentMySQL

/-! ## Connections -/

inductive DBException where
  /-- HTERR_FAILED_CONNECT_MYSQL -/
  | failedConnect
  | failedQuery
  /-- HTERR_VALID_DBAGENT_NO_LONGER_EXISTS -/
  | noLongerExists
  | notConnected
  | transactionAbort
  /-- Thrown by a procedure or a hook. -/
  | other (what : String)
  deriving DecidableEq, Repr

def CR_SERVER_GONE_ERROR : Nat := 2006

def CR_SERVER_LOST : Nat := 2013

/-- A query that is sent. Those that one call of `execSql` sends have the same number. -/
structure Sent where
  call : Nat
  statement : String
  deriving DecidableEq, Repr

structure Connection where
  connected : Bool
  inTransaction : Bool
  /-- How often the server has been spoken to. -/
  now : Nat
  calls : Nat
  log : List Sent
  deriving DecidableEq, Repr

/-- What comes from outside: the result of `mysql_query`, with an error number or rows, the result of
    `mysql_real_connect`, and whether the agent has been disposed. -/
structure World (D : Type) where
  answer : Nat → Except Nat D
  connects : Nat → Bool
  disposed : Nat → Bool

section

variable {D : Type} (w : World D)

def Connection.send (c : Connection) (statement : String) : Connection :=
  { c with now := c.now + 1, log := c.log ++ [⟨c.calls, statement⟩] }

/-- `sleepAndReconnect` and `connect` (DBAgentMySQL.cc:586-618). -/
def Connection.reconnect (c : Connection) : Connection :=
  { c with connected := w.connects c.now, inTransaction := false, now := c.now + 1 }

/-- The loops of `queryWithRetry` are at the query, or at another try to connect. -/
inductive Trying where
  | query
  | connect
  deriving DecidableEq, Repr

/-- (DBAgentMySQL.cc:632-677) The number is that of the tries that are left. -/
def tryQuery (statement : String) : Nat → Trying → Connection → Except DBException D × Connection
  | 0, _, c => (.error .failedConnect, c)
  | left + 1, .query, c =>
      if w.disposed c.now then (.error .noLongerExists, c)
      else
        let sent := c.send statement
        match w.answer c.now with
        | .ok rows => (.ok rows, sent)
        | .error errorNumber =>
          if errorNumber ≠ CR_SERVER_GONE_ERROR then
            (.error (if errorNumber = CR_SERVER_LOST then .failedConnect else .failedQuery), sent)
          else if sent.inTransaction || left == 0 then (.error .failedConnect, sent)
          else if w.disposed sent.now then (.error .noLongerExists, sent)
          else
            let c := sent.reconnect w
            tryQuery statement left (if c.connected then .query else .connect) c
  | left + 1, .connect, c =>
      if w.disposed c.now then (.error .noLongerExists, c)
      else
        let c := c.reconnect w
        tryQuery statement left (if c.connected then .query else .connect) c

/-- DEFAULT_NUM_RETRY -/
def defaultNumRetry : Nat := 5

/-- (DBAgentMySQL.cc:219-223) -/
def execSql (statement : String) (c : Connection) : Except DBException D × Connection :=
  if c.connected then tryQuery w statement defaultNumRetry .query { c with calls := c.calls + 1 }
  else (.error .notConnected, c)

/-- The flag is set after the query has succeeded (DBAgentMySQL.cc:201-217). -/
def execThenSet (statement : String) (inTransaction : Bool) (c : Connection) :
    Except DBException Unit × Connection :=
  match execSql w statement c with
  | (.ok _, c) => (.ok (), { c with inTransaction })
  | (.error e, c) => (.error e, c)

def begin (c : Connection) : Except DBException Unit × Connection :=
  execThenSet w "START TRANSACTION" true c

def commit (c : Connection) : Except DBException Unit × Connection :=
  execThenSet w "COMMIT" false c

def rollback (c : Connection) : Except DBException Unit × Connection :=
  execThenSet w "ROLLBACK" false c

end

/-! ## Transactions -/

/-- What a procedure or a hook does with the agent: it has done and returns or throws, or it calls
    `execSql` and goes on after that. An exception can be caught. -/
inductive Program (D α : Type) where
  | done (result : Except DBException α)
  | query (statement : String) (next : Except DBException D → Program D α)

namespace Program

variable {D α β : Type}

def run (w : World D) : Program D α → Connection → Except DBException α × Connection
  | .done result, c => (result, c)
  | .query statement next, c =>
      let (result, c) := execSql w statement c
      (next result).run w c

def bind : Program D α → (α → Program D β) → Program D β
  | .done (.ok a), f => f a
  | .done (.error e), _ => .done (.error e)
  | .query statement next, f => .query statement fun result => (next result).bind f

end Program

/-- `σ` is what the procedure keeps in its members. -/
structure TransactionProc (D σ : Type) where
  preproc : Program D (Bool × σ)
  proc : σ → Program D σ
  postproc : σ → Program D Unit

structure TransactionHooks (D τ : Type) where
  preAction : Program D (Bool × τ)
  postAction : τ → Program D Bool

section

variable {D σ τ : Type} (w : World D)

def abortUnless (accepted : Bool) : Program D Unit :=
  .done (if accepted then .ok () else .error .transactionAbort)

/-- What is done between `begin` and the end (DBAgent.cc:447-463). -/
def transactionBody (proc : TransactionProc D σ) (hooks : Option (TransactionHooks D τ))
    (members : σ) :
    Program D σ :=
  match hooks with
  | none => proc.proc members
  | some hooks =>
      hooks.preAction.bind fun (accepted, hooked) =>
        (abortUnless accepted).bind fun () =>
          (proc.proc members).bind fun members =>
            (hooks.postAction hooked).bind fun accepted =>
              (abortUnless accepted).bind fun () => .done (.ok members)

/-- `preproc` and `begin`. The transaction is not begun if `preproc` says so. -/
def openTransaction (proc : TransactionProc D σ) (c : Connection) :
    Except DBException (Option σ) × Connection :=
  match proc.preproc.run w c with
  | (.error e, c) => (.error e, c)
  | (.ok (false, _), c) => (.ok none, c)
  | (.ok (true, members), c) =>
    match begin w c with
    | (.error e, c) => (.error e, c)
    | (.ok (), c) => (.ok (some members), c)

/-- The end of the transaction, after what its body has returned or thrown. It is rolled back
    without an error if it was aborted. -/
def closeTransaction (result : Except DBException σ) (c : Connection) :
    Except DBException (Option σ) × Connection :=
  match result with
  | .ok members =>
    match commit w c with
    | (.error e, c) => (.error e, c)
    | (.ok (), c) => (.ok (some members), c)
  | .error e =>
    match rollback w c with
    | (.error e', c) => (.error e', c)
    | (.ok (), c) => (if e = .transactionAbort then .ok none else .error e, c)

/-- (DBAgent.cc:445-473) -/
def runTransaction (proc : TransactionProc D σ) (hooks : Option (TransactionHooks D τ))
    (c : Connection) : Except DBException Unit × Connection :=
  match openTransaction w proc c with
  | (.error e, c) => (.error e, c)
  | (.ok none, c) => (.ok (), c)
  | (.ok (some members), c) =>
    let (result, c) := (transactionBody proc hooks members).run w c
    match closeTransaction w result c with
    | (.error e, c) => (.error e, c)
    | (.ok none, c) => (.ok (), c)
    | (.ok (some members), c) => (proc.postproc members).run w c

end

end DBAgentMySQL

end Hatohol
