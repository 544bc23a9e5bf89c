import Mathlib.Data.List.Basic
import Hatohol.DBAgentMySQL

/-!
# When a transaction is left open

A query never changes the flag of a transaction: where it is set, there is no reconnection. So the
flag of a transaction that has begun is cleared by the `COMMIT` or the `ROLLBACK` at its end, and
only if that query succeeds.
-/

namespace Hatohol

namespace DBAgentMySQL

section Queries

variable {D : Type} {w : World D} {q : String}

/-- Nothing is sent but queries of new calls, each of them once. -/
def SendsOnce (c c' : Connection) : Prop :=
  c.calls ≤ c'.calls ∧ ∃ sent, c'.log = c.log ++ sent ∧
    (∀ s ∈ sent, c.calls < s.call ∧ s.call ≤ c'.calls) ∧ sent.Pairwise (·.call < ·.call)

theorem SendsOnce.refl (c : Connection) : SendsOnce c c :=
  ⟨Nat.le_refl _, [], (List.append_nil _).symm, fun _ h => (nomatch h), List.Pairwise.nil⟩

theorem SendsOnce.trans {c₁ c₂ c₃ : Connection} (h : SendsOnce c₁ c₂) (h' : SendsOnce c₂ c₃) :
    SendsOnce c₁ c₃ := by
  obtain ⟨hcalls, sent, hlog, hsent, honce⟩ := h
  obtain ⟨hcalls', sent', hlog', hsent', honce'⟩ := h'
  refine ⟨Nat.le_trans hcalls hcalls', sent ++ sent', by rw [hlog', hlog, List.append_assoc], ?_,
    ?_⟩
  · intro s hs
    rcases List.mem_append.mp hs with hs | hs
    · have := hsent s hs
      omega
    · have := hsent' s hs
      omega
  · rw [List.pairwise_append]
    refine ⟨honce, honce', fun s hs s' hs' => ?_⟩
    exact Nat.lt_of_le_of_lt (hsent s hs).2 (hsent' s' hs').1

/-! ## One query -/

theorem inTransaction_tryQuery : ∀ (left : Nat) (trying : Trying) (c : Connection),
    (trying = .connect → c.inTransaction = false) →
      (tryQuery w q left trying c).2.inTransaction = c.inTransaction := by
  intro left
  induction left with
  | zero => exact fun trying c _ => rfl
  | succ left ih =>
    intro trying c hconnect
    -- what follows a try to connect, which clears the flag
    have hnext : ∀ c' : Connection, c'.inTransaction = false →
        (tryQuery w q left (if (c'.reconnect w).connected then .query else .connect)
          (c'.reconnect w)).2.inTransaction = c'.inTransaction := by
      intro c' hflag
      rw [ih _ _ fun _ => rfl, hflag]
      rfl
    cases trying with
    | query =>
      unfold tryQuery
      split
      next => rfl
      next =>
        dsimp only
        split
        next => rfl
        next =>
          split
          next => rfl
          next =>
            split
            next => rfl
            next hagain =>
              split
              next => rfl
              next =>
                rw [Bool.or_eq_true, not_or, Bool.not_eq_true] at hagain
                exact hnext _ hagain.1
    | connect =>
      unfold tryQuery
      split
      next => rfl
      next => exact hnext _ (hconnect rfl)

/-- A query leaves the flag as it was. -/
theorem inTransaction_execSql (c : Connection) :
    (execSql w q c).2.inTransaction = c.inTransaction := by
  unfold execSql
  split
  next => exact inTransaction_tryQuery _ _ _ fun h => nomatch h
  next => rfl

/-- In a transaction a query is sent once at most. -/
theorem tryQuery_of_inTransaction (c : Connection) (hflag : c.inTransaction = true) :
    (tryQuery w q defaultNumRetry .query c).2.connected = c.connected ∧
      (tryQuery w q defaultNumRetry .query c).2.calls = c.calls ∧
      ∃ sent, (tryQuery w q defaultNumRetry .query c).2.log = c.log ++ sent ∧
        (sent = [] ∨ sent = [⟨c.calls, q⟩]) := by
  have hsent : (c.send q).connected = c.connected ∧
      (c.send q).calls = c.calls ∧ ∃ sent, (c.send q).log = c.log ++ sent ∧
        (sent = [] ∨ sent = [⟨c.calls, q⟩]) := ⟨rfl, rfl, _, rfl, .inr rfl⟩
  unfold defaultNumRetry tryQuery
  split
  next => exact ⟨rfl, rfl, [], (List.append_nil _).symm, .inl rfl⟩
  next =>
    dsimp only
    split
    next => exact hsent
    next =>
      split
      next => exact hsent
      next =>
        rw [if_pos]
        · exact hsent
        · rw [Bool.or_eq_true]
          exact .inl hflag

theorem execSql_of_inTransaction (c : Connection) (hflag : c.inTransaction = true) :
    (execSql w q c).2.connected = c.connected ∧ SendsOnce c (execSql w q c).2 := by
  unfold execSql
  split
  next =>
    obtain ⟨hconnected, hcalls, sent, hlog, hsent⟩ :=
      tryQuery_of_inTransaction { c with calls := c.calls + 1 } hflag
    refine ⟨hconnected, ?_, sent, hlog, ?_, ?_⟩
    · rw [hcalls]
      exact Nat.le_succ _
    · intro s hs
      rcases hsent with rfl | rfl
      · cases hs
      · rw [List.mem_singleton.mp hs, hcalls]
        exact ⟨Nat.lt_succ_self _, Nat.le_refl _⟩
    · rcases hsent with rfl | rfl
      · exact List.Pairwise.nil
      · exact List.pairwise_singleton _ _
  next => exact ⟨rfl, .refl c⟩

/-- After a query that has succeeded there is a connection. -/
theorem connected_of_tryQuery {rows : D} : ∀ (left : Nat) (trying : Trying) (c : Connection),
    (trying = .query → c.connected = true) → (tryQuery w q left trying c).1 = .ok rows →
      (tryQuery w q left trying c).2.connected = true := by
  intro left
  induction left with
  | zero =>
    intro trying c _ hok
    cases hok
  | succ left ih =>
    intro trying c hconnected
    have hnext : ∀ c' : Connection,
        (tryQuery w q left (if (c'.reconnect w).connected then .query else .connect)
          (c'.reconnect w)).1 = .ok rows →
        (tryQuery w q left (if (c'.reconnect w).connected then .query else .connect)
          (c'.reconnect w)).2.connected = true := by
      intro c'
      apply ih
      intro htrying
      by_contra hnot
      rw [if_neg hnot] at htrying
      cases htrying
    cases trying with
    | query =>
      unfold tryQuery
      split
      next => exact fun hok => (nomatch hok)
      next =>
        dsimp only
        split
        next => exact fun _ => hconnected rfl
        next =>
          split
          next => exact fun hok => (nomatch hok)
          next =>
            split
            next => exact fun hok => (nomatch hok)
            next =>
              split
              next => exact fun hok => (nomatch hok)
              next => exact hnext _
    | connect =>
      unfold tryQuery
      split
      next => exact fun hok => (nomatch hok)
      next => exact hnext c

theorem connected_of_execSql {c : Connection} {rows : D}
    (hok : (execSql w q c).1 = .ok rows) : (execSql w q c).2.connected = true := by
  unfold execSql at hok ⊢
  split at hok
  next hconnected =>
    rw [if_pos hconnected]
    exact connected_of_tryQuery _ _ _ (fun _ => hconnected) hok
  next => cases hok

end Queries

/-! ## A transaction -/

section Transactions

variable {D α σ τ : Type} {w : World D}

theorem inTransaction_run (program : Program D α) (c : Connection) :
    (program.run w c).2.inTransaction = c.inTransaction := by
  induction program generalizing c with
  | done result => rfl
  | query q next ih =>
    rw [Program.run]
    exact (ih _ _).trans (inTransaction_execSql c)

theorem run_of_inTransaction (program : Program D α) (c : Connection)
    (hflag : c.inTransaction = true) :
    (program.run w c).2.connected = c.connected ∧ SendsOnce c (program.run w c).2 := by
  induction program generalizing c with
  | done result => exact ⟨rfl, .refl c⟩
  | query q next ih =>
    rw [Program.run]
    obtain ⟨hconnected, honce⟩ := execSql_of_inTransaction (w := w) (q := q) c hflag
    obtain ⟨hconnected', honce'⟩ := ih _ _ ((inTransaction_execSql c).trans hflag)
    exact ⟨hconnected'.trans hconnected, honce.trans honce'⟩

/-- The next query will succeed. -/
def Answers (w : World D) (c : Connection) : Prop :=
  w.disposed c.now = false ∧ ∃ rows, w.answer c.now = .ok rows

theorem execSql_ok_iff {q : String} {c : Connection} (hconnected : c.connected = true)
    (hflag : c.inTransaction = true) :
    (∃ rows, (execSql w q c).1 = .ok rows) ↔ Answers w c := by
  unfold execSql Answers
  rw [if_pos hconnected]
  unfold defaultNumRetry tryQuery
  split
  next hdisposed => exact iff_of_false (fun ⟨_, h⟩ => nomatch h) (fun h => by simp_all)
  next hdisposed =>
    rw [Bool.not_eq_true] at hdisposed
    dsimp only
    split
    next rows hrows => exact iff_of_true ⟨rows, rfl⟩ ⟨hdisposed, rows, hrows⟩
    next errorNumber herror =>
      have hnot : ¬ (w.disposed c.now = false ∧ ∃ rows, w.answer c.now = .ok rows) := by
        rintro ⟨-, rows, hrows⟩
        rw [herror] at hrows
        cases hrows
      refine iff_of_false ?_ hnot
      split
      next => exact fun ⟨_, h⟩ => nomatch h
      next =>
        have hagain : (Connection.send { c with calls := c.calls + 1 } q).inTransaction =
            true := hflag
        rw [hagain, Bool.true_or, if_pos rfl]
        exact fun ⟨_, h⟩ => nomatch h

theorem execThenSet_of_ok {q : String} {flag : Bool} {c : Connection}
    (hok : (execThenSet w q flag c).1 = .ok ()) :
    (execThenSet w q flag c).2.inTransaction = flag ∧
      (execThenSet w q flag c).2.connected = true := by
  unfold execThenSet at hok ⊢
  cases hexec : execSql w q c with
  | mk result c' =>
    rw [hexec] at hok
    cases result with
    | error e => cases hok
    | ok rows =>
      have hconnected := connected_of_execSql (w := w) (q := q) (c := c)
        (congrArg Prod.fst hexec)
      rw [hexec] at hconnected
      exact ⟨rfl, hconnected⟩

theorem execThenSet_of_error {q : String} {flag : Bool} {c : Connection} {e : DBException}
    (herror : (execThenSet w q flag c).1 = .error e) :
    (execThenSet w q flag c).2.inTransaction = c.inTransaction := by
  have hkept := inTransaction_execSql (w := w) (q := q) c
  unfold execThenSet at herror ⊢
  cases hexec : execSql w q c with
  | mk result c' =>
    rw [hexec] at herror hkept
    cases result with
    | error e => exact hkept
    | ok rows => cases herror

/-- The flag is cleared at the end if and only if the query at the end succeeds. -/
theorem execThenSet_false_iff {q : String} {c : Connection} (hconnected : c.connected = true)
    (hflag : c.inTransaction = true) :
    (execThenSet w q false c).2.inTransaction = false ↔ Answers w c := by
  rw [← execSql_ok_iff (q := q) hconnected hflag]
  cases hexec : (execThenSet w q false c).1 with
  | ok _ =>
    refine iff_of_true (execThenSet_of_ok hexec).1 ?_
    unfold execThenSet at hexec
    cases hquery : execSql w q c with
    | mk result c' =>
      rw [hquery] at hexec
      cases result with
      | error e => cases hexec
      | ok rows => exact ⟨rows, rfl⟩
  | error e =>
    refine iff_of_false ?_ ?_
    · rw [execThenSet_of_error hexec, hflag]
      decide
    · rintro ⟨rows, hrows⟩
      unfold execThenSet at hexec
      cases hquery : execSql w q c with
      | mk result c' =>
        rw [hquery] at hexec hrows
        obtain rfl : result = .ok rows := hrows
        cases hexec

theorem sendsOnce_execThenSet {q : String} {flag : Bool} {c : Connection}
    (hflag : c.inTransaction = true) : SendsOnce c (execThenSet w q flag c).2 := by
  have honce := (execSql_of_inTransaction (w := w) (q := q) c hflag).2
  unfold execThenSet
  cases hquery : execSql w q c with
  | mk result c' =>
    rw [hquery] at honce
    cases result with
    | error e => exact honce
    | ok rows => exact honce

/-- The end of a transaction is one `COMMIT` or `ROLLBACK`. -/
theorem closeTransaction_snd (result : Except DBException σ) (c : Connection) :
    ∃ q, (closeTransaction w result c).2 = (execThenSet w q false c).2 := by
  cases result with
  | ok members =>
    refine ⟨"COMMIT", ?_⟩
    unfold closeTransaction commit
    cases execThenSet w "COMMIT" false c with
    | mk result c' => cases result <;> rfl
  | error e =>
    refine ⟨"ROLLBACK", ?_⟩
    unfold closeTransaction rollback
    cases execThenSet w "ROLLBACK" false c with
    | mk result c' => cases result <;> rfl

/-- Where a transaction is begun there is a connection and the flag is set; else the flag is as it
    was. -/
theorem openTransaction_flag (proc : TransactionProc D σ) (c : Connection) :
    match openTransaction w proc c with
    | (.ok (some _), begun) => begun.inTransaction = true ∧ begun.connected = true
    | (_, c') => c'.inTransaction = c.inTransaction := by
  have hpreproc := inTransaction_run (w := w) proc.preproc c
  unfold openTransaction
  cases hrun : proc.preproc.run w c with
  | mk result c₁ =>
    rw [hrun] at hpreproc
    match result with
    | .error e => exact hpreproc
    | .ok (false, _) => exact hpreproc
    | .ok (true, members) =>
      dsimp only
      cases hbegin : begin w c₁ with
      | mk result c₂ =>
        cases result with
        | error e =>
          have hkept := execThenSet_of_error (congrArg Prod.fst hbegin)
          have hsnd : c₂ = (execThenSet w "START TRANSACTION" true c₁).2 :=
            (congrArg Prod.snd hbegin).symm
          rw [← hsnd] at hkept
          exact hkept.trans hpreproc
        | ok _ =>
          have hset := execThenSet_of_ok (congrArg Prod.fst hbegin)
          have hsnd : c₂ = (execThenSet w "START TRANSACTION" true c₁).2 :=
            (congrArg Prod.snd hbegin).symm
          rw [← hsnd] at hset
          exact hset

/-- The query at the end of the transaction will succeed, if it is begun. -/
def EndAnswered (w : World D) (proc : TransactionProc D σ) (hooks : Option (TransactionHooks D τ))
    (c : Connection) : Prop :=
  match openTransaction w proc c with
  | (.ok (some members), begun) => Answers w ((transactionBody proc hooks members).run w begun).2
  | _ => c.inTransaction = false

theorem inTransaction_runTransaction_iff (proc : TransactionProc D σ)
    (hooks : Option (TransactionHooks D τ)) (c : Connection) :
    (runTransaction w proc hooks c).2.inTransaction = false ↔ EndAnswered w proc hooks c := by
  have hopen := openTransaction_flag (w := w) proc c
  unfold runTransaction EndAnswered
  cases hopened : openTransaction w proc c with
  | mk opened c₁ =>
    rw [hopened] at hopen
    match opened with
    | .error e => exact iff_of_eq (congrArg (· = false) hopen)
    | .ok none => exact iff_of_eq (congrArg (· = false) hopen)
    | .ok (some members) =>
      obtain ⟨hflag, hconnected⟩ := hopen
      have hbody := inTransaction_run (w := w) (transactionBody proc hooks members) c₁
      have hbody' := (run_of_inTransaction (w := w) (transactionBody proc hooks members) c₁ hflag).1
      dsimp only
      cases hrun : (transactionBody proc hooks members).run w c₁ with
      | mk result c₂ =>
        rw [hrun] at hbody hbody'
        obtain ⟨q, hclose⟩ := closeTransaction_snd (w := w) result c₂
        have hiff := execThenSet_false_iff (w := w) (q := q)
          (hbody'.trans hconnected) (hbody.trans hflag)
        rw [← hclose] at hiff
        dsimp only
        cases hclosed : closeTransaction w result c₂ with
        | mk closed c₃ =>
          rw [hclosed] at hiff
          match closed with
          | .error e => exact hiff
          | .ok none => exact hiff
          | .ok (some members) =>
            have hpost := inTransaction_run (w := w) (proc.postproc members) c₃
            dsimp only
            rw [hpost]
            exact hiff

/-- What is sent after the transaction is begun until it is at its end is sent once. -/
theorem sendsOnce_transaction {proc : TransactionProc D σ} {hooks : Option (TransactionHooks D τ)}
    {c begun : Connection} {members : σ}
    (hopened : openTransaction w proc c = (.ok (some members), begun)) :
    let (result, c') := (transactionBody proc hooks members).run w begun
    SendsOnce begun (closeTransaction w result c').2 := by
  have hopen := openTransaction_flag (w := w) proc c
  rw [hopened] at hopen
  have hbody := inTransaction_run (w := w) (transactionBody proc hooks members) begun
  have honce := (run_of_inTransaction (w := w) (transactionBody proc hooks members) begun hopen.1).2
  cases hrun : (transactionBody proc hooks members).run w begun with
  | mk result c' =>
    rw [hrun] at hbody honce
    obtain ⟨q, hclose⟩ := closeTransaction_snd (w := w) result c'
    dsimp only
    rw [hclose]
    exact honce.trans (sendsOnce_execThenSet (hbody.trans hopen.1))

theorem length_le_tryQuery {q : String} : ∀ (left : Nat) (trying : Trying) (c : Connection),
    c.log.length ≤ (tryQuery w q left trying c).2.log.length := by
  intro left
  induction left with
  | zero => exact fun trying c => Nat.le_refl _
  | succ left ih =>
    intro trying c
    have hsent : c.log.length ≤ (c.send q).log.length := by
      simp [Connection.send]
    cases trying with
    | query =>
      unfold tryQuery
      split
      next => exact Nat.le_refl _
      next =>
        dsimp only
        split
        next => exact hsent
        next =>
          split
          next => exact hsent
          next =>
            split
            next => exact hsent
            next =>
              split
              next => exact hsent
              next => exact Nat.le_trans hsent (ih _ ((c.send q).reconnect w))
    | connect =>
      unfold tryQuery
      split
      next => exact Nat.le_refl _
      next => exact ih _ (c.reconnect w)

theorem length_lt_tryQuery {q : String} (left : Nat) (c : Connection)
    (hdisposed : w.disposed c.now = false) :
    c.log.length < (tryQuery w q (left + 1) .query c).2.log.length := by
  have hsent : c.log.length < (c.send q).log.length := by
    simp [Connection.send]
  unfold tryQuery
  rw [hdisposed, if_neg (by decide)]
  dsimp only
  split
  next => exact hsent
  next =>
    split
    next => exact hsent
    next =>
      split
      next => exact hsent
      next =>
        split
        next => exact hsent
        next => exact Nat.lt_of_lt_of_le hsent (length_le_tryQuery _ _ ((c.send q).reconnect w))

/-- The server has gone, and a new connection can be had. The query is sent again if and only if the
    flag is cleared. -/
theorem sent_again_iff {q : String} {c : Connection} (hconnected : c.connected = true)
    (hdisposed : ∀ t, w.disposed t = false) (hgone : w.answer c.now = .error CR_SERVER_GONE_ERROR)
    (hconnects : w.connects (c.now + 1) = true) :
    c.log.length + 2 ≤ (execSql w q c).2.log.length ↔ c.inTransaction = false := by
  unfold execSql
  rw [if_pos hconnected]
  by_cases hflag : c.inTransaction = true
  · obtain ⟨-, -, sent, hlog, hsent⟩ :=
      tryQuery_of_inTransaction (w := w) (q := q) { c with calls := c.calls + 1 }
        hflag
    refine iff_of_false ?_ (by rw [hflag]; decide)
    rw [hlog, List.length_append]
    rcases hsent with rfl | rfl
    · simp
    · simp
  · rw [Bool.not_eq_true] at hflag
    refine iff_of_true ?_ hflag
    unfold defaultNumRetry tryQuery
    simp only [hdisposed, hgone, Connection.send, Connection.reconnect, hflag, hconnects,
      Bool.false_eq_true, if_false, if_true, ne_eq, not_true_eq_false, Bool.false_or,
      Nat.reduceBEq]
    have hlt := length_lt_tryQuery (w := w) (q := q) 3
      ((Connection.send { c with calls := c.calls + 1 } q).reconnect w) (hdisposed _)
    simp only [Connection.send, Connection.reconnect, hflag, hconnects, List.length_append,
      List.length_singleton] at hlt
    exact hlt

end Transactions

/-! A connection that is lost in the middle of a transaction. -/

def update : TransactionProc Unit Unit where
  preproc := .done (.ok (true, ()))
  proc _ := .query "UPDATE users SET flags=0 WHERE id=2" fun result => .done result
  postproc _ := .done (.ok ())

def noHooks : Option (TransactionHooks Unit Unit) := none

def connection : Connection := ⟨true, false, 0, 0, []⟩

/-- The server answers some queries and is gone then. -/
def goneAfter (queries : Nat) : World Unit where
  answer t := if t < queries then .ok () else .error CR_SERVER_GONE_ERROR
  connects _ := true
  disposed _ := false

end DBAgentMySQL

end Hatohol
