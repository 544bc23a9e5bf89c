import Hatohol.DBTablesConfig

/-!
# Refused changes of servers

What a call does to the tables, if anything, and what becomes of one whose plugin is refused. A
plugin that is not known is found out in the transaction, which the procedure rolls back before
`runTransaction` commits it.
-/

namespace Hatohol

open Sql

/-! ## Transactions -/

namespace ServerAgent

variable {α : Type} {d : Dialect} {t t' : ServerTables} {answers : ServerTables.Answers}

/-- The transaction of an agent is open. -/
def inTransaction (d : Dialect) (t working : ServerTables) : ServerAgent := ⟨d, t, some working⟩

@[simp] theorem current_idle : (idle d t).current = t := rfl

@[simp] theorem current_inTransaction : (inTransaction d t t').current = t' := rfl

@[simp] theorem put_inTransaction (t'' : ServerTables) :
    (inTransaction d t t').put t'' = inTransaction d t t'' := rfl

/-- A procedure that ends normally, in a transaction or after it. -/
theorem runTransaction_of_ok
    {proc : ServerAgent → Except ServerError α × ServerAgent} {a : α}
    (hproc : proc (inTransaction d t t) = (.ok a, inTransaction d t t')) :
    (idle d t).runTransaction proc = (.ok a, idle d t') := by
  have hbegin : (idle d t).begin = some (inTransaction d t t) := rfl
  rw [runTransaction, hbegin]
  simp only [hproc]
  rfl

/-- An error of a procedure that has changed nothing. -/
theorem runTransaction_of_error
    {proc : ServerAgent → Except ServerError α × ServerAgent} {e : ServerError}
    (hproc : proc (inTransaction d t t) = (.error e, inTransaction d t t)) :
    (idle d t).runTransaction proc = (.error e, idle d t) := by
  have hbegin : (idle d t).begin = some (inTransaction d t t) := rfl
  rw [runTransaction, hbegin]
  simp only [hproc]
  by_cases hexception : e = .exception
  · subst hexception
    rfl
  · split
    next heq =>
      obtain ⟨herror, rfl⟩ := Prod.mk.inj heq
      exact absurd (Except.error.inj herror) hexception
    next heq =>
      obtain ⟨rfl, rfl⟩ := Prod.mk.inj heq
      rfl

theorem runTransaction_of_exception
    {proc : ServerAgent → Except ServerError α × ServerAgent}
    (hproc : proc (inTransaction d t t) = (.error .exception, inTransaction d t t')) :
    (idle d t).runTransaction proc = (.error .exception, idle d t) := by
  have hbegin : (idle d t).begin = some (inTransaction d t t) := rfl
  rw [runTransaction, hbegin]
  simp only [hproc]
  rfl

/-- What becomes of an error after which the procedure has rolled back. -/
def errorAfterRollback (d : Dialect) (e : ServerError) : ServerError :=
  match d with
  | .sqlite => .exception
  | .mysql => e

theorem errorAfterRollback_eq_iff {e : ServerError} (hexception : e ≠ .exception) :
    errorAfterRollback d e = e ↔ d = .mysql := by
  cases d with
  | sqlite => exact iff_of_false (Ne.symm hexception) (fun h => nomatch h)
  | mysql => exact iff_of_true rfl rfl

theorem runTransaction_of_rollback
    {proc : ServerAgent → Except ServerError α × ServerAgent} {e : ServerError}
    (hexception : e ≠ .exception) (hproc : proc (inTransaction d t t) = (.error e, idle d t)) :
    (idle d t).runTransaction proc = (.error (errorAfterRollback d e), idle d t) := by
  have hbegin : (idle d t).begin = some (inTransaction d t t) := rfl
  rw [runTransaction, hbegin]
  simp only [hproc]
  split
  next heq =>
    obtain ⟨herror, -⟩ := Prod.mk.inj heq
    exact absurd (Except.error.inj herror) hexception
  next heq =>
    obtain ⟨rfl, rfl⟩ := Prod.mk.inj heq
    cases d <;> rfl

/-- The end of the procedures, in a transaction. -/
theorem saveArmPluginInfo_cases (answers : ServerTables.Answers)
    (serverInfo : MonitoringServerInfo) (armPluginInfo : ArmPluginInfo)
    (condition : Option ArmPluginIdType) :
    (∃ armPluginInfo' t'', t'.saveArmPluginInfoIfNeededWithoutTransaction answers armPluginInfo
        condition = .ok (armPluginInfo', t'') ∧
      (inTransaction d t t').saveArmPluginInfo answers serverInfo armPluginInfo condition =
        (.ok (serverInfo, armPluginInfo'), inTransaction d t t'')) ∨
    (t'.saveArmPluginInfoIfNeededWithoutTransaction answers armPluginInfo condition =
        .error .exception ∧
      (inTransaction d t t').saveArmPluginInfo answers serverInfo armPluginInfo condition =
        (.error .exception, inTransaction d t t')) ∨
    ∃ e, e ≠ .exception ∧
      t'.saveArmPluginInfoIfNeededWithoutTransaction answers armPluginInfo condition = .error e ∧
      (inTransaction d t t').saveArmPluginInfo answers serverInfo armPluginInfo condition =
        (.error e, idle d t) := by
  rw [saveArmPluginInfo, current_inTransaction]
  cases hsave : t'.saveArmPluginInfoIfNeededWithoutTransaction answers armPluginInfo condition with
  | ok saved => exact .inl ⟨saved.1, saved.2, rfl, rfl⟩
  | error e =>
    by_cases hexception : e = .exception
    · subst hexception
      exact .inr (.inl ⟨rfl, rfl⟩)
    · refine .inr (.inr ⟨e, hexception, rfl, ?_⟩)
      split
      next heq => cases heq
      next heq => exact absurd (Except.error.inj heq) hexception
      next heq =>
        obtain rfl := Except.error.inj heq
        rfl

end ServerAgent

/-! ## Changes -/

inductive ChangeType where
  | add
  | update
  deriving DecidableEq, Repr

/-- A call of `addTargetServer` or of `updateTargetServer`. -/
structure ServerChange where
  type : ChangeType
  serverInfo : MonitoringServerInfo
  armPluginInfo : ArmPluginInfo

namespace ServerChange

section Run

variable (c : ServerChange) (isValidIPAddress : CString → Bool) (answers : ServerTables.Answers)
  (caller : ServerCaller)

def run (a : ServerAgent) :
    Except ServerError (MonitoringServerInfo × ArmPluginInfo) × ServerAgent :=
  match c.type with
  | .add => a.addTargetServer isValidIPAddress answers caller c.serverInfo c.armPluginInfo
  | .update => a.updateTargetServer isValidIPAddress answers caller c.serverInfo c.armPluginInfo

def proc (condition : Option ArmPluginIdType) (a : ServerAgent) :
    Except ServerError (MonitoringServerInfo × ArmPluginInfo) × ServerAgent :=
  match c.type with
  | .add => a.addProc answers c.serverInfo c.armPluginInfo condition
  | .update => a.updateProc answers c.serverInfo c.armPluginInfo condition

def hasPrivilege : Bool :=
  match c.type with
  | .add => caller.privilege.has .createServer
  | .update => caller.canUpdateTargetServer c.serverInfo.id

/-- The call gets to the checks of the plugin. -/
def Admitted : Prop :=
  c.hasPrivilege caller ∧ validServerInfo isValidIPAddress c.serverInfo = .ok ()

/-- The two calls differ in the privilege and in the transaction. -/
theorem run_eq (a : ServerAgent) : c.run isValidIPAddress answers caller a =
    if !c.hasPrivilege caller then (.error .noPrivilege, a)
    else match validServerInfo isValidIPAddress c.serverInfo with
    | .error e => (.error e, a)
    | .ok () =>
      match a.current.preprocForSaveArmPluginInfo a.dialect answers c.serverInfo c.armPluginInfo with
      | .error e => (.error e, a)
      | .ok condition => a.runTransaction (c.proc answers condition) := by
  obtain ⟨type, serverInfo, armPluginInfo⟩ := c
  cases type <;> rfl

end Run

/-- The arguments and the tables when the plugin is about to be saved. -/
def ReachesPlugin (c : ServerChange) (t : ServerTables) (answers : ServerTables.Answers)
    (condition : Option ArmPluginIdType) (serverInfo : MonitoringServerInfo)
    (armPluginInfo : ArmPluginInfo) (t' : ServerTables) : Prop :=
  match c.type with
  | .add => serverInfo = insertedServer answers c.serverInfo ∧
      armPluginInfo = pluginOfServer serverInfo c.armPluginInfo condition ∧
      t.insertServer serverInfo = some t'
  | .update => serverInfo = c.serverInfo ∧ armPluginInfo = c.armPluginInfo ∧
      (∃ row ∈ t.servers, row.id = unsignedId c.serverInfo.id) ∧
      t' = t.updateServer (unsignedId c.serverInfo.id) c.serverInfo

section Cases

variable {c : ServerChange} {isValidIPAddress : CString → Bool} {answers : ServerTables.Answers}
  {caller : ServerCaller} {d : Dialect} {t : ServerTables}

/-- A call that is not admitted changes nothing. -/
theorem run_of_not_admitted (hadmitted : ¬c.Admitted isValidIPAddress caller) :
    ∃ e, c.run isValidIPAddress answers caller (.idle d t) = (.error e, .idle d t) := by
  rw [run_eq]
  split
  next => exact ⟨_, rfl⟩
  next hprivilege =>
    split
    next e _ => exact ⟨e, rfl⟩
    next hvalid => exact absurd ⟨by simpa using hprivilege, hvalid⟩ hadmitted

/-- One that is refused before the transaction. -/
theorem run_of_preproc (hadmitted : c.Admitted isValidIPAddress caller) {e : ServerError}
    (hpreproc : t.preprocForSaveArmPluginInfo d answers c.serverInfo c.armPluginInfo = .error e) :
    c.run isValidIPAddress answers caller (.idle d t) = (.error e, .idle d t) := by
  have hpreproc' : (ServerAgent.idle d t).current.preprocForSaveArmPluginInfo
      (ServerAgent.idle d t).dialect answers c.serverInfo c.armPluginInfo = .error e := hpreproc
  rw [run_eq, hadmitted.1, Bool.not_true, if_neg Bool.false_ne_true]
  simp only [hadmitted.2, hpreproc']

theorem run_of_proc (hadmitted : c.Admitted isValidIPAddress caller)
    {condition : Option ArmPluginIdType}
    (hpreproc : t.preprocForSaveArmPluginInfo d answers c.serverInfo c.armPluginInfo =
      .ok condition) :
    c.run isValidIPAddress answers caller (.idle d t) =
      (ServerAgent.idle d t).runTransaction (c.proc answers condition) := by
  have hpreproc' : (ServerAgent.idle d t).current.preprocForSaveArmPluginInfo
      (ServerAgent.idle d t).dialect answers c.serverInfo c.armPluginInfo = .ok condition :=
    hpreproc
  rw [run_eq, hadmitted.1, Bool.not_true, if_neg Bool.false_ne_true]
  simp only [hadmitted.2, hpreproc']

/-- The procedure either saves the plugin in the end or has an error and has done nothing. -/
theorem proc_cases (c : ServerChange) (answers : ServerTables.Answers)
    (condition : Option ArmPluginIdType) (d : Dialect) (t : ServerTables) :
    (∃ serverInfo armPluginInfo t',
      c.ReachesPlugin t answers condition serverInfo armPluginInfo t' ∧
      c.proc answers condition (.inTransaction d t t) =
        (ServerAgent.inTransaction d t t').saveArmPluginInfo answers serverInfo armPluginInfo
          condition) ∨
    ((∀ serverInfo armPluginInfo t',
        ¬c.ReachesPlugin t answers condition serverInfo armPluginInfo t') ∧
      ∃ e, c.proc answers condition (.inTransaction d t t) = (.error e, .inTransaction d t t)) := by
  obtain ⟨type, serverInfo, armPluginInfo⟩ := c
  cases type with
  | add =>
    simp only [proc, ServerAgent.addProc, ReachesPlugin, ServerAgent.current_inTransaction]
    cases hinsert : t.insertServer (insertedServer answers serverInfo) with
    | some t' => exact .inl ⟨_, _, t', ⟨rfl, rfl, hinsert⟩, rfl⟩
    | none =>
      refine .inr ⟨?_, .exception, rfl⟩
      rintro _ _ t' ⟨rfl, -, hsome⟩
      rw [hinsert] at hsome
      cases hsome
  | update =>
    simp only [proc, ServerAgent.updateProc, ReachesPlugin, ServerAgent.current_inTransaction]
    by_cases hrecord : ∃ row ∈ t.servers, row.id = unsignedId serverInfo.id
    · have hany : t.servers.any (·.id == unsignedId serverInfo.id) = true := by
        simpa [List.any_eq_true] using hrecord
      refine .inl ⟨_, _, _, ⟨rfl, rfl, hrecord, rfl⟩, ?_⟩
      exact if_neg (by rw [hany]; exact Bool.false_ne_true)
    · have hany : t.servers.any (·.id == unsignedId serverInfo.id) = false := by
        simpa [List.any_eq_false] using hrecord
      refine .inr ⟨fun _ _ _ hreaches => hrecord hreaches.2.2.1, .notFoundTargetRecord, ?_⟩
      exact if_pos (by rw [hany]; rfl)

/-- What a call does: it fails and leaves the tables as they were, or it saves the plugin in the
    end. -/
theorem run_cases (c : ServerChange) (isValidIPAddress : CString → Bool)
    (answers : ServerTables.Answers) (caller : ServerCaller) (d : Dialect) (t : ServerTables) :
    (∃ e, c.run isValidIPAddress answers caller (.idle d t) = (.error e, .idle d t)) ∨
    ∃ condition serverInfo armPluginInfo armPluginInfo' t₁ t',
      c.Admitted isValidIPAddress caller ∧
      t.preprocForSaveArmPluginInfo d answers c.serverInfo c.armPluginInfo = .ok condition ∧
      c.ReachesPlugin t answers condition serverInfo armPluginInfo t₁ ∧
      t₁.saveArmPluginInfoIfNeededWithoutTransaction answers armPluginInfo condition =
        .ok (armPluginInfo', t') ∧
      c.run isValidIPAddress answers caller (.idle d t) =
        (.ok (serverInfo, armPluginInfo'), .idle d t') := by
  by_cases hadmitted : c.Admitted isValidIPAddress caller
  case neg => exact .inl (run_of_not_admitted hadmitted)
  cases hpreproc : t.preprocForSaveArmPluginInfo d answers c.serverInfo c.armPluginInfo with
  | error e => exact .inl ⟨e, run_of_preproc hadmitted hpreproc⟩
  | ok condition =>
    rw [run_of_proc hadmitted hpreproc]
    rcases c.proc_cases answers condition d t with
      ⟨serverInfo, armPluginInfo, t₁, hreaches, hproc⟩ | ⟨-, e, hproc⟩
    · rcases ServerAgent.saveArmPluginInfo_cases answers serverInfo armPluginInfo condition with
        ⟨armPluginInfo', t', hsave, hend⟩ | ⟨-, hend⟩ | ⟨e, hexception, -, hend⟩
      · exact .inr ⟨condition, serverInfo, armPluginInfo, armPluginInfo', t₁, t', hadmitted, rfl,
          hreaches, hsave, ServerAgent.runTransaction_of_ok (hproc.trans hend)⟩
      · exact .inl ⟨_, ServerAgent.runTransaction_of_exception (hproc.trans hend)⟩
      · exact .inl ⟨_, ServerAgent.runTransaction_of_rollback hexception (hproc.trans hend)⟩
    · exact .inl ⟨e, ServerAgent.runTransaction_of_error hproc⟩

end Cases

/-! ## Refusals -/

/-- The plugin of a call is refused, in the transaction or before it. -/
inductive Refused (c : ServerChange) (d : Dialect) (t : ServerTables)
    (answers : ServerTables.Answers) : ServerError → Prop where
  | differType (hplugin : isHatoholArmPlugin c.serverInfo.type)
      (htype : c.armPluginInfo.type ≠ c.serverInfo.type) :
      Refused c d t answers .differTypeServerAndArmPlugin
  | reserved (hplugin : isHatoholArmPlugin c.serverInfo.type)
      (htype : c.armPluginInfo.type = c.serverInfo.type)
      (hreserved : c.armPluginInfo.staticQueueAddress.text.startsWith "hap2.") :
      Refused c d t answers .reservedQueueName
  | duplicate (hplugin : isHatoholArmPlugin c.serverInfo.type)
      (htype : c.armPluginInfo.type = c.serverInfo.type)
      (hreserved : c.armPluginInfo.staticQueueAddress.text.startsWith "hap2." = false)
      (hempty : c.armPluginInfo.staticQueueAddress.text.isEmpty = false)
      (hduplicate : t.isDuplicateQueueName d answers c.armPluginInfo = some true) :
      Refused c d t answers .duplicateQueueName
  | unknown {serverInfo : MonitoringServerInfo} {armPluginInfo : ArmPluginInfo} {t' : ServerTables}
      (hplugin : isHatoholArmPlugin c.serverInfo.type)
      (htype : c.armPluginInfo.type = c.serverInfo.type)
      (hreserved : c.armPluginInfo.staticQueueAddress.text.startsWith "hap2." = false)
      (hqueue : c.armPluginInfo.staticQueueAddress.text.isEmpty = true ∨
        t.isDuplicateQueueName d answers c.armPluginInfo = some false)
      (hreaches : c.ReachesPlugin t answers (some c.armPluginInfo.id) serverInfo armPluginInfo t')
      (hid : c.armPluginInfo.id ≠ autoIncrementValue)
      (hunknown : ∀ row ∈ t.armPlugins, row.id ≠ c.armPluginInfo.id) :
      Refused c d t answers .invalidArmPluginId

section Refusals

variable {c : ServerChange} {isValidIPAddress : CString → Bool} {answers : ServerTables.Answers}
  {caller : ServerCaller} {d : Dialect} {t t' : ServerTables}

theorem isHatoholArmPlugin_iff {type : MonitoringSystemType} :
    isHatoholArmPlugin type ↔ type = .hapiJSON ∨ type = .hapi2 := by
  rw [isHatoholArmPlugin, Bool.or_eq_true, beq_iff_eq, beq_iff_eq]

/-- The checks of a plugin of the right type, up to its queue. -/
theorem preproc_of_type (hplugin : isHatoholArmPlugin c.serverInfo.type)
    (htype : c.armPluginInfo.type = c.serverInfo.type) :
    t.preprocForSaveArmPluginInfo d answers c.serverInfo c.armPluginInfo =
      some <$> (if c.armPluginInfo.staticQueueAddress.text.startsWith "hap2." then
        throw .reservedQueueName
      else if c.armPluginInfo.staticQueueAddress.text.isEmpty then pure c.armPluginInfo.id
      else match t.isDuplicateQueueName d answers c.armPluginInfo with
        | none => throw .exception
        | some true => throw .duplicateQueueName
        | some false => pure c.armPluginInfo.id) := by
  have hknown : ¬(c.armPluginInfo.type ≠ .hapiJSON ∧ c.armPluginInfo.type ≠ .hapi2) := by
    rw [htype, ← not_or, not_not]
    exact isHatoholArmPlugin_iff.mp hplugin
  rewrite [ServerTables.preprocForSaveArmPluginInfo, hplugin, Bool.not_true,
    if_neg Bool.false_ne_true, if_neg (not_not_intro htype), ServerTables.preprocForSaveArmPlugin,
    if_neg hknown, if_neg fun h => hknown ⟨h.1, h.2.1⟩]
  rfl

/-- The plugins are as they were when one is about to be saved. -/
theorem armPlugins_of_reaches {condition : Option ArmPluginIdType}
    {serverInfo : MonitoringServerInfo} {armPluginInfo : ArmPluginInfo}
    (hreaches : c.ReachesPlugin t answers condition serverInfo armPluginInfo t') :
    t'.armPlugins = t.armPlugins ∧ armPluginInfo.id = c.armPluginInfo.id := by
  obtain ⟨type, serverInfo₀, armPluginInfo₀⟩ := c
  cases type with
  | add =>
    obtain ⟨-, rfl, hinsert⟩ := hreaches
    constructor
    · rw [ServerTables.insertServer] at hinsert
      split at hinsert
      next => rw [← Option.some.inj hinsert]
      next => cases hinsert
    · unfold pluginOfServer
      split <;> rfl
  | update =>
    obtain ⟨-, rfl, -, rfl⟩ := hreaches
    exact ⟨rfl, rfl⟩

theorem save_of_unknown_plugin (answers : ServerTables.Answers)
    (hid : c.armPluginInfo.id ≠ autoIncrementValue)
    (hunknown : ∀ row ∈ t.armPlugins, row.id ≠ c.armPluginInfo.id)
    {condition : Option ArmPluginIdType} {serverInfo : MonitoringServerInfo}
    {armPluginInfo : ArmPluginInfo}
    (hreaches : c.ReachesPlugin t answers condition serverInfo armPluginInfo t') :
    t'.saveArmPluginInfoIfNeededWithoutTransaction answers armPluginInfo (some c.armPluginInfo.id) =
      .error .invalidArmPluginId := by
  obtain ⟨htables, hsame⟩ := armPlugins_of_reaches hreaches
  have hany : t'.armPlugins.any (·.id == c.armPluginInfo.id) = false := by
    rw [htables]
    simpa [List.any_eq_false] using hunknown
  rw [ServerTables.saveArmPluginInfoIfNeededWithoutTransaction,
    ServerTables.saveArmPluginInfoWithoutTransaction,
    if_pos ⟨hsame ▸ hid, by rw [hany]; rfl⟩]
  rfl

/-- A call whose plugin is refused returns the error and leaves no trace, unless the plugin is found
    to be unknown in a transaction of SQLite. -/
theorem run_refused_iff (isValidIPAddress : CString → Bool) (answers : ServerTables.Answers)
    (caller : ServerCaller) (d : Dialect) (t : ServerTables) (c : ServerChange) (e : ServerError)
    (hadmitted : c.Admitted isValidIPAddress caller) (hrefused : c.Refused d t answers e) :
    c.run isValidIPAddress answers caller (.idle d t) = (.error e, .idle d t) ↔
      e ≠ .invalidArmPluginId ∨ d = .mysql := by
  have hbefore {e : ServerError} (hne : e ≠ .invalidArmPluginId) (hpreproc :
      t.preprocForSaveArmPluginInfo d answers c.serverInfo c.armPluginInfo = .error e) :
      c.run isValidIPAddress answers caller (.idle d t) = (.error e, .idle d t) ↔
        e ≠ .invalidArmPluginId ∨ d = .mysql :=
    iff_of_true (run_of_preproc hadmitted hpreproc) (.inl hne)
  cases hrefused with
  | differType hplugin htype =>
    refine hbefore (by decide) ?_
    rw [ServerTables.preprocForSaveArmPluginInfo, hplugin, Bool.not_true,
      if_neg Bool.false_ne_true, if_pos htype]
    rfl
  | reserved hplugin htype hreserved =>
    refine hbefore (by decide) ?_
    rw [preproc_of_type hplugin htype, if_pos hreserved]
    rfl
  | duplicate hplugin htype hreserved hempty hduplicate =>
    refine hbefore (by decide) ?_
    rw [preproc_of_type hplugin htype, hreserved, hempty, hduplicate, if_neg Bool.false_ne_true,
      if_neg Bool.false_ne_true]
    rfl
  | unknown hplugin htype hreserved hqueue hreaches hid hunknown =>
    rename_i serverInfo armPluginInfo t'
    have hpreproc : t.preprocForSaveArmPluginInfo d answers c.serverInfo c.armPluginInfo =
        .ok (some c.armPluginInfo.id) := by
      rw [preproc_of_type hplugin htype, hreserved, if_neg Bool.false_ne_true]
      rcases hqueue with hempty | hduplicate
      · rw [hempty, if_pos rfl]
        rfl
      · rw [hduplicate]
        split <;> rfl
    rw [run_of_proc hadmitted hpreproc, or_iff_right (not_not_intro rfl)]
    rcases c.proc_cases answers (some c.armPluginInfo.id) d t with
      ⟨serverInfo, armPluginInfo, t', hreaches, hproc⟩ | ⟨hnot, -⟩
    · have hsave := save_of_unknown_plugin answers hid hunknown hreaches
      rcases ServerAgent.saveArmPluginInfo_cases answers serverInfo armPluginInfo
        (some c.armPluginInfo.id) with ⟨_, _, hok, -⟩ | ⟨hexception, -⟩ | ⟨e, hne, herror, hend⟩
      · rw [hsave] at hok
        cases hok
      · rw [hsave] at hexception
        cases hexception
      · obtain rfl : ServerError.invalidArmPluginId = e := Except.error.inj (hsave.symm.trans herror)
        rw [ServerAgent.runTransaction_of_rollback hne (hproc.trans hend), Prod.mk.injEq,
          and_iff_left rfl, Except.error.injEq, ServerAgent.errorAfterRollback_eq_iff hne]
    · exact absurd hreaches (hnot _ _ _)

end Refusals

end ServerChange

/-! ## An unknown plugin -/

section Examples

def localhost : CString := ⟨"localhost", by decide⟩

/-- A server of a type, with the settings that are asked for. -/
def serverOfType (id : ServerIdType) (type : MonitoringSystemType) : MonitoringServerInfo where
  id := id
  type := type
  hostName := localhost
  ipAddress := emptyText
  nickname := emptyText
  port := 80
  pollingIntervalSec := 60
  retryIntervalSec := 10
  userName := emptyText
  password := emptyText
  dbName := emptyText
  baseURL := emptyText
  extendedInfo := emptyText

/-- A plugin with queues of dynamic names. -/
def pluginOfType (id : ArmPluginIdType) (type : MonitoringSystemType) (serverId : ServerIdType) :
    ArmPluginInfo where
  id := id
  type := type
  path := emptyText
  brokerUrl := emptyText
  staticQueueAddress := emptyText
  serverId := serverId
  tlsCertificatePath := emptyText
  tlsKeyPath := emptyText
  tlsCACertificatePath := emptyText
  tlsEnableVerify := 1
  uuid := emptyText

def administrator : ServerCaller := ⟨1, .allPrivileges, []⟩

/-- The plugin 7 is named for a new server, and there is none. -/
def addWithUnknownPlugin : ServerChange :=
  ⟨.add, serverOfType 0 .hapi2, pluginOfType 7 .hapi2 0⟩

theorem ServerChange.admitted_addWithUnknownPlugin :
    addWithUnknownPlugin.Admitted (fun _ => true) administrator := by
  refine ⟨?_, ?_⟩ <;> decide

theorem ServerChange.refused_addWithUnknownPlugin (d : Dialect) :
    addWithUnknownPlugin.Refused d .empty ⟨none, 0, 0⟩ .invalidArmPluginId :=
  .unknown rfl rfl (by decide) (.inl (by decide)) ⟨rfl, rfl, rfl⟩ (by decide) (fun _ h => nomatch h)

theorem ServerChange.run_addWithUnknownPlugin_mysql :
    addWithUnknownPlugin.run (fun _ => true) ⟨none, 0, 0⟩ administrator (.idle .mysql .empty) =
      (.error .invalidArmPluginId, .idle .mysql .empty) :=
  (run_refused_iff _ _ _ _ _ _ _ admitted_addWithUnknownPlugin
    (refused_addWithUnknownPlugin .mysql)).mpr (.inr rfl)

/-- SQLite throws instead of returning the error. -/
theorem ServerChange.run_addWithUnknownPlugin_sqlite :
    addWithUnknownPlugin.Admitted (fun _ => true) administrator ∧
    addWithUnknownPlugin.Refused .sqlite .empty ⟨none, 0, 0⟩ .invalidArmPluginId ∧
    addWithUnknownPlugin.run (fun _ => true) ⟨none, 0, 0⟩ administrator (.idle .sqlite .empty) =
      (.error .exception, .idle .sqlite .empty) ∧
    ServerError.exception ≠ .invalidArmPluginId :=
  ⟨admitted_addWithUnknownPlugin, refused_addWithUnknownPlugin .sqlite, rfl, by decide⟩

end Examples

end Hatohol
