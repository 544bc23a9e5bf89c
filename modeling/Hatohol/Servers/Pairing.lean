import Hatohol.Machine.Steps
import Hatohol.Servers.Refusals

/-!
# Servers and their plugins

A server of a plugin's type and its row in `arm_plugins` belong together, but the calls name the row
by an id that the caller supplies, and only `addTargetServer` sees to the server that the row is of.
-/

namespace Hatohol

open Sql Machine

/-! ## What the statements do -/

namespace ServerTables

variable {t t' : ServerTables}

theorem mem_insertServer {sv : MonitoringServerInfo} (hinsert : t.insertServer sv = some t') :
    t'.servers = t.servers ++ [sv] ∧ t'.armPlugins = t.armPlugins ∧
      ∀ other ∈ t.servers, other.id ≠ sv.id := by
  rw [insertServer] at hinsert
  split at hinsert
  next hnodup =>
    obtain rfl := Option.some.inj hinsert
    rw [List.map_append, List.nodup_append] at hnodup
    exact ⟨rfl, rfl, fun other hother => hnodup.2.2 _ (List.mem_map_of_mem hother) _ (by simp)⟩
  next => cases hinsert

theorem mem_insertArmPlugin {row : ArmPluginInfo} (hinsert : t.insertArmPlugin row = some t') :
    t'.servers = t.servers ∧ t'.armPlugins = t.armPlugins ++ [row] ∧
      ∀ other ∈ t.armPlugins, other.serverId ≠ row.serverId := by
  rw [insertArmPlugin] at hinsert
  split at hinsert
  next hnodup =>
    obtain rfl := Option.some.inj hinsert
    have hserver := hnodup.2
    rw [List.map_append, List.nodup_append] at hserver
    exact ⟨rfl, rfl, fun other hother => hserver.2.2 _ (List.mem_map_of_mem hother) _ (by simp)⟩
  next => cases hinsert

theorem mem_updateServer {id : ServerIdType} {serverInfo sv : MonitoringServerInfo} :
    sv ∈ (t.updateServer id serverInfo).servers ↔
      sv ∈ t.servers ∧ sv.id ≠ id ∨
        sv = serverInfo.withId id ∧ ∃ old ∈ t.servers, old.id = id := by
  simp only [updateServer, List.mem_map, updatedServer]
  constructor
  · rintro ⟨old, hold, rfl⟩
    split
    next hid => exact .inr ⟨by rw [hid], old, hold, hid⟩
    next hid => exact .inl ⟨hold, hid⟩
  · rintro (⟨hmem, hid⟩ | ⟨rfl, old, hold, hid⟩)
    · exact ⟨sv, hmem, if_neg hid⟩
    · exact ⟨old, hold, by rw [if_pos hid, hid]⟩

theorem mem_updateArmPlugin {armPluginInfo : ArmPluginInfo}
    (hupdate : t.updateArmPlugin armPluginInfo = some t') :
    t'.servers = t.servers ∧
      ∀ row, row ∈ t'.armPlugins ↔ row ∈ t.armPlugins ∧ row.id ≠ armPluginInfo.id ∨
        ∃ old ∈ t.armPlugins, old.id = armPluginInfo.id ∧
          row = { armPluginInfo with type := old.type } := by
  rw [updateArmPlugin] at hupdate
  split at hupdate
  next =>
    obtain rfl := Option.some.inj hupdate
    refine ⟨rfl, fun row => ?_⟩
    simp only [List.mem_map, updatedArmPlugin]
    constructor
    · rintro ⟨old, hold, rfl⟩
      split
      next hid => exact .inr ⟨old, hold, hid, rfl⟩
      next hid => exact .inl ⟨hold, hid⟩
    · rintro (⟨hmem, hid⟩ | ⟨old, hold, hid, rfl⟩)
      · exact ⟨row, hmem, if_neg hid⟩
      · exact ⟨old, hold, if_pos hid⟩
  next => cases hupdate

theorem eq_of_serverId (t : ServerTables) {row row' : ArmPluginInfo} (hrow : row ∈ t.armPlugins)
    (hrow' : row' ∈ t.armPlugins) (hserver : row.serverId = row'.serverId) : row = row' :=
  List.inj_on_of_nodup_map t.nodup_serverIds hrow hrow' hserver

theorem eq_of_armPluginId (t : ServerTables) {row row' : ArmPluginInfo} (hrow : row ∈ t.armPlugins)
    (hrow' : row' ∈ t.armPlugins) (hid : row.id = row'.id) : row = row' :=
  List.inj_on_of_nodup_map t.nodup_armPlugins hrow hrow' hid

theorem eq_of_serverInfoId (t : ServerTables) {sv sv' : MonitoringServerInfo} (hsv : sv ∈ t.servers)
    (hsv' : sv' ∈ t.servers) (hid : sv.id = sv'.id) : sv = sv' :=
  List.inj_on_of_nodup_map t.nodup_servers hsv hsv' hid

/-- A server that a plugin is given is not that of another one. -/
theorem serverId_of_updateArmPlugin {armPluginInfo other : ArmPluginInfo}
    (hupdate : t.updateArmPlugin armPluginInfo = some t')
    (hknown : ∃ old ∈ t.armPlugins, old.id = armPluginInfo.id) (hother : other ∈ t.armPlugins)
    (hne : other.id ≠ armPluginInfo.id) : other.serverId ≠ armPluginInfo.serverId := by
  obtain ⟨-, hmem⟩ := mem_updateArmPlugin hupdate
  obtain ⟨old, hold, hid⟩ := hknown
  intro hserver
  have hsame := t'.eq_of_serverId ((hmem other).mpr (.inl ⟨hother, hne⟩))
    ((hmem _).mpr (.inr ⟨old, hold, hid, rfl⟩)) hserver
  exact hne (by rw [hsame])

/-- What is done to the plugins when one is saved. -/
theorem save_cases {answers : Answers} {armPluginInfo armPluginInfo' : ArmPluginInfo}
    {condition : Option ArmPluginIdType}
    (hsave : t.saveArmPluginInfoIfNeededWithoutTransaction answers armPluginInfo condition =
      .ok (armPluginInfo', t')) :
    condition = none ∧ t' = t ∨
    (∃ id, condition = some id ∧ armPluginInfo.id ≠ autoIncrementValue ∧
      (∃ row ∈ t.armPlugins, row.id = id) ∧ t.updateArmPlugin armPluginInfo = some t') ∨
    condition.isSome ∧ armPluginInfo.id = autoIncrementValue ∧
      t.insertArmPlugin { armPluginInfo with id := (answers.lastArmPluginId : Int) + 1 } = some t' := by
  cases condition with
  | none => exact .inl ⟨rfl, (Prod.mk.inj (Except.ok.inj hsave)).2.symm⟩
  | some id =>
    right
    rw [saveArmPluginInfoIfNeededWithoutTransaction, saveArmPluginInfoWithoutTransaction] at hsave
    split at hsave
    next => cases hsave
    next hknown =>
      split at hsave
      next hid =>
        left
        have hany : t.armPlugins.any (·.id == id) = true := by
          by_contra hany
          exact hknown ⟨hid, by simpa using hany⟩
        refine ⟨id, rfl, hid, by simpa using hany, ?_⟩
        split at hsave
        next => cases hsave
        next hupdate => rw [hupdate, (Prod.mk.inj (Except.ok.inj hsave)).2]
      next hid =>
        right
        refine ⟨rfl, not_not.mp hid, ?_⟩
        dsimp only at hsave
        split at hsave
        next => cases hsave
        next hinsert => rw [hinsert, (Prod.mk.inj (Except.ok.inj hsave)).2]

/-- What has been checked where nothing is refused before the transaction. -/
theorem preproc_cases {d : Dialect} {answers : Answers} {serverInfo : MonitoringServerInfo}
    {armPluginInfo : ArmPluginInfo} {condition : Option ArmPluginIdType}
    (hpreproc : t.preprocForSaveArmPluginInfo d answers serverInfo armPluginInfo = .ok condition) :
    isHatoholArmPlugin serverInfo.type = false ∧ condition = none ∨
    isHatoholArmPlugin serverInfo.type ∧ condition = some armPluginInfo.id ∧
      armPluginInfo.type = serverInfo.type ∧
      armPluginInfo.staticQueueAddress.text.startsWith "hap2." = false ∧
      (armPluginInfo.staticQueueAddress.text.isEmpty ∨
        t.isDuplicateQueueName d answers armPluginInfo = some false) := by
  rw [preprocForSaveArmPluginInfo] at hpreproc
  split at hpreproc
  next hplugin => exact .inl ⟨by simpa using hplugin, (Except.ok.inj hpreproc).symm⟩
  next hplugin =>
    right
    rw [Bool.not_eq_true, Bool.not_eq_false'] at hplugin
    split at hpreproc
    next => cases hpreproc
    next htype =>
      rw [preprocForSaveArmPlugin] at hpreproc
      split at hpreproc
      next => cases hpreproc
      split at hpreproc
      next => cases hpreproc
      split at hpreproc
      next => cases hpreproc
      next hprefix =>
        have hprefix' := Bool.eq_false_iff.mpr hprefix
        split at hpreproc
        next hempty =>
          exact ⟨hplugin, (Except.ok.inj hpreproc).symm, not_not.mp htype, hprefix', .inl hempty⟩
        next =>
          split at hpreproc
          next => cases hpreproc
          next => cases hpreproc
          next hunique =>
            exact ⟨hplugin, (Except.ok.inj hpreproc).symm, not_not.mp htype, hprefix', .inr hunique⟩

end ServerTables

/-! ## Pairs -/

structure ServerTables.Paired (t : ServerTables) : Prop where
  refers : ∀ row ∈ t.armPlugins, ∃ sv ∈ t.servers, sv.id = row.serverId ∧ sv.type = row.type
  hasOne : ∀ sv ∈ t.servers, isHatoholArmPlugin sv.type →
    ∃! row, row ∈ t.armPlugins ∧ row.serverId = sv.id
  hasNone : ∀ sv ∈ t.servers, isHatoholArmPlugin sv.type = false →
    ∀ row ∈ t.armPlugins, row.serverId ≠ sv.id
  distinct : ∀ row ∈ t.armPlugins, ∀ other ∈ t.armPlugins,
    row.staticQueueAddress.text.isEmpty = false →
    row.staticQueueAddress = other.staticQueueAddress → row = other
  notReserved : ∀ row ∈ t.armPlugins, row.staticQueueAddress.text.startsWith "hap2." = false

/-- Another row has the address of the queue. -/
def ServerTables.QueueTaken (t : ServerTables) (armPluginInfo : ArmPluginInfo) : Prop :=
  armPluginInfo.staticQueueAddress.text.isEmpty = false ∧
    ∃ row ∈ t.armPlugins, row.id ≠ armPluginInfo.id ∧
      row.staticQueueAddress = armPluginInfo.staticQueueAddress

/-- The condition of `isDuplicateQueueName` is read as it was meant. -/
def QueueRead (d : Dialect) (armPluginInfo : ArmPluginInfo) : Prop :=
  ServerTables.readUnencoded d armPluginInfo.staticQueueAddress
    (" and id!=" ++ DBTermCodec.encInt armPluginInfo.id) =
    some armPluginInfo.staticQueueAddress.text

theorem readBody_of_plain {d : Dialect} {cs rest : List Char}
    (hplain : ∀ c ∈ cs, c ≠ '\'' ∧ d.escapes c = false) (hrest : rest.head? ≠ some '\'') :
    readBody d (cs ++ '\'' :: rest) = some (cs, rest) := by
  induction cs with
  | nil => exact readBody_close d hrest
  | cons c cs ih =>
    obtain ⟨hquote, hescape⟩ := hplain c List.mem_cons_self
    rw [List.cons_append, readBody_plain d _ hquote hescape,
      ih fun c' hc' => hplain c' (List.mem_cons_of_mem _ hc')]
    rfl

/-- A text is read if it has no quote in it, and nothing that the database takes for an escape. -/
theorem queueRead_of_plain {d : Dialect} {armPluginInfo : ArmPluginInfo}
    (hplain : ∀ c ∈ armPluginInfo.staticQueueAddress.text.toList, c ≠ '\'' ∧ d.escapes c = false) :
    QueueRead d armPluginInfo := by
  have hrest : (" and id!=" ++ DBTermCodec.encInt armPluginInfo.id).toList.head? ≠ some '\'' := by
    rw [String.toList_append]
    exact fun h => nomatch h
  have hquoted : ("'" ++ armPluginInfo.staticQueueAddress.text ++ "'" ++
      (" and id!=" ++ DBTermCodec.encInt armPluginInfo.id)).toList =
      '\'' :: (armPluginInfo.staticQueueAddress.text.toList ++
        '\'' :: (" and id!=" ++ DBTermCodec.encInt armPluginInfo.id).toList) := by
    simp only [String.toList_append, List.append_assoc]
    rfl
  rw [QueueRead, ServerTables.readUnencoded, hquoted, readString, readBody_of_plain hplain hrest]
  simp only [if_true, String.ofList_toList]

theorem ServerTables.not_queueTaken {t : ServerTables} {d : Dialect} {answers : Answers}
    {armPluginInfo : ArmPluginInfo} (hread : QueueRead d armPluginInfo)
    (hunique : t.isDuplicateQueueName d answers armPluginInfo = some false) :
    ¬t.QueueTaken armPluginInfo := by
  rintro ⟨-, row, hrow, hid, haddress⟩
  have hread' : readUnencoded d armPluginInfo.staticQueueAddress
    (" and id!=" ++ DBTermCodec.encInt armPluginInfo.id) =
      some armPluginInfo.staticQueueAddress.text := hread
  rw [isDuplicateQueueName, hread', Option.elim_some, Option.some.injEq, List.any_eq_false]
    at hunique
  exact hunique row hrow (by simp [haddress, hid])

/-! ## Calls -/

/-- What keeps a change from taking servers and plugins apart, once it has passed the checks: a
    plugin is new, or it stays with its server and the server keeps its type. What violates a key is
    undone. -/
def ServerChange.KeepsPairs (c : ServerChange) (t : ServerTables)
    (answers : ServerTables.Answers) : Prop :=
  match c.type with
  | .add => isHatoholArmPlugin c.serverInfo.type →
      (∀ sv ∈ t.servers, sv.id ≠ (insertedServer answers c.serverInfo).id) →
      ∀ row ∈ t.armPlugins, row.id ≠ c.armPluginInfo.id
  | .update => ∀ old ∈ t.servers, old.id = unsignedId c.serverInfo.id →
      if isHatoholArmPlugin c.serverInfo.type then
        if c.armPluginInfo.id = autoIncrementValue then
          c.armPluginInfo.serverId = old.id ∨
            ∃ other ∈ t.armPlugins, other.serverId = c.armPluginInfo.serverId
        else ∀ row ∈ t.armPlugins, row.id = c.armPluginInfo.id →
          c.armPluginInfo.serverId = row.serverId ∧ old.type = c.serverInfo.type ∨
            ∃ other ∈ t.armPlugins, other.id ≠ row.id ∧
              other.serverId = c.armPluginInfo.serverId
      else isHatoholArmPlugin old.type = false

/-- A call with what the database answers in it. -/
inductive ServerCall where
  | change (c : ServerChange) (answers : ServerTables.Answers)
  | delete (serverId : ServerIdType)

namespace ServerCall

variable (isValidIPAddress : CString → Bool)

def step (a : ServerAgent) : ServerCaller × ServerCall → ServerAgent
  | (caller, .change c answers) => (c.run isValidIPAddress answers caller a).2
  | (caller, .delete serverId) => (a.deleteTargetServer caller serverId).2

/-- A change that passes the checks keeps the pairs, and its queue is no other's although the check
    has been read in another way. -/
def Sound (a : ServerAgent) : ServerCaller × ServerCall → Prop
  | (caller, .change c answers) => ∀ condition, c.Admitted isValidIPAddress caller →
      a.tables.preprocForSaveArmPluginInfo a.dialect answers c.serverInfo c.armPluginInfo =
        .ok condition →
      c.KeepsPairs a.tables answers ∧
        (QueueRead a.dialect c.armPluginInfo ∨ ¬a.tables.QueueTaken c.armPluginInfo)
  | (_, .delete _) => True

end ServerCall

/-! ## What the calls keep -/

/-- The pairs, up to some servers that still lack a plugin. -/
structure ServerTables.Kept (t : ServerTables) (lacking : ServerIdType → Prop) : Prop where
  refers : ∀ row ∈ t.armPlugins, ∃ sv ∈ t.servers, sv.id = row.serverId ∧ sv.type = row.type
  plugins : ∀ row ∈ t.armPlugins, isHatoholArmPlugin row.type
  hasOne : ∀ sv ∈ t.servers, isHatoholArmPlugin sv.type →
    lacking sv.id ∨ ∃ row ∈ t.armPlugins, row.serverId = sv.id
  distinct : ∀ row ∈ t.armPlugins, ∀ other ∈ t.armPlugins,
    row.staticQueueAddress.text.isEmpty = false →
    row.staticQueueAddress = other.staticQueueAddress → row = other
  notReserved : ∀ row ∈ t.armPlugins, row.staticQueueAddress.text.startsWith "hap2." = false
  ids : ∀ row ∈ t.armPlugins, row.id ≠ autoIncrementValue

namespace ServerTables.Kept

variable {t t' : ServerTables} {lacking : ServerIdType → Prop}

theorem paired (hkept : t.Kept fun _ => False) : t.Paired where
  refers := hkept.refers
  hasOne := by
    intro sv hsv hplugin
    obtain ⟨row, hrow, hserver⟩ := (hkept.hasOne sv hsv hplugin).resolve_left id
    exact ⟨row, ⟨hrow, hserver⟩, fun other hother =>
      t.eq_of_serverId hother.1 hrow (hother.2.trans hserver.symm)⟩
  hasNone := by
    intro sv hsv hplugin row hrow hserver
    obtain ⟨sv', hsv', hid, htype⟩ := hkept.refers row hrow
    obtain rfl := t.eq_of_serverInfoId hsv' hsv (hid.trans hserver)
    rw [htype, hkept.plugins row hrow] at hplugin
    cases hplugin
  distinct := hkept.distinct
  notReserved := hkept.notReserved

theorem empty : ServerTables.empty.Kept fun _ => False where
  refers := fun _ hrow => nomatch hrow
  plugins := fun _ hrow => nomatch hrow
  hasOne := fun _ hsv => nomatch hsv
  distinct := fun _ hrow => nomatch hrow
  notReserved := fun _ hrow => nomatch hrow
  ids := fun _ hrow => nomatch hrow

/-- Nothing is lacking if the servers that lack a plugin need none. -/
theorem complete (hkept : t.Kept lacking)
    (hneed : ∀ sv ∈ t.servers, isHatoholArmPlugin sv.type → ¬lacking sv.id) :
    t.Kept fun _ => False where
  refers := hkept.refers
  plugins := hkept.plugins
  hasOne := fun sv hsv hplugin =>
    .inr ((hkept.hasOne sv hsv hplugin).resolve_left (hneed sv hsv hplugin))
  distinct := hkept.distinct
  notReserved := hkept.notReserved
  ids := hkept.ids

theorem insertServer (hkept : t.Kept fun _ => False) {sv : MonitoringServerInfo}
    (hinsert : t.insertServer sv = some t') : t'.Kept (· = sv.id) := by
  obtain ⟨hservers, hplugins, -⟩ := mem_insertServer hinsert
  have hmem {other : MonitoringServerInfo} : other ∈ t'.servers ↔ other ∈ t.servers ∨ other = sv := by
    simp [hservers]
  constructor
  case refers =>
    intro row hrow
    rw [hplugins] at hrow
    obtain ⟨other, hother, href⟩ := hkept.refers row hrow
    exact ⟨other, hmem.mpr (.inl hother), href⟩
  case hasOne =>
    intro other hother hplugin
    rcases hmem.mp hother with hother | rfl
    · rw [hplugins]
      exact .inr ((hkept.hasOne other hother hplugin).resolve_left id)
    · exact .inl rfl
  all_goals rw [hplugins]
  case plugins => exact hkept.plugins
  case distinct => exact hkept.distinct
  case notReserved => exact hkept.notReserved
  case ids => exact hkept.ids

/-- A server that has no plugin is updated. -/
theorem updateServer (hkept : t.Kept fun _ => False) {id : ServerIdType}
    (hnone : ∀ row ∈ t.armPlugins, row.serverId ≠ id) (serverInfo : MonitoringServerInfo) :
    (t.updateServer id serverInfo).Kept (· = id) where
  refers := by
    intro row hrow
    obtain ⟨sv, hsv, hserver, htype⟩ := hkept.refers row hrow
    have hne : sv.id ≠ id := fun heq => hnone row hrow (hserver.symm.trans heq)
    exact ⟨sv, mem_updateServer.mpr (.inl ⟨hsv, hne⟩), hserver, htype⟩
  plugins := hkept.plugins
  hasOne := by
    intro sv hsv hplugin
    rcases mem_updateServer.mp hsv with ⟨hsv, -⟩ | ⟨rfl, -⟩
    · exact .inr ((hkept.hasOne sv hsv hplugin).resolve_left False.elim)
    · exact .inl rfl
  distinct := hkept.distinct
  notReserved := hkept.notReserved
  ids := hkept.ids

/-- The server that lacks a plugin gets one. -/
theorem insertArmPlugin {sv : MonitoringServerInfo} (hkept : t.Kept (· = sv.id))
    (hsv : sv ∈ t.servers) {row : ArmPluginInfo} (hserver : row.serverId = sv.id)
    (htype : row.type = sv.type) (hplugin : isHatoholArmPlugin sv.type)
    (hreserved : row.staticQueueAddress.text.startsWith "hap2." = false)
    (hunique : row.staticQueueAddress.text.isEmpty = false →
      ∀ other ∈ t.armPlugins, other.staticQueueAddress ≠ row.staticQueueAddress)
    (hid : row.id ≠ autoIncrementValue) (hinsert : t.insertArmPlugin row = some t') :
    t'.Kept fun _ => False := by
  obtain ⟨hservers, hplugins, -⟩ := mem_insertArmPlugin hinsert
  have hmem {other : ArmPluginInfo} :
      other ∈ t'.armPlugins ↔ other ∈ t.armPlugins ∨ other = row := by
    simp [hplugins]
  constructor
  case refers =>
    intro other hother
    rw [hservers]
    rcases hmem.mp hother with hother | rfl
    · exact hkept.refers other hother
    · exact ⟨sv, hsv, hserver.symm, htype.symm⟩
  case plugins =>
    intro other hother
    rcases hmem.mp hother with hother | rfl
    · exact hkept.plugins other hother
    · rw [htype, hplugin]
  case hasOne =>
    intro other hother hneed
    rw [hservers] at hother
    rcases hkept.hasOne other hother hneed with hlacks | ⟨row', hrow', hserver'⟩
    · exact .inr ⟨row, hmem.mpr (.inr rfl), hserver.trans hlacks.symm⟩
    · exact .inr ⟨row', hmem.mpr (.inl hrow'), hserver'⟩
  case distinct =>
    intro first hfirst second hsecond haddress hsame
    rcases hmem.mp hfirst with hfirst | rfl <;> rcases hmem.mp hsecond with hsecond | rfl
    · exact hkept.distinct first hfirst second hsecond haddress hsame
    · exact absurd hsame (hunique (hsame ▸ haddress) first hfirst)
    · exact absurd hsame.symm (hunique haddress second hsecond)
    · rfl
  case notReserved =>
    intro other hother
    rcases hmem.mp hother with hother | rfl
    · exact hkept.notReserved other hother
    · exact hreserved
  case ids =>
    intro other hother
    rcases hmem.mp hother with hother | rfl
    · exact hkept.ids other hother
    · exact hid

/-- A server is updated and keeps its type. -/
theorem updateServer_of_type (hkept : t.Kept fun _ => False) {old serverInfo : MonitoringServerInfo}
    (hold : old ∈ t.servers) (htype : old.type = serverInfo.type) :
    (t.updateServer old.id serverInfo).Kept fun _ => False where
  refers := by
    intro row hrow
    obtain ⟨sv, hsv, hserver, hsame⟩ := hkept.refers row hrow
    by_cases hid : sv.id = old.id
    · obtain rfl := t.eq_of_serverInfoId hsv hold hid
      exact ⟨serverInfo.withId sv.id, mem_updateServer.mpr (.inr ⟨rfl, sv, hsv, rfl⟩), hserver,
        htype.symm.trans hsame⟩
    · exact ⟨sv, mem_updateServer.mpr (.inl ⟨hsv, hid⟩), hserver, hsame⟩
  plugins := hkept.plugins
  hasOne := by
    intro sv hsv hplugin
    rcases mem_updateServer.mp hsv with ⟨hsv, -⟩ | ⟨rfl, -⟩
    · exact hkept.hasOne sv hsv hplugin
    · exact hkept.hasOne old hold (htype ▸ hplugin)
  distinct := hkept.distinct
  notReserved := hkept.notReserved
  ids := hkept.ids

/-- A plugin is updated and stays with its server. -/
theorem updateArmPlugin (hkept : t.Kept fun _ => False) {old armPluginInfo : ArmPluginInfo}
    (hold : old ∈ t.armPlugins) (hid : old.id = armPluginInfo.id)
    (hserver : armPluginInfo.serverId = old.serverId)
    (hreserved : armPluginInfo.staticQueueAddress.text.startsWith "hap2." = false)
    (hunique : ¬t.QueueTaken armPluginInfo)
    (hupdate : t.updateArmPlugin armPluginInfo = some t') : t'.Kept fun _ => False := by
  obtain ⟨hservers, hmem'⟩ := mem_updateArmPlugin hupdate
  have hmem {row : ArmPluginInfo} : row ∈ t'.armPlugins ↔
      row ∈ t.armPlugins ∧ row.id ≠ armPluginInfo.id ∨
        row = { armPluginInfo with type := old.type } := by
    rw [hmem']
    refine or_congr_right ⟨?_, fun h => ⟨old, hold, hid, h⟩⟩
    rintro ⟨old', hold', hid', rfl⟩
    rw [t.eq_of_armPluginId hold' hold (hid'.trans hid.symm)]
  have hother {row : ArmPluginInfo} (hrow : row ∈ t.armPlugins) (hne : row.id ≠ armPluginInfo.id)
      (haddress : armPluginInfo.staticQueueAddress.text.isEmpty = false) :
      row.staticQueueAddress ≠ armPluginInfo.staticQueueAddress :=
    fun hsame => hunique ⟨haddress, row, hrow, hne, hsame⟩
  constructor
  case refers =>
    intro row hrow
    rw [hservers]
    rcases hmem.mp hrow with ⟨hrow, -⟩ | rfl
    · exact hkept.refers row hrow
    · obtain ⟨sv, hsv, href, htype⟩ := hkept.refers old hold
      exact ⟨sv, hsv, href.trans hserver.symm, htype⟩
  case plugins =>
    intro row hrow
    rcases hmem.mp hrow with ⟨hrow, -⟩ | rfl
    · exact hkept.plugins row hrow
    · exact hkept.plugins old hold
  case hasOne =>
    intro sv hsv hplugin
    rw [hservers] at hsv
    obtain ⟨row, hrow, href⟩ := (hkept.hasOne sv hsv hplugin).resolve_left id
    by_cases hne : row.id = armPluginInfo.id
    · obtain rfl := t.eq_of_armPluginId hrow hold (hne.trans hid.symm)
      exact .inr ⟨_, hmem.mpr (.inr rfl), hserver.trans href⟩
    · exact .inr ⟨row, hmem.mpr (.inl ⟨hrow, hne⟩), href⟩
  case distinct =>
    intro first hfirst second hsecond haddress hsame
    rcases hmem.mp hfirst with ⟨hfirst, hne⟩ | rfl <;>
      rcases hmem.mp hsecond with ⟨hsecond, hne'⟩ | rfl
    · exact hkept.distinct first hfirst second hsecond haddress hsame
    · have hsame' : first.staticQueueAddress = armPluginInfo.staticQueueAddress := hsame
      exact absurd hsame' (hother hfirst hne (hsame' ▸ haddress))
    · exact absurd hsame.symm (hother hsecond hne' haddress)
    · rfl
  case notReserved =>
    intro row hrow
    rcases hmem.mp hrow with ⟨hrow, -⟩ | rfl
    · exact hkept.notReserved row hrow
    · exact hreserved
  case ids =>
    intro row hrow
    rcases hmem.mp hrow with ⟨hrow, -⟩ | rfl
    · exact hkept.ids row hrow
    · exact hid ▸ hkept.ids old hold

theorem deleteServer (hkept : t.Kept fun _ => False) (serverId : ServerIdType) :
    (t.deleteServer serverId).Kept fun _ => False := by
  have hmem {row : ArmPluginInfo} :
      row ∈ (t.deleteServer serverId).armPlugins ↔ row ∈ t.armPlugins ∧ row.serverId ≠ serverId := by
    simp [ServerTables.deleteServer]
  have hmemServer {sv : MonitoringServerInfo} :
      sv ∈ (t.deleteServer serverId).servers ↔ sv ∈ t.servers ∧ sv.id ≠ serverId := by
    simp [ServerTables.deleteServer]
  constructor
  case refers =>
    intro row hrow
    obtain ⟨hrow, hne⟩ := hmem.mp hrow
    obtain ⟨sv, hsv, href, htype⟩ := hkept.refers row hrow
    exact ⟨sv, hmemServer.mpr ⟨hsv, href ▸ hne⟩, href, htype⟩
  case plugins => exact fun row hrow => hkept.plugins row (hmem.mp hrow).1
  case hasOne =>
    intro sv hsv hplugin
    obtain ⟨hsv, hne⟩ := hmemServer.mp hsv
    obtain ⟨row, hrow, href⟩ := (hkept.hasOne sv hsv hplugin).resolve_left id
    exact .inr ⟨row, hmem.mpr ⟨hrow, href ▸ hne⟩, href⟩
  case distinct =>
    exact fun row hrow other hother =>
      hkept.distinct row (hmem.mp hrow).1 other (hmem.mp hother).1
  case notReserved => exact fun row hrow => hkept.notReserved row (hmem.mp hrow).1
  case ids => exact fun row hrow => hkept.ids row (hmem.mp hrow).1

end ServerTables.Kept

/-! ## Steps -/

namespace ServerChange

variable {c : ServerChange} {answers : ServerTables.Answers} {t t₁ t' : ServerTables}
  {serverInfo : MonitoringServerInfo} {armPluginInfo armPluginInfo' : ArmPluginInfo}
  {condition : Option ArmPluginIdType}

theorem type_insertedServer (answers : ServerTables.Answers) (serverInfo : MonitoringServerInfo) :
    (insertedServer answers serverInfo).type = serverInfo.type := by
  unfold insertedServer
  split <;> rfl

/-- A change whose server has no plugin. -/
theorem kept_of_none (hkept : t.Kept fun _ => False) (hkeeps : c.KeepsPairs t answers)
    (hplugin : isHatoholArmPlugin c.serverInfo.type = false)
    (hreaches : c.ReachesPlugin t answers none serverInfo armPluginInfo t') :
    t'.Kept fun _ => False := by
  obtain ⟨type, serverInfo₀, armPluginInfo₀⟩ := c
  cases type with
  | add =>
    obtain ⟨rfl, -, hinsert⟩ := hreaches
    refine (hkept.insertServer hinsert).complete fun sv hsv hneed hid => ?_
    obtain ⟨hservers, -, hfresh⟩ := ServerTables.mem_insertServer hinsert
    rw [hservers, List.mem_append, List.mem_singleton] at hsv
    rcases hsv with hsv | rfl
    · exact hfresh sv hsv hid
    · rw [type_insertedServer] at hneed
      exact absurd hneed (Bool.eq_false_iff.mp hplugin)
  | update =>
    obtain ⟨-, -, ⟨old, hold, hid⟩, rfl⟩ := hreaches
    have hnone : isHatoholArmPlugin old.type = false := by
      have := hkeeps old hold hid
      rwa [if_neg (Bool.eq_false_iff.mp hplugin)] at this
    refine (hkept.updateServer (hid ▸ hkept.paired.hasNone old hold hnone) serverInfo₀).complete
      fun sv hsv hneed hlacks => ?_
    rcases ServerTables.mem_updateServer.mp hsv with ⟨-, hne⟩ | ⟨rfl, -⟩
    · exact hne hlacks
    · exact absurd hneed (Bool.eq_false_iff.mp hplugin)

/-- The plugin that is saved is the one of the call, but for its server. -/
theorem plugin_of_reaches
    (hreaches : c.ReachesPlugin t answers condition serverInfo armPluginInfo t₁) :
    t₁.armPlugins = t.armPlugins ∧ armPluginInfo.id = c.armPluginInfo.id ∧
      armPluginInfo.type = c.armPluginInfo.type ∧
      armPluginInfo.staticQueueAddress = c.armPluginInfo.staticQueueAddress := by
  obtain ⟨hplugins, hid⟩ := armPlugins_of_reaches hreaches
  refine ⟨hplugins, hid, ?_⟩
  obtain ⟨type, serverInfo₀, armPluginInfo₀⟩ := c
  cases type with
  | add =>
    obtain ⟨-, rfl, -⟩ := hreaches
    unfold pluginOfServer
    split <;> exact ⟨rfl, rfl⟩
  | update =>
    obtain ⟨-, rfl, -, -⟩ := hreaches
    exact ⟨rfl, rfl⟩

/-- A change that brings a plugin of its own. -/
theorem kept_of_insert (hkept : t.Kept fun _ => False) (hkeeps : c.KeepsPairs t answers)
    (hplugin : isHatoholArmPlugin c.serverInfo.type)
    (htype : c.armPluginInfo.type = c.serverInfo.type)
    (hreserved : c.armPluginInfo.staticQueueAddress.text.startsWith "hap2." = false)
    (hunique : ¬t.QueueTaken c.armPluginInfo) (hsome : condition.isSome)
    (hreaches : c.ReachesPlugin t answers condition serverInfo armPluginInfo t₁)
    (hnew : armPluginInfo.id = autoIncrementValue)
    (hinsert : t₁.insertArmPlugin
      { armPluginInfo with id := (answers.lastArmPluginId : Int) + 1 } = some t') :
    t'.Kept fun _ => False := by
  obtain ⟨hplugins, hid, htype', haddress⟩ := plugin_of_reaches hreaches
  have hreserved' : armPluginInfo.staticQueueAddress.text.startsWith "hap2." = false := by
    rw [haddress, hreserved]
  have hother : armPluginInfo.staticQueueAddress.text.isEmpty = false →
      ∀ other ∈ t₁.armPlugins, other.staticQueueAddress ≠ armPluginInfo.staticQueueAddress := by
    intro hsomewhere other hmem hsame
    rw [hplugins] at hmem
    refine hunique ⟨haddress ▸ hsomewhere, other, hmem, ?_, hsame.trans haddress⟩
    rw [← hid, hnew]
    exact hkept.ids other hmem
  have hpos : ((answers.lastArmPluginId : Int) + 1) ≠ autoIncrementValue := by
    simp only [autoIncrementValue, Nat.cast_zero]
    omega
  obtain ⟨-, -, hfree⟩ := ServerTables.mem_insertArmPlugin hinsert
  obtain ⟨type, serverInfo₀, armPluginInfo₀⟩ := c
  cases type with
  | add =>
    obtain ⟨rfl, hpluginOf, hserver⟩ := hreaches
    have hmem : insertedServer answers serverInfo₀ ∈ t₁.servers := by
      rw [(ServerTables.mem_insertServer hserver).1]
      exact List.mem_append_right _ (List.mem_singleton_self _)
    have hserverId : armPluginInfo.serverId = (insertedServer answers serverInfo₀).id := by
      rw [hpluginOf, pluginOfServer, if_pos hsome]
    refine (hkept.insertServer hserver).insertArmPlugin hmem ?_ ?_ ?_ ?_ ?_ ?_ hinsert
    · exact hserverId
    · exact (htype'.trans htype).trans (type_insertedServer _ _).symm
    · rwa [type_insertedServer]
    · exact hreserved'
    · exact hother
    · exact hpos
  | update =>
    obtain ⟨rfl, rfl, ⟨old, hold, hidOld⟩, rfl⟩ := hreaches
    have hserverId : armPluginInfo.serverId = old.id := by
      have hstays := hkeeps old hold hidOld
      rw [if_pos hplugin, if_pos hnew] at hstays
      exact hstays.resolve_right fun ⟨other, hmem, hsame⟩ => hfree other hmem hsame
    have hlacks : ∀ row ∈ t.armPlugins, row.serverId ≠ unsignedId serverInfo.id :=
      fun row hrow hsame => hfree row hrow (hsame.trans (hidOld.symm.trans hserverId.symm))
    have hmem : serverInfo.withId (unsignedId serverInfo.id) ∈
        (t.updateServer (unsignedId serverInfo.id) serverInfo).servers :=
      ServerTables.mem_updateServer.mpr (.inr ⟨rfl, old, hold, hidOld⟩)
    refine ServerTables.Kept.insertArmPlugin (hkept.updateServer hlacks serverInfo) hmem
      ?_ ?_ ?_ ?_ ?_ ?_ hinsert
    · exact hserverId.trans hidOld
    · exact htype
    · exact hplugin
    · exact hreserved'
    · exact hother
    · exact hpos

/-- A change of a plugin that is there. -/
theorem kept_of_update (hkept : t.Kept fun _ => False) (hkeeps : c.KeepsPairs t answers)
    (hplugin : isHatoholArmPlugin c.serverInfo.type)
    (hreserved : c.armPluginInfo.staticQueueAddress.text.startsWith "hap2." = false)
    (hunique : ¬t.QueueTaken c.armPluginInfo)
    (hreaches : c.ReachesPlugin t answers condition serverInfo armPluginInfo t₁)
    (hknown : armPluginInfo.id ≠ autoIncrementValue) {row : ArmPluginInfo}
    (hrow : row ∈ t₁.armPlugins) (hid : row.id = armPluginInfo.id)
    (hupdate : t₁.updateArmPlugin armPluginInfo = some t') : t'.Kept fun _ => False := by
  obtain ⟨hplugins, hid', -, haddress⟩ := plugin_of_reaches hreaches
  rw [hplugins] at hrow
  obtain ⟨type, serverInfo₀, armPluginInfo₀⟩ := c
  cases type with
  | add =>
    obtain ⟨rfl, -, hserver⟩ := hreaches
    have hfresh := (ServerTables.mem_insertServer hserver).2.2
    exact absurd (hid.trans hid') (hkeeps hplugin hfresh row hrow)
  | update =>
    obtain ⟨rfl, rfl, ⟨old, hold, hidOld⟩, rfl⟩ := hreaches
    have hstays := hkeeps old hold hidOld
    rw [if_pos hplugin, if_neg hknown] at hstays
    obtain ⟨hserver, htype⟩ := (hstays row hrow hid).resolve_right
      fun ⟨other, hmem, hne, hsame⟩ =>
        ServerTables.serverId_of_updateArmPlugin hupdate ⟨row, hrow, hid⟩ hmem (hid ▸ hne) hsame
    have hserverKept := hkept.updateServer_of_type hold htype
    rw [hidOld] at hserverKept
    exact hserverKept.updateArmPlugin hrow hid hserver hreserved hunique hupdate

end ServerChange

namespace ServerCall

variable {isValidIPAddress : CString → Bool} {d : Dialect} {t : ServerTables}

theorem kept_step (hkept : t.Kept fun _ => False) (call : ServerCaller × ServerCall)
    (hsound : Sound isValidIPAddress (.idle d t) call) :
    ∃ t' : ServerTables, step isValidIPAddress (.idle d t) call = .idle d t' ∧
      t'.Kept fun _ => False := by
  obtain ⟨caller, call⟩ := call
  cases call with
  | change c answers =>
    rcases c.run_cases isValidIPAddress answers caller d t with
      ⟨e, hrun⟩ | ⟨condition, serverInfo, armPluginInfo, armPluginInfo', t₁, t', hadmitted, hpreproc,
        hreaches, hsave, hrun⟩
    · exact ⟨t, congrArg Prod.snd hrun, hkept⟩
    refine ⟨t', congrArg Prod.snd hrun, ?_⟩
    obtain ⟨hkeeps, hqueue⟩ := hsound condition hadmitted hpreproc
    rcases ServerTables.preproc_cases hpreproc with
      ⟨hplugin, rfl⟩ | ⟨hplugin, rfl, htype, hreserved, hchecked⟩
    · rcases ServerTables.save_cases hsave with ⟨-, rfl⟩ | ⟨_, hsome, -⟩ | ⟨hsome, -⟩
      · exact ServerChange.kept_of_none hkept hkeeps hplugin hreaches
      · cases hsome
      · cases hsome
    · have hunique : ¬t.QueueTaken c.armPluginInfo := by
        rcases hqueue with hread | hunique
        · rcases hchecked with hempty | hchecked
          · exact fun htaken => absurd hempty (Bool.eq_false_iff.mp htaken.1)
          · exact ServerTables.not_queueTaken hread hchecked
        · exact hunique
      rcases ServerTables.save_cases hsave with
        ⟨hnone, -⟩ | ⟨id, hsome, hknown, ⟨row, hrow, hid⟩, hupdate⟩ | ⟨hsome, hnew, hinsert⟩
      · cases hnone
      · obtain rfl := Option.some.inj hsome
        have hid' := hid.trans (ServerChange.plugin_of_reaches hreaches).2.1.symm
        exact ServerChange.kept_of_update hkept hkeeps hplugin hreserved hunique hreaches hknown
          hrow hid' hupdate
      · exact ServerChange.kept_of_insert hkept hkeeps hplugin htype hreserved hunique hsome
          hreaches hnew hinsert
  | delete serverId =>
    rw [step, ServerAgent.deleteTargetServer]
    split
    next => exact ⟨t, rfl, hkept⟩
    next => exact ⟨t.deleteServer serverId, rfl, hkept.deleteServer serverId⟩

/-- Over every run of sound calls, servers and plugins stay paired. -/
theorem paired_of_sound (isValidIPAddress : CString → Bool) (d : Dialect)
    (calls : List (ServerCaller × ServerCall))
    (hsound : Heeds (step isValidIPAddress) (Sound isValidIPAddress) (.idle d .empty) calls) :
    (calls.foldl (step isValidIPAddress) (.idle d .empty)).tables.Paired := by
  obtain ⟨t, hagent, hkept⟩ := foldl_invariant_of_heeds
    (fun a : ServerAgent => ∃ t : ServerTables, a = .idle d t ∧ t.Kept fun _ => False)
    (fun a call ⟨t, ha, hkept⟩ hcall => by
      subst ha
      exact kept_step hkept call hcall)
    calls (.idle d .empty) ⟨.empty, rfl, .empty⟩ hsound
  rw [hagent]
  exact hkept.paired

end ServerCall

section Examples

/-- A server of HAPI2 with its plugin. -/
def addHapi2 : ServerCall :=
  .change ⟨.add, serverOfType 0 .hapi2, pluginOfType 0 .hapi2 0⟩ ⟨none, 0, 0⟩

/-- The server 1 and its plugin 1 become those of another type. -/
def updateToHapiJSON : ServerCall :=
  .change ⟨.update, serverOfType 1 .hapiJSON, pluginOfType 1 .hapiJSON 1⟩ ⟨none, 1, 1⟩

/-- The same with the type as it is. -/
def updateHapi2 : ServerCall :=
  .change ⟨.update, serverOfType 1 .hapi2, pluginOfType 1 .hapi2 1⟩ ⟨none, 1, 1⟩

theorem ServerCall.paired_addHapi2_updateHapi2 :
    ([(administrator, addHapi2), (administrator, updateHapi2)].foldl
      (ServerCall.step fun _ => true) (.idle .sqlite .empty)).tables.Paired := by
  refine paired_of_sound (fun _ => true) .sqlite _ ⟨?_, ?_, trivial⟩
  · exact fun _ _ _ => ⟨fun _ _ _ hrow => (nomatch hrow), .inr fun htaken => (nomatch htaken.1)⟩
  · refine fun _ _ _ => ⟨fun old hold hid => ?_, .inr fun htaken => (nomatch htaken.1)⟩
    obtain rfl : old = serverOfType 1 .hapi2 := List.mem_singleton.mp hold
    rw [if_pos (by decide), if_neg (by decide)]
    intro row hrow _
    obtain rfl : row = pluginOfType 1 .hapi2 1 := List.mem_singleton.mp hrow
    exact .inl ⟨rfl, rfl⟩

/-- The type of the row is not updated. -/
theorem ServerCall.not_paired_updateToHapiJSON :
    ¬([(administrator, addHapi2), (administrator, updateToHapiJSON)].foldl
      (ServerCall.step fun _ => true) (.idle .sqlite .empty)).tables.Paired := by
  intro hpaired
  obtain ⟨sv, hsv, -, htype⟩ :=
    hpaired.refers (pluginOfType 1 .hapi2 1) (List.mem_singleton.mpr rfl)
  obtain rfl : sv = serverOfType 1 .hapiJSON := List.mem_singleton.mp hsv
  cases htype

end Examples

end Hatohol
