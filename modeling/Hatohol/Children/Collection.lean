import Hatohol.ChildProcessManager
import Hatohol.Machine.Steps

/-!
# Each child is called back for once

A child is in the map until its callback has been called. The posts of the semaphore are enough for
the children in the map that have not been waited for, and a post is there while a reset is requested.
An ID that the map still has, and a kill that no reset follows, break this.
-/

namespace Hatohol

open Machine

namespace ChildProcessManager

variable {m : ChildProcessManager}

/-! ## Stages -/

theorem pidOf_setStage (m : ChildProcessManager) (child : Nat) (stage : ProcessStage)
    (other : Nat) : (m.setStage child stage).pidOf other = m.pidOf other := by
  rw [pidOf, pidOf, setStage, List.getElem?_modify]
  by_cases hsame : child = other
  · cases m.children[other]? <;> simp [hsame]
  · cases m.children[other]? <;> simp [hsame]

theorem stageOf_setStage_of_ne (m : ChildProcessManager) {child other : Nat} (stage : ProcessStage)
    (hne : child ≠ other) : (m.setStage child stage).stageOf other = m.stageOf other := by
  rw [stageOf, stageOf, setStage, List.getElem?_modify]
  cases m.children[other]? <;> simp [hne]

theorem stageOf_setStage_self {child : Nat} {before : ProcessStage}
    (hbefore : m.stageOf child = some before) (stage : ProcessStage) :
    (m.setStage child stage).stageOf child = some stage := by
  rw [stageOf, Option.map_eq_some_iff] at hbefore
  obtain ⟨process, hprocess, _⟩ := hbefore
  rw [stageOf, setStage, List.getElem?_modify, hprocess]
  simp

theorem isProcess_of_stage {child : Nat} {stage : ProcessStage} (hstage : m.stageOf child = some stage)
    (hne : stage ≠ .reaped) : m.isProcess child := by
  rw [isProcess, hstage]
  cases stage <;> simp_all

theorem isProcess_iff {child : Nat} {pid : Nat} (hpid : m.pidOf child = some pid) :
    m.isProcess child = false ↔ m.stageOf child = some .reaped := by
  rw [pidOf, Option.map_eq_some_iff] at hpid
  obtain ⟨process, hprocess, _⟩ := hpid
  rw [isProcess, stageOf, hprocess]
  cases hstage : process.stage <;> simp [hstage]

theorem lt_length_of_isProcess {child : Nat} (hprocess : m.isProcess child) :
    child < m.children.length := by
  by_contra hge
  rw [isProcess, stageOf, List.getElem?_eq_none (Nat.le_of_not_lt hge)] at hprocess
  cases hprocess

/-! ## The process that has an ID -/

theorem processOf_eq_some {pid child : Nat} (hprocess : m.processOf pid = some child) :
    m.pidOf child = some pid ∧ m.isProcess child := by
  simpa using List.find?_some hprocess

theorem processOf_eq_none {pid child : Nat} (hnone : m.processOf pid = none)
    (hpid : m.pidOf child = some pid) : m.isProcess child = false := by
  rw [processOf, List.find?_eq_none] at hnone
  have hlt : child < m.children.length := by
    rw [pidOf, Option.map_eq_some_iff] at hpid
    obtain ⟨process, hprocess, _⟩ := hpid
    exact (List.getElem?_eq_some_iff.mp hprocess).1
  have := hnone child (List.mem_range.mpr hlt)
  simpa [hpid] using this

/-! ## The invariant -/

/-- The post that the thread has taken for a child in the map, or is about to give back. -/
def owed (m : ChildProcessManager) : Nat :=
  match m.collector with
  | .waitid => 1
  | .collected child => if m.childrenMap.any (·.child = child) then 0 else 1
  | _ => 0

/-- The children in the map that have not been waited for. -/
def unreaped (m : ChildProcessManager) : Nat :=
  m.childrenMap.countP fun childInfo => m.isProcess childInfo.child

/-- A child that is no longer in the map has been collected or reset. -/
def Handled (m : ChildProcessManager) (child : Nat) : Prop :=
  m.called child = [.onCollected, .onFinalized] ∧ m.isProcess child = false ∨
  m.called child = [.onReset] ∧ child ∈ m.kills

structure Sound (m : ChildProcessManager) : Prop where
  entry : ∀ info ∈ m.childrenMap, m.pidOf info.child = some info.pid
  nodup : (m.childrenMap.map ChildInfo.child).Nodup
  process : ∀ info ∈ m.childrenMap, ∀ child, m.pidOf child = some info.pid → m.isProcess child →
    child = info.child
  watched : ∀ info ∈ m.childrenMap, m.called info.child = []
  handled : ∀ child, (m.pidOf child).isSome → (∀ info ∈ m.childrenMap, info.child ≠ child) →
    m.Handled child
  fresh : ∀ child, m.pidOf child = none → m.called child = [] ∧ child ∉ m.kills
  reaped : ∀ info ∈ m.childrenMap, m.isProcess info.child = false →
    info.killed ∨ m.collector = .collected info.child
  killed : ∀ info ∈ m.childrenMap, info.killed → m.resetRequest ∧ m.collector ≠ .reset
  kills : ∀ info ∈ m.childrenMap, info.killed ↔ info.child ∈ m.kills
  collecting : ∀ child, m.collector = .collected child →
    (m.pidOf child).isSome ∧ m.isProcess child = false ∧
    ∀ info ∈ m.childrenMap, m.pidOf child = some info.pid → info.child = child
  posts : m.collector ≠ .resetting → m.unreaped ≤ m.posts + m.createPosts + m.owed
  request : m.resetRequest →
    m.collector = .resetting ∨ m.collector = .reset ∨ 0 < m.posts + m.resetPosts

/-- The ID of a new child is not that of an entry, nor of a child that the thread is about to look
    up. A child that is killed is one that a reset is still to forget. -/
def Clean (m : ChildProcessManager) : Input → Prop
  | .create pid => (∀ info ∈ m.childrenMap, info.pid ≠ pid) ∧
      ∀ child, m.collector = .collected child → m.pidOf child ≠ some pid
  | .resetKill => ∀ info ∈ m.childrenMap, m.isProcess info.child →
      m.resetRequest ∧ m.collector ≠ .reset
  | _ => True

theorem sound_new : new.Sound where
  entry := fun _ h => nomatch h
  nodup := List.nodup_nil
  process := fun _ h => nomatch h
  watched := fun _ h => nomatch h
  handled := fun _ h => nomatch h
  fresh := fun _ _ => ⟨rfl, fun h => nomatch h⟩
  reaped := fun _ h => nomatch h
  killed := fun _ h => nomatch h
  kills := fun _ h => nomatch h
  collecting := fun _ h => nomatch h
  posts := fun _ => Nat.le_refl 0
  request := fun h => nomatch h

/-- The process that has the ID of an entry is that of the entry. -/
theorem processOf_entry (hsound : m.Sound) {info : ChildInfo} (hinfo : info ∈ m.childrenMap)
    (hprocess : m.isProcess info.child) : m.processOf info.pid = some info.child := by
  cases hfound : m.processOf info.pid with
  | none =>
    rw [processOf_eq_none hfound (hsound.entry info hinfo)] at hprocess
    cases hprocess
  | some child =>
    obtain ⟨hpid, hchild⟩ := processOf_eq_some hfound
    rw [hsound.process info hinfo child hpid hchild]

/-! ## Steps -/

theorem sound_createPost (hsound : m.Sound) : (m.next .createPost).Sound := by
  rw [next]
  split
  next => exact hsound
  next hposts =>
    exact { hsound with
      posts := fun hcollector => by
        have hkept := hsound.posts hcollector
        change m.unreaped ≤ m.posts + 1 + (m.createPosts - 1) + m.owed
        omega
      request := fun hrequest => by
        have hkept := hsound.request hrequest
        change _ ∨ _ ∨ 0 < m.posts + 1 + m.resetPosts
        omega }

theorem sound_reset (hsound : m.Sound) : (m.next .reset).Sound :=
  { hsound with
    killed := fun info hinfo hkilled => ⟨rfl, (hsound.killed info hinfo hkilled).2⟩
    request := fun _ => .inr (.inr (Nat.succ_pos _)) }

theorem sound_resetPost (hsound : m.Sound) : (m.next .resetPost).Sound := by
  rw [next]
  split
  next => exact hsound
  next hposts =>
    exact { hsound with
      posts := fun hcollector => by
        have hkept := hsound.posts hcollector
        change m.unreaped ≤ m.posts + 1 + m.createPosts + m.owed
        omega
      request := fun _ => .inr (.inr (by
        change 0 < m.posts + 1 + (m.resetPosts - 1)
        omega)) }

/-- An exit changes nothing that the map or the semaphore is about. -/
theorem sound_exit (hsound : m.Sound) (child : Nat) : (m.next (.exit child)).Sound := by
  rw [next]
  split
  next hrunning =>
    have hpid := m.pidOf_setStage child .exited
    have hprocess : ∀ other, (m.setStage child .exited).isProcess other = m.isProcess other := by
      intro other
      by_cases hsame : child = other
      · subst hsame
        rw [isProcess, isProcess, stageOf_setStage_self hrunning, hrunning]
        rfl
      · rw [isProcess, isProcess, stageOf_setStage_of_ne m .exited hsame]
    exact
      { entry := fun info hinfo => (hpid _).trans (hsound.entry info hinfo)
        nodup := hsound.nodup
        process := fun info hinfo other hother hexists => by
          rw [hpid] at hother
          rw [hprocess] at hexists
          exact hsound.process info hinfo other hother hexists
        watched := hsound.watched
        handled := fun other hother hunwatched => by
          rw [hpid] at hother
          have hhandled := hsound.handled other hother hunwatched
          rw [Handled, hprocess]
          exact hhandled
        fresh := fun other hother => by
          rw [hpid] at hother
          exact hsound.fresh other hother
        reaped := fun info hinfo hgone => by
          rw [hprocess] at hgone
          exact hsound.reaped info hinfo hgone
        killed := hsound.killed
        kills := hsound.kills
        collecting := fun other hother => by
          rw [hpid, hprocess]
          exact hsound.collecting other hother
        posts := fun hcollector => by
          rw [unreaped]
          simp only [hprocess]
          exact hsound.posts hcollector
        request := hsound.request }
  next => exact hsound

/-- What was counted, and no longer is, makes the count less. -/
theorem countP_lt_of_mem {α : Type} {p q : α → Bool} {x : α} :
    ∀ {l : List α}, (∀ y ∈ l, p y → q y) → x ∈ l → q x → p x = false → l.countP p < l.countP q := by
  intro l himp hx hq hp
  obtain ⟨before, after, rfl⟩ := List.append_of_mem hx
  have hbefore : before.countP p ≤ before.countP q :=
    List.countP_mono_left fun y hy => himp y (List.mem_append_left _ hy)
  have hafter : after.countP p ≤ after.countP q :=
    List.countP_mono_left fun y hy =>
      himp y (List.mem_append_right _ (List.mem_cons_of_mem _ hy))
  rw [List.countP_append, List.countP_append, List.countP_cons_of_pos hq,
    List.countP_cons_of_neg (by rw [hp]; exact Bool.false_ne_true)]
  omega

theorem killed_of_reaped (hsound : m.Sound) (hcollector : ∀ child, m.collector ≠ .collected child)
    (info : ChildInfo) (hinfo : info ∈ m.childrenMap) (hgone : m.isProcess info.child = false) :
    info.killed :=
  (hsound.reaped info hinfo hgone).resolve_right (hcollector info.child)

/-- The thread takes a post, and there is a reset. -/
theorem sound_wakeReset (hsound : m.Sound) (hcollector : m.collector = .waiting)
    (hrequest : m.resetRequest) : Sound { m with posts := m.posts - 1, collector := .resetting } :=
  { hsound with
    reaped := fun info hinfo hgone =>
      .inl (killed_of_reaped hsound (by simp [hcollector]) info hinfo hgone)
    killed := fun _ _ _ => ⟨hrequest, fun h => nomatch h⟩
    collecting := fun _ h => nomatch h
    posts := fun h => absurd rfl h
    request := fun _ => .inl rfl }

/-- The thread takes a post to wait for a child. -/
theorem sound_wakeWaitid (hsound : m.Sound) (hcollector : m.collector = .waiting)
    (hrequest : m.resetRequest = false) :
    Sound { m with posts := m.posts - 1, collector := .waitid } := by
  have hkept := hsound.posts (by rw [hcollector]; exact fun h => nomatch h)
  have howed : m.owed = 0 := by rw [owed, hcollector]
  exact { hsound with
    reaped := fun info hinfo hgone =>
      .inl (killed_of_reaped hsound (by simp [hcollector]) info hinfo hgone)
    killed := fun info hinfo hkilled => ⟨(hsound.killed info hinfo hkilled).1, fun h => nomatch h⟩
    collecting := fun _ h => nomatch h
    posts := fun _ => by
      change m.unreaped ≤ m.posts - 1 + m.createPosts + 1
      omega
    request := fun h => absurd (hrequest.symm.trans h) Bool.false_ne_true }

/-- The flag is reset when no entry waits for it. -/
theorem sound_resetEnd (hsound : m.Sound) (hcollector : m.collector = .reset) :
    Sound { m with resetRequest := false, collector := .waiting } := by
  have hkept := hsound.posts (by rw [hcollector]; exact fun h => nomatch h)
  have howed : m.owed = 0 := by rw [owed, hcollector]
  rw [howed] at hkept
  have hnotKilled : ∀ info ∈ m.childrenMap, ¬info.killed := fun info hinfo hkilled =>
    (hsound.killed info hinfo hkilled).2 hcollector
  exact { hsound with
    reaped := fun info hinfo hgone =>
      .inl (killed_of_reaped hsound (by simp [hcollector]) info hinfo hgone)
    killed := fun info hinfo hkilled => absurd hkilled (hnotKilled info hinfo)
    collecting := fun _ h => nomatch h
    posts := fun _ => hkept
    request := fun h => nomatch h }

/-- Without processes there is nothing in the map that has not been waited for. -/
theorem sound_waitidFails (hsound : m.Sound) (hcollector : m.collector = .waitid)
    (hnone : ∀ child, m.isProcess child = false) : Sound { m with collector := .waiting } := by
  have hunreaped : m.unreaped = 0 :=
    List.countP_eq_zero.mpr fun info _ => by
      rw [hnone]
      exact Bool.false_ne_true
  exact { hsound with
    reaped := fun info hinfo hgone =>
      .inl (killed_of_reaped hsound (by simp [hcollector]) info hinfo hgone)
    killed := fun info hinfo hkilled => ⟨(hsound.killed info hinfo hkilled).1, fun h => nomatch h⟩
    collecting := fun _ h => nomatch h
    posts := fun _ => by
      change m.unreaped ≤ _
      rw [hunreaped]
      exact Nat.zero_le _
    request := fun hrequest => by
      have hkept := hsound.request hrequest
      rw [hcollector] at hkept
      exact .inr (.inr ((hkept.resolve_left fun h => nomatch h).resolve_left fun h => nomatch h)) }

theorem sound_reap (hsound : m.Sound) (hcollector : m.collector = .waitid) {child : Nat}
    (hexited : m.stageOf child = some .exited) :
    Sound { m.setStage child .reaped with collector := .collected child } := by
  have hpid := m.pidOf_setStage child .reaped
  have hgone : (m.setStage child .reaped).isProcess child = false := by
    rw [isProcess, stageOf_setStage_self hexited]
    rfl
  have hother : ∀ other, child ≠ other →
      (m.setStage child .reaped).isProcess other = m.isProcess other := by
    intro other hne
    rw [isProcess, isProcess, stageOf_setStage_of_ne m .reaped hne]
  have hbefore : ∀ other, (m.setStage child .reaped).isProcess other → m.isProcess other := by
    intro other hprocess
    by_cases hsame : child = other
    · subst hsame
      exact isProcess_of_stage hexited (by decide)
    · rwa [hother other hsame] at hprocess
  exact
    { entry := fun info hinfo => (hpid _).trans (hsound.entry info hinfo)
      nodup := hsound.nodup
      process := fun info hinfo other hpid' hprocess => by
        exact hsound.process info hinfo other ((hpid other).symm.trans hpid')
          (hbefore other hprocess)
      watched := hsound.watched
      handled := fun other hpid' hunwatched => by
        have hhandled := hsound.handled other (by rw [← hpid other]; exact hpid') hunwatched
        refine hhandled.imp (fun h => ⟨h.1, ?_⟩) id
        exact Bool.eq_false_iff.mpr fun hprocess =>
          Bool.eq_false_iff.mp h.2 (hbefore other hprocess)
      fresh := fun other hpid' => hsound.fresh other ((hpid other).symm.trans hpid')
      reaped := fun info hinfo hgone' => by
        by_cases hsame : child = info.child
        · exact .inr (congrArg CollectorStage.collected hsame)
        · refine .inl (killed_of_reaped hsound (by simp [hcollector]) info hinfo ?_)
          exact (hother _ hsame).symm.trans hgone'
      killed := fun info hinfo hkilled =>
        ⟨(hsound.killed info hinfo hkilled).1, fun h => nomatch h⟩
      kills := hsound.kills
      collecting := fun other hsame => by
        obtain rfl := CollectorStage.collected.inj hsame
        have hsome : (m.pidOf child).isSome := by
          rw [stageOf, Option.map_eq_some_iff] at hexited
          obtain ⟨process, hprocess, _⟩ := hexited
          rw [pidOf, hprocess]
          rfl
        refine ⟨by rw [← hpid child] at hsome; exact hsome, hgone, fun info hinfo hpid' => ?_⟩
        exact (hsound.process info hinfo child ((hpid child).symm.trans hpid')
          (isProcess_of_stage hexited (by decide))).symm
      posts := fun _ => by
        have hkept := hsound.posts (by rw [hcollector]; exact fun h => nomatch h)
        have howed : m.owed = 1 := by rw [owed, hcollector]
        rw [howed] at hkept
        change m.childrenMap.countP (fun info => (m.setStage child .reaped).isProcess info.child) ≤
          m.posts + m.createPosts + if m.childrenMap.any (·.child = child) then 0 else 1
        split
        next hwatched =>
          obtain ⟨info, hinfo, hsame⟩ := List.any_eq_true.mp hwatched
          rw [decide_eq_true_iff] at hsame
          have hless : m.childrenMap.countP
              (fun info => (m.setStage child .reaped).isProcess info.child) < m.unreaped := by
            refine countP_lt_of_mem (fun other _ => hbefore other.child) hinfo ?_ ?_
            · rw [hsame]
              exact isProcess_of_stage hexited (by decide)
            · rw [hsame]
              exact hgone
          omega
        next =>
          refine Nat.le_trans ?_ hkept
          exact List.countP_mono_left fun other _ => hbefore other.child
      request := fun hrequest => by
        have hkept := hsound.request hrequest
        rw [hcollector] at hkept
        exact .inr (.inr ((hkept.resolve_left fun h => nomatch h).resolve_left fun h => nomatch h)) }

/-- No entry has the ID: the child is not watched, and the post is given back. -/
theorem sound_collectedUnwatched (hsound : m.Sound) {child : Nat}
    (hcollector : m.collector = .collected child)
    (hnone : ∀ info ∈ m.childrenMap, m.pidOf child ≠ some info.pid) :
    Sound { m with collector := .waiting, posts := m.posts + 1 } := by
  have hother : ∀ info ∈ m.childrenMap, info.child ≠ child := fun info hinfo hsame =>
    hnone info hinfo (hsame ▸ hsound.entry info hinfo)
  have hkept := hsound.posts (by rw [hcollector]; exact fun h => nomatch h)
  have howed : m.owed ≤ 1 := by
    rw [owed, hcollector]
    dsimp only
    split <;> omega
  exact { hsound with
    reaped := fun info hinfo hgone => by
      refine .inl ((hsound.reaped info hinfo hgone).resolve_right fun h => ?_)
      rw [hcollector] at h
      exact hother info hinfo (CollectorStage.collected.inj h).symm
    killed := fun info hinfo hkilled => ⟨(hsound.killed info hinfo hkilled).1, fun h => nomatch h⟩
    collecting := fun _ h => nomatch h
    posts := fun _ => by
      change m.unreaped ≤ m.posts + 1 + m.createPosts + 0
      omega
    request := fun _ => .inr (.inr (by
      change 0 < m.posts + 1 + m.resetPosts
      omega)) }

section Entry

variable {child : Nat} {info : ChildInfo}

theorem owed_collected (hcollector : m.collector = .collected child) (hinfo : info ∈ m.childrenMap)
    (hsame : info.child = child) : m.owed = 0 := by
  have hany : m.childrenMap.any (·.child = child) := List.any_eq_true.mpr ⟨info, hinfo, by simpa⟩
  rw [owed, hcollector]
  exact if_pos hany

theorem request_collected (hsound : m.Sound) (hcollector : m.collector = .collected child) :
    m.resetRequest → 0 < m.posts + m.resetPosts := by
  intro hrequest
  have hkept := hsound.request hrequest
  rw [hcollector] at hkept
  exact (hkept.resolve_left fun h => nomatch h).resolve_left fun h => nomatch h

theorem eq_of_child (hsound : m.Sound) {other : ChildInfo} (hother : other ∈ m.childrenMap)
    (hinfo : info ∈ m.childrenMap) (hsame : other.child = info.child) : other = info :=
  List.inj_on_of_nodup_map hsound.nodup hother hinfo hsame

/-- The entry of a child that has been killed is left to the reset. -/
theorem sound_collectedKilled (hsound : m.Sound) (hcollector : m.collector = .collected child)
    (hinfo : info ∈ m.childrenMap) (hsame : info.child = child) (hkilled : info.killed) :
    Sound { m with collector := .waiting } := by
  have hkept := hsound.posts (by rw [hcollector]; exact fun h => nomatch h)
  have hrequested := request_collected hsound hcollector
  rw [owed_collected hcollector hinfo hsame] at hkept
  exact { hsound with
    reaped := fun other hother hgone => by
      refine .inl ((hsound.reaped other hother hgone).elim id fun h => ?_)
      rw [hcollector] at h
      have hchild : other.child = info.child :=
        (CollectorStage.collected.inj h).symm.trans hsame.symm
      rwa [eq_of_child hsound hother hinfo hchild]
    killed := fun other hother hkilled =>
      ⟨(hsound.killed other hother hkilled).1, fun h => nomatch h⟩
    collecting := fun _ h => nomatch h
    posts := fun _ => hkept
    request := fun hrequest => .inr (.inr (hrequested hrequest)) }

theorem called_append_self (events : List ChildEvent) :
    called { m with events := m.events ++ events.map fun event => (child, event) } child =
      m.called child ++ events := by
  rw [called, List.filter_append, List.map_append, ← called]
  congr 1
  induction events with
  | nil => rfl
  | cons event events ih => simpa using ih

theorem called_append_of_ne {other : Nat} (hne : child ≠ other) (events : List ChildEvent) :
    called { m with events := m.events ++ events.map fun event => (child, event) } other =
      m.called other := by
  rw [called, List.filter_append, List.map_append, ← called]
  have hnone : (events.map fun event => (child, event)).filter (fun event => event.1 = other) = [] := by
    simp [List.filter_eq_nil_iff, hne]
  rw [hnone, List.map_nil, List.append_nil]

theorem sound_collectedWatched (hsound : m.Sound) (hcollector : m.collector = .collected child)
    (hinfo : info ∈ m.childrenMap) (hsame : info.child = child) (hpid : m.pidOf child = some info.pid) :
    Sound { m with
      collector := .waiting
      childrenMap := m.childrenMap.filter (·.pid ≠ info.pid)
      events := m.events ++ [(info.child, .onCollected), (info.child, .onFinalized)] } := by
  obtain ⟨_, hgone, hcollecting⟩ := hsound.collecting child hcollector
  have hkept := hsound.posts (by rw [hcollector]; exact fun h => nomatch h)
  have hrequested := request_collected hsound hcollector
  rw [owed_collected hcollector hinfo hsame] at hkept
  have hold : ∀ other ∈ m.childrenMap.filter (·.pid ≠ info.pid),
      other ∈ m.childrenMap ∧ other.child ≠ info.child := by
    intro other hother
    obtain ⟨hother, hne⟩ := List.mem_filter.mp hother
    refine ⟨hother, fun hchild => ?_⟩
    rw [eq_of_child hsound hother hinfo hchild] at hne
    simp at hne
  have hself : called { m with
      events := m.events ++ [(info.child, .onCollected), (info.child, .onFinalized)] } info.child =
      m.called info.child ++ [.onCollected, .onFinalized] :=
    called_append_self [.onCollected, .onFinalized]
  have hne : ∀ other, info.child ≠ other → called { m with
      events := m.events ++ [(info.child, .onCollected), (info.child, .onFinalized)] } other =
      m.called other :=
    fun other hne => called_append_of_ne hne [.onCollected, .onFinalized]
  rw [hsound.watched info hinfo] at hself
  exact
    { entry := fun other hother => hsound.entry other (hold other hother).1
      nodup := hsound.nodup.sublist (List.filter_sublist.map _)
      process := fun other hother => hsound.process other (hold other hother).1
      watched := fun other hother => by
        obtain ⟨hother, hchild⟩ := hold other hother
        exact (hne other.child hchild.symm).trans (hsound.watched other hother)
      handled := fun other hsome hunwatched => by
        by_cases hother : info.child = other
        · subst hother
          exact .inl ⟨hself, hsame ▸ hgone⟩
        · have hhandled : m.Handled other := by
            refine hsound.handled other hsome fun info' hinfo' hchild => ?_
            refine hunwatched info' (List.mem_filter.mpr ⟨hinfo', ?_⟩) hchild
            rw [decide_eq_true_iff]
            intro hpid'
            exact hother (hsame.trans ((hcollecting info' hinfo' (by rw [hpid, hpid'])).symm.trans hchild))
          exact hhandled.imp (fun h => ⟨(hne other hother).trans h.1, h.2⟩)
            fun h => ⟨(hne other hother).trans h.1, h.2⟩
      fresh := fun other hfresh => by
        have hother : info.child ≠ other := by
          rintro rfl
          rw [hsame] at hfresh
          exact nomatch hpid.symm.trans hfresh
        obtain ⟨hcalled, hkills⟩ := hsound.fresh other hfresh
        exact ⟨(hne other hother).trans hcalled, hkills⟩
      reaped := fun other hother hgone' => by
        obtain ⟨hother, hchild⟩ := hold other hother
        refine .inl ((hsound.reaped other hother hgone').resolve_right fun h => ?_)
        rw [hcollector] at h
        exact hchild ((CollectorStage.collected.inj h).symm.trans hsame.symm)
      killed := fun other hother hkilled' =>
        ⟨(hsound.killed other (hold other hother).1 hkilled').1, fun h => nomatch h⟩
      kills := fun other hother => hsound.kills other (hold other hother).1
      collecting := fun _ h => nomatch h
      posts := fun _ => Nat.le_trans (List.filter_sublist.countP_le) hkept
      request := fun hrequest => .inr (.inr (hrequested hrequest)) }

end Entry

theorem sound_collected (hsound : m.Sound) {child : Nat}
    (hcollector : m.collector = .collected child) : (m.collected child).Sound := by
  rw [collected]
  split
  next hnone =>
    refine sound_collectedUnwatched hsound hcollector fun info hinfo hpid => ?_
    exact List.find?_eq_none.mp hnone info hinfo (by simpa using hpid)
  next info hfound =>
    have hinfo := List.mem_of_find?_eq_some hfound
    have hpid : m.pidOf child = some info.pid := by simpa using List.find?_some hfound
    have hsame := (hsound.collecting child hcollector).2.2 info hinfo hpid
    split
    next hkilled => exact sound_collectedKilled hsound hcollector hinfo hsame hkilled
    next => exact sound_collectedWatched hsound hcollector hinfo hsame hpid

/-- A signal goes to the children whose entries it is for. -/
theorem mem_signalled (hsound : m.Sound) {info : ChildInfo} (hinfo : info ∈ m.childrenMap)
    (hkilled : info.killed = false) (hprocess : m.isProcess info.child) :
    info.child ∈ m.signalled := by
  refine List.mem_filterMap.mpr ⟨info, hinfo, ?_⟩
  rw [hkilled, if_neg Bool.false_ne_true]
  exact processOf_entry hsound hinfo hprocess

theorem isProcess_of_mem_signalled {child : Nat} (hchild : child ∈ m.signalled) :
    (m.pidOf child).isSome ∧ m.isProcess child := by
  obtain ⟨info, _, hfound⟩ := List.mem_filterMap.mp hchild
  split at hfound
  · cases hfound
  · obtain ⟨hpid, hprocess⟩ := processOf_eq_some hfound
    exact ⟨by rw [hpid]; rfl, hprocess⟩

theorem fresh_kills (hsound : m.Sound) {child : Nat} (hfresh : m.pidOf child = none) :
    child ∉ m.kills ++ m.signalled := by
  intro hchild
  obtain hchild | hchild := List.mem_append.mp hchild
  · exact (hsound.fresh child hfresh).2 hchild
  · have hsome := (isProcess_of_mem_signalled hchild).1
    rw [hfresh] at hsome
    cases hsome

/-- One call for each entry. -/
theorem called_resets (l : List ChildInfo) (hnodup : (l.map ChildInfo.child).Nodup) (child : Nat) :
    ((l.map fun info => (info.child, ChildEvent.onReset)).filter fun event =>
      event.1 = child).map Prod.snd =
      if child ∈ l.map ChildInfo.child then [.onReset] else [] := by
  induction l with
  | nil => rfl
  | cons info l ih =>
    rw [List.map_cons, List.nodup_cons] at hnodup
    obtain ⟨hnew, hnodup⟩ := hnodup
    rw [List.map_cons, List.map_cons, List.filter_cons]
    by_cases hsame : info.child = child
    · subst hsame
      rw [if_pos (by simp), List.map_cons, ih hnodup, if_neg hnew, if_pos List.mem_cons_self]
    · rw [if_neg (by simpa using hsame), ih hnodup]
      have hiff : child ∈ info.child :: l.map ChildInfo.child ↔ child ∈ l.map ChildInfo.child := by
        simp [Ne.symm hsame]
      simp only [hiff]

theorem sound_resetOnCollectThread (hsound : m.Sound) (hcollector : m.collector = .resetting) :
    m.resetOnCollectThread.Sound := by
  have hcalled : ∀ child, m.resetOnCollectThread.called child = m.called child ++
      if child ∈ m.childrenMap.map ChildInfo.child then [.onReset] else [] := by
    intro child
    rw [← called_resets m.childrenMap hsound.nodup child, called, resetOnCollectThread,
      List.filter_append, List.map_append, ← called]
  exact
    { entry := fun _ h => nomatch h
      nodup := List.nodup_nil
      process := fun _ h => nomatch h
      watched := fun _ h => nomatch h
      handled := fun child hsome _ => by
        by_cases hwatched : child ∈ m.childrenMap.map ChildInfo.child
        · obtain ⟨info, hinfo, rfl⟩ := List.mem_map.mp hwatched
          refine .inr ⟨?_, ?_⟩
          · rw [hcalled, if_pos hwatched, hsound.watched info hinfo]
            rfl
          · -- Its signal was sent before, or it is sent now.
            refine List.mem_append.mpr ?_
            cases hkilled : info.killed with
            | true => exact .inl ((hsound.kills info hinfo).mp hkilled)
            | false =>
              refine .inr (mem_signalled hsound hinfo hkilled ?_)
              by_contra hgone
              have hreaped := killed_of_reaped hsound (by simp [hcollector]) info hinfo
                (Bool.eq_false_iff.mpr hgone)
              exact Bool.eq_false_iff.mp hkilled hreaped
        · have hhandled := hsound.handled child hsome fun info hinfo hsame =>
            hwatched (List.mem_map.mpr ⟨info, hinfo, hsame⟩)
          rw [Handled, hcalled, if_neg hwatched, List.append_nil]
          exact hhandled.imp id fun h => ⟨h.1, List.mem_append_left _ h.2⟩
      fresh := fun child hfresh => by
        refine ⟨?_, fresh_kills hsound hfresh⟩
        have hunwatched : child ∉ m.childrenMap.map ChildInfo.child := by
          intro hwatched
          obtain ⟨info, hinfo, rfl⟩ := List.mem_map.mp hwatched
          have hpid := hsound.entry info hinfo
          exact nomatch hpid.symm.trans hfresh
        rw [hcalled, if_neg hunwatched, List.append_nil]
        exact (hsound.fresh child hfresh).1
      reaped := fun _ h => nomatch h
      killed := fun _ h => nomatch h
      kills := fun _ h => nomatch h
      collecting := fun _ h => nomatch h
      posts := fun _ => Nat.zero_le _
      request := fun _ => .inr (.inl rfl) }

theorem child_sendKill (info : ChildInfo) : (m.sendKill info).child = info.child := by
  rw [sendKill]
  split <;> rfl

theorem pid_sendKill (info : ChildInfo) : (m.sendKill info).pid = info.pid := by
  rw [sendKill]
  split <;> rfl

/-- An entry is marked if its process has been sent the signal, now or before. -/
theorem killed_sendKill (hsound : m.Sound) {info : ChildInfo} (hinfo : info ∈ m.childrenMap) :
    (m.sendKill info).killed ↔ info.child ∈ m.kills ++ m.signalled := by
  rw [List.mem_append, ← hsound.kills info hinfo, sendKill]
  split
  next hkilled => exact iff_of_true hkilled (.inl hkilled)
  next hkilled =>
    rw [or_iff_right hkilled]
    constructor
    · intro hfound
      obtain ⟨child, hfound⟩ := Option.isSome_iff_exists.mp hfound
      obtain ⟨hpid, hprocess⟩ := processOf_eq_some hfound
      have hchild := hsound.process info hinfo child hpid hprocess
      exact mem_signalled hsound hinfo (Bool.eq_false_iff.mpr hkilled) (hchild ▸ hprocess)
    · intro hsignalled
      have hprocess := (isProcess_of_mem_signalled hsignalled).2
      exact Option.isSome_iff_exists.mpr ⟨_, processOf_entry hsound hinfo hprocess⟩

theorem sound_sendKills (hsound : m.Sound) (hclean : m.Clean .resetKill) (resetKills : Nat) :
    Sound { m.sendKills with resetKills := resetKills } := by
  have hmap : m.sendKills.childrenMap.map ChildInfo.child = m.childrenMap.map ChildInfo.child := by
    rw [sendKills, List.map_map]
    exact List.map_congr_left fun info _ => child_sendKill info
  have hold : ∀ info' ∈ m.sendKills.childrenMap,
      ∃ info ∈ m.childrenMap, m.sendKill info = info' := fun info' hinfo' =>
    List.mem_map.mp hinfo'
  exact
    { entry := fun info' hinfo' => by
        obtain ⟨info, hinfo, rfl⟩ := hold info' hinfo'
        rw [child_sendKill, pid_sendKill]
        exact hsound.entry info hinfo
      nodup := by
        change (m.sendKills.childrenMap.map ChildInfo.child).Nodup
        rw [hmap]
        exact hsound.nodup
      process := fun info' hinfo' child hpid hprocess => by
        obtain ⟨info, hinfo, rfl⟩ := hold info' hinfo'
        rw [pid_sendKill] at hpid
        rw [child_sendKill]
        exact hsound.process info hinfo child hpid hprocess
      watched := fun info' hinfo' => by
        obtain ⟨info, hinfo, rfl⟩ := hold info' hinfo'
        rw [child_sendKill]
        exact hsound.watched info hinfo
      handled := fun child hsome hunwatched => by
        have hhandled := hsound.handled child hsome fun info hinfo hsame =>
          hunwatched (m.sendKill info) (List.mem_map_of_mem hinfo)
            ((child_sendKill info).trans hsame)
        exact hhandled.imp id fun h => ⟨h.1, List.mem_append_left _ h.2⟩
      fresh := fun child hfresh => ⟨(hsound.fresh child hfresh).1, fresh_kills hsound hfresh⟩
      reaped := fun info' hinfo' hgone => by
        obtain ⟨info, hinfo, rfl⟩ := hold info' hinfo'
        rw [child_sendKill] at hgone ⊢
        refine (hsound.reaped info hinfo hgone).imp (fun hkilled => ?_) id
        exact (killed_sendKill hsound hinfo).mpr
          (List.mem_append_left _ ((hsound.kills info hinfo).mp hkilled))
      killed := fun info' hinfo' hkilled => by
        obtain ⟨info, hinfo, rfl⟩ := hold info' hinfo'
        obtain hbefore | hnow := List.mem_append.mp ((killed_sendKill hsound hinfo).mp hkilled)
        · exact hsound.killed info hinfo ((hsound.kills info hinfo).mpr hbefore)
        · exact hclean info hinfo (isProcess_of_mem_signalled hnow).2
      kills := fun info' hinfo' => by
        obtain ⟨info, hinfo, rfl⟩ := hold info' hinfo'
        rw [child_sendKill]
        exact killed_sendKill hsound hinfo
      collecting := fun child hcollector => by
        obtain ⟨hsome, hgone, hsame⟩ := hsound.collecting child hcollector
        refine ⟨hsome, hgone, fun info' hinfo' hpid => ?_⟩
        obtain ⟨info, hinfo, rfl⟩ := hold info' hinfo'
        rw [pid_sendKill] at hpid
        rw [child_sendKill]
        exact hsame info hinfo hpid
      posts := fun hcollector => by
        have hkept := hsound.posts hcollector
        have hunreaped : m.sendKills.unreaped = m.unreaped := by
          rw [unreaped, unreaped, sendKills, List.countP_map]
          exact List.countP_congr fun info _ => by
            rw [Function.comp_apply, child_sendKill]
            exact Iff.rfl
        have howed : m.sendKills.owed = m.owed := by
          simp only [owed, sendKills, List.any_map, Function.comp_def, child_sendKill]
        change m.sendKills.unreaped ≤ m.posts + m.createPosts + m.sendKills.owed
        rw [hunreaped, howed]
        exact hkept
      request := hsound.request }

/-- A child that has been created stands behind the others. -/
theorem getElem?_spawn (pid child : Nat) (hne : child ≠ m.children.length) :
    (m.children ++ [⟨pid, .running⟩])[child]? = m.children[child]? := by
  obtain hlt | hgt := Nat.lt_or_gt_of_ne hne
  · exact List.getElem?_append_left hlt
  · have hafter : (m.children ++ [(⟨pid, .running⟩ : ChildProcess)]).length ≤ child := by
      rw [List.length_append, List.length_singleton]
      exact hgt
    rw [List.getElem?_eq_none hafter, List.getElem?_eq_none (Nat.le_of_lt hgt)]

theorem sound_create (hsound : m.Sound) {pid : Nat} (hclean : m.Clean (.create pid)) :
    (m.create pid).Sound := by
  obtain ⟨hfree, hcollecting⟩ := hclean
  rw [create]
  split
  next => exact hsound
  next hnone =>
    rw [Option.not_isSome_iff_eq_none] at hnone
    have hany : m.childrenMap.any (·.pid = pid) = false :=
      List.any_eq_false.mpr fun info hinfo => by simpa using hfree info hinfo
    rw [hany, if_neg Bool.false_ne_true]
    let m' : ChildProcessManager := { m with
      children := m.children ++ [⟨pid, .running⟩]
      childrenMap := m.childrenMap ++ [⟨pid, m.children.length, false⟩]
      createPosts := m.createPosts + 1 }
    have hpid : ∀ child, child ≠ m.children.length → m'.pidOf child = m.pidOf child :=
      fun child hne => congrArg (Option.map ChildProcess.pid) (getElem?_spawn pid child hne)
    have hprocess : ∀ child, child ≠ m.children.length → m'.isProcess child = m.isProcess child := by
      intro child hne
      rw [isProcess, isProcess, stageOf, stageOf, getElem?_spawn pid child hne]
    have hnewPid : m'.pidOf m.children.length = some pid := by
      rw [pidOf, List.getElem?_concat_length]
      rfl
    have hnewProcess : m'.isProcess m.children.length := by
      rw [isProcess, stageOf, List.getElem?_concat_length]
      rfl
    have hnew : m.pidOf m.children.length = none := by
      rw [pidOf, List.getElem?_eq_none (Nat.le_refl _)]
      rfl
    have hold : ∀ info ∈ m.childrenMap, info.child ≠ m.children.length := by
      intro info hinfo hsame
      have hentry := hsound.entry info hinfo
      rw [hsame, hnew] at hentry
      cases hentry
    have hmem : ∀ info, info ∈ m'.childrenMap →
        info ∈ m.childrenMap ∨ info = ⟨pid, m.children.length, false⟩ := by
      intro info hinfo
      rwa [List.mem_append, List.mem_singleton] at hinfo
    exact
      { entry := fun info hinfo => by
          obtain hinfo | rfl := hmem info hinfo
          · exact (hpid _ (hold info hinfo)).trans (hsound.entry info hinfo)
          · exact hnewPid
        nodup := by
          rw [List.map_append, List.map_singleton]
          refine List.nodup_append.mpr ⟨hsound.nodup, List.nodup_singleton _, ?_⟩
          intro child hchild other hother
          obtain ⟨info, hinfo, rfl⟩ := List.mem_map.mp hchild
          rw [List.mem_singleton] at hother
          rw [hother]
          exact hold info hinfo
        process := fun info hinfo child hchild hexists => by
          by_cases hsame : child = m.children.length
          · subst hsame
            obtain hinfo | rfl := hmem info hinfo
            · exact absurd (Option.some.inj (hnewPid.symm.trans hchild)).symm (hfree info hinfo)
            · rfl
          · have hchild' := (hpid child hsame).symm.trans hchild
            have hexists' := (hprocess child hsame).symm.trans hexists
            obtain hinfo | rfl := hmem info hinfo
            · exact hsound.process info hinfo child hchild' hexists'
            · rw [processOf_eq_none hnone hchild'] at hexists'
              cases hexists'
        watched := fun info hinfo => by
          obtain hinfo | rfl := hmem info hinfo
          · exact hsound.watched info hinfo
          · exact (hsound.fresh _ hnew).1
        handled := fun child hsome hunwatched => by
          have hne : child ≠ m.children.length := fun hsame =>
            hunwatched ⟨pid, m.children.length, false⟩
              (List.mem_append_right _ (List.mem_singleton.mpr rfl)) hsame.symm
          have hsome' : (m.pidOf child).isSome := by
            rw [← hpid child hne]
            exact hsome
          have hhandled := hsound.handled child hsome' fun info hinfo =>
            hunwatched info (List.mem_append_left _ hinfo)
          exact hhandled.imp (fun h => ⟨h.1, (hprocess child hne).trans h.2⟩) id
        fresh := fun child hfresh => by
          have hne : child ≠ m.children.length := by
            rintro rfl
            exact nomatch hnewPid.symm.trans hfresh
          exact hsound.fresh child ((hpid child hne).symm.trans hfresh)
        reaped := fun info hinfo hgone => by
          obtain hinfo | rfl := hmem info hinfo
          · exact hsound.reaped info hinfo ((hprocess _ (hold info hinfo)).symm.trans hgone)
          · exact absurd (hnewProcess.symm.trans hgone) (by decide)
        killed := fun info hinfo hkilled => by
          obtain hinfo | rfl := hmem info hinfo
          · exact hsound.killed info hinfo hkilled
          · cases hkilled
        kills := fun info hinfo => by
          obtain hinfo | rfl := hmem info hinfo
          · exact hsound.kills info hinfo
          · exact iff_of_false Bool.false_ne_true (hsound.fresh _ hnew).2
        collecting := fun child hcollector => by
          obtain ⟨hsome, hgone, hsame⟩ := hsound.collecting child hcollector
          have hne : child ≠ m.children.length := by
            rintro rfl
            rw [hnew] at hsome
            cases hsome
          refine ⟨?_, (hprocess child hne).trans hgone, fun info hinfo hchild => ?_⟩
          · exact (congrArg Option.isSome (hpid child hne)).trans hsome
          · have hchild' := (hpid child hne).symm.trans hchild
            obtain hinfo | rfl := hmem info hinfo
            · exact hsame info hinfo hchild'
            · exact absurd hchild' (hcollecting child hcollector)
        posts := fun hcollector => by
          have hkept := hsound.posts hcollector
          have hunreaped : m'.unreaped = m.unreaped + 1 := by
            rw [unreaped, List.countP_append, List.countP_singleton, if_pos hnewProcess, unreaped]
            congr 1
            exact List.countP_congr fun info hinfo => by rw [hprocess _ (hold info hinfo)]
          have howed : m'.owed = m.owed := by
            rw [owed, owed]
            change (match m.collector with
              | .waitid => 1
              | .collected child => if m'.childrenMap.any (·.child = child) then 0 else 1
              | _ => 0) = _
            cases hstage : m.collector with
            | collected child =>
              have hne : m.children.length ≠ child := by
                rintro rfl
                have hsome := (hsound.collecting _ hstage).1
                rw [hnew] at hsome
                cases hsome
              simp [m', List.any_append, hne]
            | _ => rfl
          change m'.unreaped ≤ m.posts + (m.createPosts + 1) + m'.owed
          omega
        request := hsound.request }

theorem sound_advance (hsound : m.Sound) (child : Nat) : (m.advance child).Sound := by
  rw [advance]
  split
  next hcollector =>
    split
    next => exact hsound
    next =>
      by_cases hrequest : m.resetRequest
      · rw [if_pos hrequest]
        exact sound_wakeReset hsound hcollector hrequest
      · rw [if_neg hrequest]
        exact sound_wakeWaitid hsound hcollector (Bool.eq_false_iff.mpr hrequest)
  next hcollector =>
    rw [waitid]
    split
    next hexited => exact sound_reap hsound hcollector hexited
    next =>
      split
      next => exact hsound
      next hnone =>
        refine sound_waitidFails hsound hcollector fun other => Bool.eq_false_iff.mpr fun hother => ?_
        refine hnone (List.any_eq_true.mpr ⟨other, List.mem_range.mpr ?_, hother⟩)
        exact lt_length_of_isProcess hother
  next hcollector => exact sound_collected hsound hcollector
  next hcollector => exact sound_resetOnCollectThread hsound hcollector
  next hcollector => exact sound_resetEnd hsound hcollector

theorem sound_next (hsound : m.Sound) {input : Input} (hclean : m.Clean input) :
    (m.next input).Sound := by
  cases input with
  | create pid => exact sound_create hsound hclean
  | createPost => exact sound_createPost hsound
  | exit child => exact sound_exit hsound child
  | reset => exact sound_reset hsound
  | resetPost => exact sound_resetPost hsound
  | resetKill =>
    rw [next]
    split
    next => exact hsound
    next => exact sound_sendKills hsound hclean (m.resetKills - 1)
  | advance child => exact sound_advance hsound child

/-! ## Calls -/

/-- Every child is called back for once at most, and for what has happened to it. When the thread
    sleeps, this has been done for all that have been waited for or killed, and no child that has
    exited is in the map. -/
structure Collects (m : ChildProcessManager) : Prop where
  called : ∀ child, m.called child = [] ∨
    m.called child = [.onCollected, .onFinalized] ∧ m.stageOf child = some .reaped ∨
    m.called child = [.onReset] ∧ child ∈ m.kills
  done : m.Sleeps → ∀ child, m.stageOf child = some .reaped ∨ child ∈ m.kills →
    m.called child ≠ []
  awake : m.Sleeps → ∀ info ∈ m.childrenMap, m.stageOf info.child ≠ some .exited

theorem collects_of_sound (hsound : m.Sound) : m.Collects := by
  have hhandled : ∀ child, (m.pidOf child).isSome →
      (∀ info ∈ m.childrenMap, info.child ≠ child) →
      m.called child = [.onCollected, .onFinalized] ∧ m.stageOf child = some .reaped ∨
      m.called child = [.onReset] ∧ child ∈ m.kills := by
    intro child hsome hunwatched
    obtain ⟨pid, hpid⟩ := Option.isSome_iff_exists.mp hsome
    exact (hsound.handled child hsome hunwatched).imp
      (fun h => ⟨h.1, (isProcess_iff hpid).mp h.2⟩) id
  refine ⟨fun child => ?_, fun hsleeps child hdone => ?_, fun hsleeps info hinfo hexited => ?_⟩
  · by_cases hwatched : ∃ info ∈ m.childrenMap, info.child = child
    · obtain ⟨info, hinfo, rfl⟩ := hwatched
      exact .inl (hsound.watched info hinfo)
    · rw [not_exists] at hwatched
      cases hpid : m.pidOf child with
      | none => exact .inl (hsound.fresh child hpid).1
      | some pid =>
        refine .inr (hhandled child (by rw [hpid]; rfl) fun info hinfo hsame => ?_)
        exact hwatched info ⟨hinfo, hsame⟩
  · obtain ⟨hcollector, hposts, _, hresetPosts⟩ := hsleeps
    have hrequest : ¬m.resetRequest := by
      intro hrequest
      have hkept := hsound.request hrequest
      rw [hcollector, hposts, hresetPosts] at hkept
      simp at hkept
    have hsome : (m.pidOf child).isSome := by
      by_contra hnone
      rw [Option.not_isSome_iff_eq_none] at hnone
      refine hdone.elim (fun hreaped => ?_) (hsound.fresh child hnone).2
      rw [pidOf, Option.map_eq_none_iff] at hnone
      rw [stageOf, hnone] at hreaped
      cases hreaped
    -- An entry that is done with waits for a reset, and none is requested.
    have hunwatched : ∀ info ∈ m.childrenMap, info.child ≠ child := by
      rintro info hinfo rfl
      refine hrequest (hsound.killed info hinfo ?_).1
      refine hdone.elim (fun hreaped => ?_) (hsound.kills info hinfo).mpr
      exact killed_of_reaped hsound (by simp [hcollector]) info hinfo
        ((isProcess_iff (hsound.entry info hinfo)).mpr hreaped)
    obtain ⟨hcalled, _⟩ | ⟨hcalled, _⟩ := hhandled child hsome hunwatched <;>
      rw [hcalled] <;>
      exact List.cons_ne_nil _ _
  · obtain ⟨hcollector, hposts, hcreatePosts, _⟩ := hsleeps
    have hkept := hsound.posts (by rw [hcollector]; exact fun h => nomatch h)
    have howed : m.owed = 0 := by rw [owed, hcollector]
    rw [hposts, hcreatePosts, howed] at hkept
    have hnone := List.countP_eq_zero.mp (Nat.le_zero.mp hkept) info hinfo
    exact hnone (isProcess_of_stage hexited (by decide))

theorem collects_of_clean (inputs : List Input) (hclean : Heeds next Clean new inputs) :
    (inputs.foldl next new).Collects :=
  collects_of_sound (foldl_invariant_of_heeds Sound
    (fun _ _ hsound hclean => sound_next hsound hclean) inputs new sound_new hclean)


section Examples

/-- A child that exits, and one with its ID that a reset kills. -/
theorem collects_exitAndReset :
    ([.create 10, .createPost, .advance 0, .exit 0, .advance 0, .advance 0, .create 10, .createPost,
      .reset, .resetPost, .resetKill, .exit 1, .advance 1, .advance 1, .advance 1].foldl next
        new).Collects := by
  refine collects_of_clean _ ⟨⟨?_, ?_⟩, trivial, trivial, trivial, trivial, trivial, ⟨?_, ?_⟩,
    trivial, trivial, trivial, ?_, trivial, trivial, trivial, trivial, trivial⟩
  · exact fun _ h => nomatch h
  · exact fun _ h => nomatch h
  · exact fun _ h => nomatch h
  · exact fun _ h => nomatch h
  · exact fun _ _ _ => ⟨rfl, fun h => nomatch h⟩

/-- The second child has the ID of the first, whose entry is still in the map. -/
theorem not_collects_reusedPid :
    ¬([.create 10, .createPost, .advance 0, .exit 0, .advance 0, .create 10, .createPost,
      .advance 0, .exit 1, .advance 1, .advance 1, .advance 1, .advance 1,
      .advance 1].foldl next new).Collects := by
  intro hcollects
  exact hcollects.done ⟨rfl, rfl, rfl, rfl⟩ 1 (.inl (by decide)) (by decide)

/-- A child that is created after the reset, and before its kills, is killed and not called back
    for. -/
example :
    let m := [.reset, .resetPost, .advance 0, .advance 0, .advance 0, .create 10, .createPost,
      .resetKill, .exit 0, .advance 0, .advance 0, .advance 0].foldl next new
    m.collector = .waiting ∧ m.posts = 0 ∧ m.kills = [0] ∧ m.called 0 = [] := by decide

end Examples

end ChildProcessManager

end Hatohol
