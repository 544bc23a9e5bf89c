import Mathlib.Algebra.GroupWithZero.Nat
import Mathlib.Algebra.Order.BigOperators.Group.List
import Mathlib.Algebra.Order.Group.Nat
import Mathlib.Tactic.SplitIfs
import Hatohol.SessionManager

/-!
# The end of a session

The used count of a session is the number of those who refer to it: the map, the timer and the
threads. `getSession` puts the session into the map again without a reference for it, which is right
as long as the session is still there. If it has been removed in the meantime, a logout is undone.
-/

namespace Hatohol

open Machine

namespace SessionThread

def session : SessionThread → Nat
  | create id => id
  | getSession id => id
  | insert id _ => id
  | sessionPtr id => id
  | cancelTimer id _ => id
  | unref id _ => id
  | timerCb id => id
  | sessionUnref id => id

/-- How many references a thread has. `remove` has that of the map, and `timerCb` that of the timer
    besides. -/
def held : SessionThread → Nat
  | cancelTimer _ .timerCb => 2
  | unref _ .timerCb => 2
  | _ => 1

def refs (id : Nat) (thread : SessionThread) : Nat := if id = thread.session then thread.held else 0

/-- Whether a thread creates its session. -/
def creating : SessionThread → Nat
  | create _ => 1
  | insert _ false => 1
  | _ => 0

def creates (id : Nat) (thread : SessionThread) : Nat :=
  if id = thread.session then thread.creating else 0

/-- Whether a thread has a `SessionPtr` of the session. -/
def pointers (id : Nat) (thread : SessionThread) : Nat :=
  if thread = getSession id ∨ thread = insert id true ∨ thread = sessionPtr id then 1 else 0

theorem creates_le_refs (id : Nat) (thread : SessionThread) :
    thread.creates id ≤ thread.refs id := by
  have hle : thread.creating ≤ thread.held := by
    cases thread with
    | insert id hasPtr => cases hasPtr <;> simp [creating, held]
    | _ => simp [creating, held]
  unfold creates refs
  split
  · exact hle
  · exact Nat.le_refl 0

theorem pointers_le_refs (id : Nat) (thread : SessionThread) :
    thread.pointers id ≤ thread.refs id := by
  unfold pointers refs
  split
  · rename_i heq
    rcases heq with rfl | rfl | rfl <;> simp [session, held]
  · omega

end SessionThread

namespace SessionManager

/-- A number of each thread, summed up. -/
def total (m : SessionManager) (f : SessionThread → Nat) : Nat := (m.threads.map f).sum

def used (m : SessionManager) (id : Nat) : Nat := (m.sessions id).elim 0 Session.usedCount

def mapped (m : SessionManager) (id : Nat) : Nat := if id ∈ m.sessionIdMap then 1 else 0

def armed (m : SessionManager) (id : Nat) : Nat := if id ∈ m.timers then 1 else 0

/-- The used count of a session in the map covers the map's entry, the timer and the pointers. -/
def Covered (m : SessionManager) (id : Nat) : Prop :=
  ∃ session, m.sessions id = some session ∧
    1 + m.armed id + m.total (SessionThread.pointers id) ≤ session.usedCount

theorem total_le_total (m : SessionManager) {f g : SessionThread → Nat} (hle : ∀ t, f t ≤ g t) :
    m.total f ≤ m.total g :=
  List.sum_le_sum fun t _ => hle t

@[simp] theorem total_start (m : SessionManager) (thread : SessionThread)
    (f : SessionThread → Nat) : (m.start thread).total f = f thread + m.total f := by
  simp [total, start]

/-- Someone who refers to a session finds it. -/
theorem sessions_of_used (m : SessionManager) {id : Nat} (hused : 1 ≤ m.used id) :
    ∃ session, m.sessions id = some session ∧ session.usedCount = m.used id := by
  unfold used at hused ⊢
  cases hget : m.sessions id with
  | none =>
    rw [hget] at hused
    simp at hused
  | some session => exact ⟨session, rfl, rfl⟩

theorem used_setUsedCount (m : SessionManager) (id : Nat) (session : Session) (n id' : Nat) :
    (m.setUsedCount id session n).used id' = if id' = id then n else m.used id' := by
  unfold used setUsedCount
  by_cases heq : id' = id
  · rw [heq, if_pos rfl]
    by_cases hn : n = 0 <;> simp [hn]
  · rw [if_neg heq]
    simp [heq]

theorem used_eq {m : SessionManager} {id : Nat} {session : Session}
    (hget : m.sessions id = some session) : m.used id = session.usedCount := by
  rw [used, hget]
  rfl

theorem deref_eq {m : SessionManager} {id : Nat} {session : Session}
    (hget : m.sessions id = some session) : m.deref id = .ok session := by
  rw [deref, hget]
  rfl

theorem ref_eq {m : SessionManager} {id : Nat} {session : Session}
    (hget : m.sessions id = some session) :
    m.ref id = .ok (m.setUsedCount id session (session.usedCount + 1)) := by
  rw [ref, deref_eq hget]
  rfl

theorem unref_eq {m : SessionManager} {id : Nat} {session : Session}
    (hget : m.sessions id = some session) :
    m.unref id = .ok (m.setUsedCount id session (session.usedCount - 1)) := by
  rw [unref, deref_eq hget]
  rfl

/-- The session is not in the map and no thread creates it. -/
def Gone (m : SessionManager) (id : Nat) : Prop :=
  id ∉ m.sessionIdMap ∧ m.total (SessionThread.creates id) = 0 ∧ id < m.nextId

end SessionManager

/-- After a logout has been told of, no one gets the session. -/
def NoneAfterLogout (results : List SessionResult) : Prop :=
  results.Pairwise fun earlier later => ∀ id, earlier = .removed id → later ≠ .got id

/-- What holds while a thread that is at work has `n` references to the session `id`, and creates it
    if `c` is 1. -/
structure SessionsSound (m : SessionManager) (id n c : Nat) : Prop where
  positive : ∀ x session, m.sessions x = some session → 1 ≤ session.usedCount
  fresh : ∀ x, m.nextId ≤ x → m.sessions x = none
  counted : ∀ x, m.used x =
    m.mapped x + m.armed x + m.total (SessionThread.refs x) + if x = id then n else 0
  born : ∀ x, m.total (SessionThread.creates x) + m.mapped x + (if x = id then c else 0) ≤ 1
  removing : ∀ x remover,
    .cancelTimer x remover ∈ m.threads ∨ .unref x remover ∈ m.threads → m.Gone x ∧ (x = id → c = 0)
  removed : ∀ x, .removed x ∈ m.results → m.Gone x ∧ (x = id → c = 0)
  after : NoneAfterLogout m.results

namespace SessionsSound

variable {m : SessionManager} {id n c : Nat}

theorem init : SessionsSound SessionManager.init 0 0 0 := by
  constructor <;>
    simp [SessionManager.init, SessionManager.used, SessionManager.mapped, SessionManager.armed,
      SessionManager.total, NoneAfterLogout]

theorem lt_of_used (h : SessionsSound m id n c) {x : Nat} (hused : 1 ≤ m.used x) :
    x < m.nextId := by
  obtain ⟨session, hget, -⟩ := m.sessions_of_used hused
  by_contra hge
  rw [h.fresh x (Nat.le_of_not_lt hge)] at hget
  cases hget

theorem covered (h : SessionsSound m id n c) {x : Nat} (hmem : x ∈ m.sessionIdMap) :
    m.Covered x := by
  have hcounted := h.counted x
  have hmapped : m.mapped x = 1 := if_pos hmem
  have hpointers := m.total_le_total (SessionThread.pointers_le_refs x)
  have hused : 1 ≤ m.used x := by omega
  obtain ⟨session, hget, hcount⟩ := m.sessions_of_used hused
  refine ⟨session, hget, ?_⟩
  omega

/-- A thread without references is at no session in particular. -/
theorem rebase (h : SessionsSound m id 0 0) (id' : Nat) : SessionsSound m id' 0 0 := by
  refine ⟨h.positive, h.fresh, ?_, ?_, ?_, ?_, h.after⟩
  · simpa using h.counted
  · simpa using h.born
  · simpa using h.removing
  · simpa using h.removed

/-- The order of the threads is of no concern. -/
theorem perm (h : SessionsSound m id n c) {threads : List SessionThread}
    (hperm : m.threads.Perm threads) : SessionsSound { m with threads := threads } id n c := by
  have htotal (f : SessionThread → Nat) :
      SessionManager.total { m with threads := threads } f = m.total f :=
    ((hperm.map f).sum_eq).symm
  have hgone (x : Nat) (hx : m.Gone x) : SessionManager.Gone { m with threads := threads } x :=
    ⟨hx.1, (htotal _).trans hx.2.1, hx.2.2⟩
  refine ⟨h.positive, h.fresh, ?_, ?_, ?_, ?_, h.after⟩
  · intro x
    rw [htotal]
    exact h.counted x
  · intro x
    rw [htotal]
    exact h.born x
  · intro x remover hmem
    rw [← hperm.mem_iff, ← hperm.mem_iff] at hmem
    exact (h.removing x remover hmem).imp (hgone x) fun hc => hc
  · intro x hmem
    exact (h.removed x hmem).imp (hgone x) fun hc => hc

/-- Counts and timers change, and the references of the thread with them. -/
theorem recount (h : SessionsSound m id n c) (m' : SessionManager) (n' : Nat)
    (hmap : m'.sessionIdMap = m.sessionIdMap) (hnextId : m'.nextId = m.nextId)
    (hthreads : m'.threads = m.threads) (hresults : m'.results = m.results)
    (hpositive : ∀ x session, m'.sessions x = some session → 1 ≤ session.usedCount)
    (hfresh : ∀ x, m.sessions x = none → m'.sessions x = none)
    (hbalance : ∀ x, m'.used x + m.armed x + (if x = id then n else 0) =
      m.used x + m'.armed x + if x = id then n' else 0) : SessionsSound m' id n' c := by
  have htotal (f : SessionThread → Nat) : m'.total f = m.total f := by
    rw [SessionManager.total, hthreads]
    rfl
  have hmapped (x : Nat) : m'.mapped x = m.mapped x := by
    rw [SessionManager.mapped, hmap]
    rfl
  have hgone (x : Nat) (hx : m.Gone x) : m'.Gone x := by
    rw [SessionManager.Gone, hmap, htotal, hnextId]
    exact hx
  refine ⟨hpositive, ?_, ?_, ?_, ?_, ?_, ?_⟩
  · intro x hle
    rw [hnextId] at hle
    exact hfresh x (h.fresh x hle)
  · intro x
    have hcounted := h.counted x
    have := hbalance x
    rw [htotal, hmapped]
    omega
  · intro x
    rw [htotal, hmapped]
    exact h.born x
  · rw [hthreads]
    intro x remover hmem
    exact (h.removing x remover hmem).imp (hgone x) fun hc => hc
  · rw [hresults]
    intro x hmem
    exact (h.removed x hmem).imp (hgone x) fun hc => hc
  · rw [hresults]
    exact h.after

/-- One count is set to a new value. -/
theorem setUsedCount (h : SessionsSound m id n c) {session : Session}
    (hget : m.sessions id = some session) (usedCount n' : Nat)
    (hbalance : usedCount + n = session.usedCount + n') :
    SessionsSound (m.setUsedCount id session usedCount) id n' c := by
  refine h.recount _ _ rfl rfl rfl rfl ?_ ?_ ?_
  · intro x session' hget'
    simp only [SessionManager.setUsedCount, Function.update_apply] at hget'
    split at hget'
    · split at hget'
      · cases hget'
      · rename_i hne
        obtain rfl := Option.some.inj hget'
        exact Nat.one_le_iff_ne_zero.mpr hne
    · exact h.positive x session' hget'
  · intro x hnone
    have hne : x ≠ id := by
      rintro rfl
      rw [hget] at hnone
      cases hnone
    simp only [SessionManager.setUsedCount, Function.update_of_ne hne]
    exact hnone
  · intro x
    have harmed : (m.setUsedCount id session usedCount).armed x = m.armed x := rfl
    rw [SessionManager.used_setUsedCount, harmed]
    by_cases heq : x = id
    · rw [if_pos heq, if_pos heq, if_pos heq, heq, SessionManager.used_eq hget]
      omega
    · rw [if_neg heq, if_neg heq, if_neg heq]

theorem one_le_used (h : SessionsSound m id n c) (hn : 1 ≤ n) : 1 ≤ m.used id := by
  have := h.counted id
  rw [if_pos rfl] at this
  omega

theorem ref (h : SessionsSound m id n c) (hmem : id ∈ m.sessionIdMap) :
    ∃ session, m.ref id = .ok (m.setUsedCount id session (session.usedCount + 1)) ∧
      SessionsSound (m.setUsedCount id session (session.usedCount + 1)) id (n + 1) c := by
  have hmapped : m.mapped id = 1 := if_pos hmem
  have hused : 1 ≤ m.used id := by
    have := h.counted id
    omega
  obtain ⟨session, hget, -⟩ := m.sessions_of_used hused
  exact ⟨session, SessionManager.ref_eq hget, h.setUsedCount hget _ _ (by omega)⟩

theorem unref (h : SessionsSound m id (n + 1) c) :
    ∃ session, m.unref id = .ok (m.setUsedCount id session (session.usedCount - 1)) ∧
      SessionsSound (m.setUsedCount id session (session.usedCount - 1)) id n c := by
  obtain ⟨session, hget, -⟩ := m.sessions_of_used (h.one_le_used (by omega))
  refine ⟨session, SessionManager.unref_eq hget, h.setUsedCount hget _ _ ?_⟩
  have := h.positive id session hget
  omega

/-- The reference of a timer that does not fire any more goes to the thread. -/
theorem disarm (h : SessionsSound m id n c) (hmem : id ∈ m.timers) :
    SessionsSound (m.disarmTimer id) id (n + 1) c := by
  refine h.recount _ _ rfl rfl rfl rfl h.positive (fun x hnone => hnone) ?_
  intro x
  show m.used x + m.armed x + _ = m.used x + (m.disarmTimer id).armed x + _
  by_cases heq : x = id
  · simp [SessionManager.armed, SessionManager.disarmTimer, heq, hmem]
    omega
  · simp [SessionManager.armed, SessionManager.disarmTimer, heq]

/-- A thread gives a reference to the timer that it arms. -/
theorem arm (h : SessionsSound m id n c) (hmem : id ∉ m.timers) {n' : Nat} (hn : n = n' + 1) :
    SessionsSound (m.armTimer id) id n' c := by
  refine h.recount _ _ rfl rfl rfl rfl h.positive (fun x hnone => hnone) ?_
  intro x
  show m.used x + m.armed x + _ = m.used x + (m.armTimer id).armed x + _
  by_cases heq : x = id
  · simp [SessionManager.armed, SessionManager.armTimer, heq, hmem]
    omega
  · simp [SessionManager.armed, SessionManager.armTimer, heq]

theorem cancelTimer (h : SessionsSound m id n c) (hn : 1 ≤ n) :
    ∃ m', m.cancelTimer id = .ok m' ∧ SessionsSound m' id n c ∧ id ∉ m'.timers ∧
      (m.Gone id → m'.Gone id) := by
  obtain ⟨session, hget, hcount⟩ := m.sessions_of_used (h.one_le_used hn)
  unfold SessionManager.cancelTimer
  rw [SessionManager.deref_eq hget]
  by_cases hmem : id ∈ m.timers
  · have hdisarmed := h.disarm hmem
    obtain ⟨session', hunref, hsound⟩ := hdisarmed.unref
    have htwo : 2 ≤ session.usedCount := by
      have hcounted := h.counted id
      have harmed : m.armed id = 1 := if_pos hmem
      rw [if_pos rfl] at hcounted
      omega
    refine ⟨_, ?_, hsound, ?_, fun hgone => hgone⟩
    · show (if id ∈ m.timers then _ else _) = _
      rw [if_pos hmem, if_pos htwo, hunref]
    · simp [SessionManager.setUsedCount, SessionManager.disarmTimer]
  · refine ⟨m, ?_, h, hmem, fun hgone => hgone⟩
    show (if id ∈ m.timers then _ else _) = _
    rw [if_neg hmem]
    rfl

theorem updateTimer (h : SessionsSound m id n c) (hn : 1 ≤ n) :
    ∃ m', m.updateTimer id = .ok m' ∧ SessionsSound m' id n c := by
  obtain ⟨m₁, hcancel, hsound, htimer, -⟩ := h.cancelTimer hn
  obtain ⟨session, hget, -⟩ := m₁.sessions_of_used (hsound.one_le_used hn)
  unfold SessionManager.updateTimer
  rw [hcancel]
  show ∃ m', (m₁.deref id >>= _) = .ok m' ∧ _
  rw [SessionManager.deref_eq hget]
  by_cases htimeout : session.timeout ≠ 0
  · have hcounted := hsound.setUsedCount hget (session.usedCount + 1) (n + 1) (by omega)
    refine ⟨_, ?_, hcounted.arm htimer rfl⟩
    show (if session.timeout ≠ 0 then _ else _) = _
    rw [if_pos htimeout]
    exact SessionManager.ref_eq (m := m₁.armTimer id) hget
  · refine ⟨m₁, ?_, hsound⟩
    show (if session.timeout ≠ 0 then _ else _) = _
    rw [if_neg htimeout]
    rfl

/-- A thread stops at a point where it has its references. -/
theorem start (thread : SessionThread)
    (h : SessionsSound m thread.session thread.held thread.creating)
    (hremoving : ∀ x remover, thread = .cancelTimer x remover ∨ thread = .unref x remover →
      m.Gone x) : SessionsSound (m.start thread) thread.session 0 0 := by
  have hgone (x : Nat) (hx : m.Gone x ∧ (x = thread.session → thread.creating = 0)) :
      (m.start thread).Gone x := by
    refine ⟨hx.1.1, ?_, hx.1.2.2⟩
    rw [SessionManager.total_start, hx.1.2.1, SessionThread.creates]
    split
    · rename_i heq
      exact hx.2 heq
    · rfl
  refine ⟨h.positive, h.fresh, ?_, ?_, ?_, ?_, h.after⟩
  · intro x
    have hcounted := h.counted x
    rw [SessionManager.total_start, SessionThread.refs, ite_self]
    show m.used x = m.mapped x + m.armed x + _ + 0
    omega
  · intro x
    have hborn := h.born x
    rw [SessionManager.total_start, SessionThread.creates, ite_self]
    show _ + m.mapped x + 0 ≤ 1
    omega
  · intro x remover hmem
    refine ⟨hgone x ?_, fun _ => rfl⟩
    have hcases : (thread = .cancelTimer x remover ∨ thread = .unref x remover) ∨
        (.cancelTimer x remover ∈ m.threads ∨ .unref x remover ∈ m.threads) := by
      change .cancelTimer x remover ∈ thread :: m.threads ∨
        .unref x remover ∈ thread :: m.threads at hmem
      grind
    rcases hcases with hnew | hold
    · refine ⟨hremoving x remover hnew, fun _ => ?_⟩
      rcases hnew with rfl | rfl <;> rfl
    · exact h.removing x remover hold
  · intro x hmem
    exact ⟨hgone x (h.removed x hmem), fun _ => rfl⟩

/-- A thread goes on with its references. -/
theorem resume {thread : SessionThread} (h : SessionsSound (m.start thread) id 0 0) :
    SessionsSound m thread.session thread.held thread.creating := by
  have hgone (x : Nat) (hx : (m.start thread).Gone x) :
      m.Gone x ∧ (x = thread.session → thread.creating = 0) := by
    obtain ⟨hmap, hnone, hlt⟩ := hx
    rw [SessionManager.total_start, SessionThread.creates] at hnone
    refine ⟨⟨hmap, by omega, hlt⟩, ?_⟩
    intro heq
    rw [if_pos heq] at hnone
    omega
  refine ⟨h.positive, h.fresh, ?_, ?_, ?_, ?_, h.after⟩
  · intro x
    have hcounted := h.counted x
    rw [SessionManager.total_start, SessionThread.refs, ite_self] at hcounted
    change m.used x = m.mapped x + m.armed x + _ + 0 at hcounted
    omega
  · intro x
    have hborn := h.born x
    rw [SessionManager.total_start, SessionThread.creates, ite_self] at hborn
    change _ + m.mapped x + 0 ≤ 1 at hborn
    omega
  · intro x remover hmem
    exact hgone x (h.removing x remover
      (hmem.imp (List.mem_cons_of_mem _) (List.mem_cons_of_mem _))).1
  · intro x hmem
    exact hgone x (h.removed x hmem).1

theorem gone_of_removing {thread : SessionThread} (h : SessionsSound (m.start thread) id 0 0)
    {x : Nat} {remover : SessionRemover}
    (heq : thread = .cancelTimer x remover ∨ thread = .unref x remover) : m.Gone x := by
  have hmem : .cancelTimer x remover ∈ (m.start thread).threads ∨
      .unref x remover ∈ (m.start thread).threads := by
    rcases heq with rfl | rfl
    · exact Or.inl List.mem_cons_self
    · exact Or.inr List.mem_cons_self
  obtain ⟨hmap, hnone, hlt⟩ := (h.removing x remover hmem).1
  rw [SessionManager.total_start] at hnone
  exact ⟨hmap, by omega, hlt⟩

/-- The reference of the map goes to the thread that erases the entry. -/
theorem erase (h : SessionsSound m id n 0) (hmem : id ∈ m.sessionIdMap) :
    SessionsSound { m with sessionIdMap := m.sessionIdMap.erase id } id (n + 1) 0 ∧
      SessionManager.Gone { m with sessionIdMap := m.sessionIdMap.erase id } id := by
  have hmapped (x : Nat) :
      SessionManager.mapped { m with sessionIdMap := m.sessionIdMap.erase id } x +
        (if x = id then 1 else 0) = m.mapped x := by
    by_cases heq : x = id
    · simp [SessionManager.mapped, heq, hmem]
    · simp [SessionManager.mapped, heq]
  have hgone (x : Nat) (hx : m.Gone x) :
      SessionManager.Gone { m with sessionIdMap := m.sessionIdMap.erase id } x :=
    ⟨fun hx' => hx.1 (Finset.mem_of_mem_erase hx'), hx.2.1, hx.2.2⟩
  constructor
  · refine ⟨h.positive, h.fresh, ?_, ?_, ?_, ?_, h.after⟩
    · intro x
      have hcounted := h.counted x
      have := hmapped x
      show m.used x = _ + m.armed x + m.total _ + _
      by_cases heq : x = id
      · rw [if_pos heq] at hcounted this ⊢
        omega
      · rw [if_neg heq] at hcounted this ⊢
        omega
    · intro x
      have hborn := h.born x
      have := hmapped x
      show m.total _ + _ + _ ≤ 1
      rw [ite_self] at hborn ⊢
      omega
    · intro x remover hmem'
      exact (h.removing x remover hmem').imp (hgone x) fun hc => hc
    · intro x hmem'
      exact (h.removed x hmem').imp (hgone x) fun hc => hc
  · have hone : m.mapped id = 1 := if_pos hmem
    have hborn := h.born id
    have hcounted := h.counted id
    refine ⟨Finset.notMem_erase id _, ?_, h.lt_of_used ?_⟩
    · show m.total _ = 0
      omega
    · omega

/-- `create` gives its reference to the map. -/
theorem insert (h : SessionsSound m id (n + 1) 1) :
    SessionsSound { m with sessionIdMap := insert id m.sessionIdMap } id n 0 := by
  have hnew : id ∉ m.sessionIdMap := by
    intro hmem
    have hone : m.mapped id = 1 := if_pos hmem
    have hborn := h.born id
    rw [if_pos rfl] at hborn
    omega
  have hmapped (x : Nat) :
      SessionManager.mapped { m with sessionIdMap := Insert.insert id m.sessionIdMap } x =
        m.mapped x + if x = id then 1 else 0 := by
    by_cases heq : x = id
    · simp [SessionManager.mapped, heq, hnew]
    · simp [SessionManager.mapped, heq]
  have hgone (x : Nat) (hx : m.Gone x ∧ (x = id → 1 = 0)) :
      SessionManager.Gone { m with sessionIdMap := Insert.insert id m.sessionIdMap } x := by
    refine ⟨?_, hx.1.2⟩
    intro hmem
    rcases Finset.mem_insert.mp hmem with heq | hmem
    · exact absurd (hx.2 heq) (by decide)
    · exact hx.1.1 hmem
  refine ⟨h.positive, h.fresh, ?_, ?_, ?_, ?_, h.after⟩
  · intro x
    have hcounted := h.counted x
    rw [hmapped]
    show m.used x = _ + m.armed x + m.total _ + _
    by_cases heq : x = id
    · rw [if_pos heq] at hcounted
      rw [if_pos heq, if_pos heq]
      omega
    · rw [if_neg heq] at hcounted
      rw [if_neg heq, if_neg heq]
      omega
  · intro x
    have hborn := h.born x
    rw [hmapped]
    show m.total _ + _ + _ ≤ 1
    rw [ite_self]
    omega
  · intro x remover hmem'
    exact ⟨hgone x (h.removing x remover hmem'), fun _ => rfl⟩
  · intro x hmem'
    exact ⟨hgone x (h.removed x hmem'), fun _ => rfl⟩

theorem tell (h : SessionsSound m id 0 0) (result : SessionResult)
    (hremoved : ∀ x, result = .removed x → m.Gone x)
    (hgot : ∀ x, result = .got x → x ∈ m.sessionIdMap) : SessionsSound (m.tell result) id 0 0 := by
  refine ⟨h.positive, h.fresh, h.counted, h.born, h.removing, ?_, ?_⟩
  · intro x hmem
    rcases List.mem_append.mp hmem with hmem | hmem
    · exact h.removed x hmem
    · exact ⟨hremoved x (List.mem_singleton.mp hmem).symm, fun _ => rfl⟩
  · show (m.results ++ [result]).Pairwise _
    rw [List.pairwise_append]
    refine ⟨h.after, List.pairwise_singleton _ _, ?_⟩
    rintro earlier hearlier later hlater x rfl
    rw [List.mem_singleton.mp hlater]
    intro hsame
    exact (h.removed x hearlier).1.1 (hgot x hsame)

theorem remove (remover : SessionRemover) {own : Nat} (h : SessionsSound m id own 0)
    (hown : own + 1 = SessionThread.held (.cancelTimer id remover)) :
    SessionsSound (m.remove id remover) id 0 0 := by
  unfold SessionManager.remove
  split
  · rename_i hmem
    obtain ⟨hsound, hgone⟩ := h.erase hmem
    rw [hown] at hsound
    apply start (.cancelTimer id remover) hsound
    rintro x remover' (heq | heq)
    · obtain ⟨rfl, -⟩ := SessionThread.cancelTimer.inj heq
      exact hgone
    · cases heq
  · cases remover with
    | logout =>
      obtain rfl : own = 0 := Nat.succ.inj hown
      exact h.tell _ (by simp) (by simp)
    | timerCb =>
      obtain rfl : own = 1 := Nat.succ.inj hown
      exact start (.sessionUnref id) h (by simp)

/-- What a thread does next. `getSession` may put the session into the map if it is there. -/
theorem proceed {thread : SessionThread} (h : SessionsSound (m.start thread) 0 0 0)
    (hthere : ∀ id, thread = .insert id true → id ∈ m.sessionIdMap) :
    ∃ m' id, m.proceed thread = .ok m' ∧ SessionsSound m' id 0 0 := by
  have hresumed := h.resume
  cases thread with
  | create id =>
    obtain ⟨m₁, hupdate, hsound⟩ := hresumed.updateTimer (Nat.le_refl 1)
    refine ⟨m₁.start (.insert id false), id, ?_, start (.insert id false) hsound (by simp)⟩
    change m.updateTimer id = _ at hupdate
    rw [SessionManager.proceed, hupdate]
    rfl
  | getSession id =>
    obtain ⟨m₁, hupdate, hsound⟩ := hresumed.updateTimer (Nat.le_refl 1)
    refine ⟨m₁.start (.insert id true), id, ?_, start (.insert id true) hsound (by simp)⟩
    change m.updateTimer id = _ at hupdate
    rw [SessionManager.proceed, hupdate]
    rfl
  | insert id hasPtr =>
    obtain ⟨session, hget, -⟩ := m.sessions_of_used (hresumed.one_le_used (Nat.le_refl 1))
    change m.sessions id = _ at hget
    rw [SessionManager.proceed, SessionManager.deref_eq hget]
    cases hasPtr with
    | true =>
      -- The session is there, so that the map stays as it is.
      have hmap : { m with sessionIdMap := Insert.insert id m.sessionIdMap } = m := by
        rw [Finset.insert_eq_self.mpr (hthere id rfl)]
      refine ⟨m.start (.sessionPtr id), id, ?_, start (.sessionPtr id) hresumed (by simp)⟩
      show Except.ok (SessionManager.start _ (.sessionPtr id)) = _
      rw [hmap]
    | false => exact ⟨_, id, rfl, (hresumed.insert (n := 0)).tell _ (by simp) (by simp)⟩
  | sessionPtr id =>
    obtain ⟨session, hunref, hsound⟩ := hresumed.unref (n := 0)
    exact ⟨_, id, hunref, hsound⟩
  | cancelTimer id remover =>
    have hheld : 1 ≤ SessionThread.held (.cancelTimer id remover) := by
      cases remover <;> simp [SessionThread.held]
    obtain ⟨m₁, hcancel, hsound, -, hgone⟩ := hresumed.cancelTimer hheld
    change m.cancelTimer id = _ at hcancel
    refine ⟨m₁.start (.unref id remover), id, ?_, ?_⟩
    · rw [SessionManager.proceed, hcancel]
      rfl
    · have hsame : SessionThread.held (.cancelTimer id remover) =
          SessionThread.held (.unref id remover) := by
        cases remover <;> rfl
      rw [hsame] at hsound
      apply start (.unref id remover) hsound
      rintro x remover' (heq | heq)
      · cases heq
      · obtain ⟨rfl, -⟩ := SessionThread.unref.inj heq
        exact hgone (h.gone_of_removing (Or.inl rfl))
  | unref id remover =>
    have hgone := h.gone_of_removing (Or.inr rfl)
    cases remover with
    | logout =>
      obtain ⟨session, hunref, hsound⟩ := hresumed.unref (n := 0)
      change m.unref id = _ at hunref
      refine ⟨_, id, ?_, hsound.tell (.removed id) ?_ (by simp)⟩
      · rw [SessionManager.proceed, hunref]
        rfl
      · rintro x heq
        obtain rfl := SessionResult.removed.inj heq
        exact hgone
    | timerCb =>
      obtain ⟨session, hunref, hsound⟩ := hresumed.unref (n := 1)
      change m.unref id = _ at hunref
      refine ⟨_, id, ?_, start (.sessionUnref id) hsound (by simp)⟩
      rw [SessionManager.proceed, hunref]
      rfl
  | timerCb id =>
    obtain ⟨session, hget, -⟩ := m.sessions_of_used (hresumed.one_le_used (Nat.le_refl 1))
    change m.sessions id = _ at hget
    refine ⟨m.remove id .timerCb, id, ?_, remove .timerCb hresumed rfl⟩
    rw [SessionManager.proceed, SessionManager.deref_eq hget]
    rfl
  | sessionUnref id =>
    obtain ⟨session, hunref, hsound⟩ := hresumed.unref (n := 0)
    exact ⟨_, id, hunref, hsound⟩

/-- `create` starts with a session that no one knows of. -/
theorem create (h : SessionsSound m id 0 0) (timeout : Nat) :
    SessionsSound (m.create timeout) m.nextId 0 0 := by
  have hnone : m.sessions m.nextId = none := h.fresh m.nextId (Nat.le_refl _)
  have hused : m.used m.nextId = 0 := by
    rw [SessionManager.used, hnone]
    rfl
  have hcounted := h.counted m.nextId
  rw [hused, ite_self] at hcounted
  have hcreates := m.total_le_total (SessionThread.creates_le_refs m.nextId)
  have hgone (x : Nat) (hx : m.Gone x) : x ≠ m.nextId := Nat.ne_of_lt hx.2.2
  apply start (.create m.nextId) _ (by simp)
  refine ⟨?_, ?_, ?_, ?_, ?_, ?_, h.after⟩
  · intro x session hget
    change Function.update m.sessions m.nextId _ x = _ at hget
    rw [Function.update_apply] at hget
    split at hget
    · obtain rfl := Option.some.inj hget
      exact Nat.le_refl 1
    · exact h.positive x session hget
  · intro x hle
    show Function.update m.sessions m.nextId _ x = _
    rw [Function.update_of_ne (Nat.ne_of_gt hle)]
    exact h.fresh x (Nat.le_of_succ_le hle)
  · intro x
    show (Function.update m.sessions m.nextId _ x).elim 0 _ =
      m.mapped x + m.armed x + m.total _ + if x = m.nextId then 1 else 0
    rw [Function.update_apply]
    by_cases heq : x = m.nextId
    · rw [if_pos heq, if_pos heq, heq]
      show 1 = _
      omega
    · have hold := h.counted x
      rw [ite_self] at hold
      rw [if_neg heq, if_neg heq]
      exact hold
  · intro x
    have hborn := h.born x
    show m.total _ + m.mapped x + (if x = m.nextId then 1 else 0) ≤ 1
    split
    · rename_i heq
      subst heq
      omega
    · simpa using hborn
  · intro x remover hmem
    obtain ⟨hx, -⟩ := h.removing x remover hmem
    exact ⟨⟨hx.1, hx.2.1, Nat.lt_succ_of_lt hx.2.2⟩, fun heq => absurd heq (hgone x hx)⟩
  · intro x hmem
    obtain ⟨hx, -⟩ := h.removed x hmem
    exact ⟨⟨hx.1, hx.2.1, Nat.lt_succ_of_lt hx.2.2⟩, fun heq => absurd heq (hgone x hx)⟩

end SessionsSound

/-- Where `getSession` puts its session into the map again, the session is still there. -/
def StillThere (m : SessionManager) : SessionEvent → Prop
  | .proceed (.insert id true) => .insert id true ∈ m.threads → id ∈ m.sessionIdMap
  | _ => True

namespace SessionsSound

variable {m : SessionManager} {id : Nat}

theorem getSession (h : SessionsSound m id 0 0) (id' : Nat) :
    ∃ m', m.getSession id' = .ok m' ∧ SessionsSound m' id' 0 0 := by
  unfold SessionManager.getSession
  split
  · rename_i hmem
    obtain ⟨session, href, hsound⟩ := (h.rebase id').ref hmem
    refine ⟨_, ?_, (start (.getSession id') hsound (by simp)).tell (.got id') (by simp) ?_⟩
    · rw [href]
      rfl
    · intro x heq
      obtain rfl := SessionResult.got.inj heq
      exact hmem
  · exact ⟨_, rfl, (h.rebase id').tell _ (by simp) (by simp)⟩

theorem fire (h : SessionsSound m id 0 0) (id' : Nat) :
    ∃ m', m.fire id' = .ok m' ∧ SessionsSound m' id' 0 0 := by
  unfold SessionManager.fire
  split
  · rename_i hmem
    have hsound := (h.rebase id').disarm hmem
    obtain ⟨session, hget, -⟩ :=
      (m.disarmTimer id').sessions_of_used (hsound.one_le_used (Nat.le_refl 1))
    change m.sessions id' = _ at hget
    refine ⟨_, ?_, start (.timerCb id') hsound (by simp)⟩
    rw [SessionManager.deref_eq hget]
    rfl
  · exact ⟨m, rfl, h.rebase id'⟩

theorem step (h : SessionsSound m id 0 0) (event : SessionEvent) (hthere : StillThere m event) :
    ∃ m' id', m.step event = .ok m' ∧ SessionsSound m' id' 0 0 := by
  cases event with
  | create timeout => exact ⟨_, m.nextId, rfl, h.create timeout⟩
  | getSession id' =>
    obtain ⟨m', hget, hsound⟩ := h.getSession id'
    exact ⟨m', id', hget, hsound⟩
  | remove id' => exact ⟨_, id', rfl, remove .logout (h.rebase id') rfl⟩
  | fire id' =>
    obtain ⟨m', hfire, hsound⟩ := h.fire id'
    exact ⟨m', id', hfire, hsound⟩
  | proceed thread =>
    rw [SessionManager.step]
    split
    · rename_i hmem
      have hstarted : SessionsSound
          (SessionManager.start { m with threads := m.threads.erase thread } thread) id 0 0 :=
        h.perm (List.perm_cons_erase hmem)
      apply (hstarted.rebase 0).proceed
      rintro id' rfl
      exact hthere hmem
    · exact ⟨m, id, rfl, h⟩

end SessionsSound

open SessionManager in
/-- If every session that `getSession` puts into the map again is still there, no one gets a session
    after its logout, and the used count covers what refers to a session in the map. -/
theorem session_ends_at_logout (events : List SessionEvent)
    (hobey : Obeys SessionManager.step StillThere init events) :
    ∃ m, events.foldlM SessionManager.step init = .ok m ∧ NoneAfterLogout m.results ∧
      ∀ id ∈ m.sessionIdMap, m.Covered id := by
  have hstep (m : SessionManager) (event : SessionEvent) (h : ∃ id, SessionsSound m id 0 0)
      (hthere : StillThere m event) :
      ∃ m', m.step event = .ok m' ∧ ∃ id, SessionsSound m' id 0 0 := by
    obtain ⟨id, h⟩ := h
    obtain ⟨m', id', hnext, hsound⟩ := h.step event hthere
    exact ⟨m', hnext, id', hsound⟩
  obtain ⟨m, hrun, id, hsound⟩ := foldlM_invariant_of_obeys (fun m => ∃ id, SessionsSound m id 0 0)
    hstep events init ⟨0, SessionsSound.init⟩ hobey
  exact ⟨m, hrun, hsound.after, fun id' hmem => hsound.covered hmem⟩

/-- A session is created, looked up and removed. -/
def loggedOut : List SessionEvent :=
  [.create 10, .proceed (.create 0), .proceed (.insert 0 false), .getSession 0,
    .proceed (.getSession 0), .proceed (.insert 0 true), .proceed (.sessionPtr 0), .remove 0,
    .proceed (.cancelTimer 0 .logout), .proceed (.unref 0 .logout), .getSession 0]

open SessionManager in
theorem session_ends_at_logout_loggedOut :
    (∃ m, loggedOut.foldlM SessionManager.step init = .ok m ∧
      m.results = [.created 0, .got 0, .removed 0, .notFound 0]) ∧
    ∃ m, loggedOut.foldlM SessionManager.step init = .ok m ∧ NoneAfterLogout m.results ∧
      ∀ id ∈ m.sessionIdMap, m.Covered id := by
  refine ⟨⟨_, rfl, rfl⟩, session_ends_at_logout loggedOut ?_⟩
  repeat' refine Obeys.cons ?_ rfl ?_
  all_goals first | exact fun _ => by decide | trivial

/-- A session is removed between the lookup of `getSession` and its return. -/
def removedMeanwhile : List SessionEvent :=
  [.create 10, .proceed (.create 0), .proceed (.insert 0 false), .getSession 0, .remove 0,
    .proceed (.cancelTimer 0 .logout), .proceed (.unref 0 .logout), .proceed (.getSession 0),
    .proceed (.insert 0 true), .getSession 0]

open SessionManager in
theorem logout_undone :
    ¬ ∀ events : List SessionEvent, ∃ m, events.foldlM SessionManager.step init = .ok m ∧
      NoneAfterLogout m.results ∧ ∀ id ∈ m.sessionIdMap, m.Covered id := by
  intro h
  obtain ⟨m, hrun, hnone, -⟩ := h removedMeanwhile
  have hresults : removedMeanwhile.foldlM SessionManager.step init = .ok m →
      m.results = [.created 0, .got 0, .removed 0, .got 0] := by
    rintro heq
    obtain rfl := Except.ok.inj heq
    rfl
  rw [hresults hrun] at hnone
  simp [NoneAfterLogout] at hnone

end Hatohol
