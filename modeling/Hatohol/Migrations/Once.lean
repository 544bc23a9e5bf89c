import Mathlib.Data.List.FinRange
import Hatohol.DBTables
import Hatohol.Machine.Steps

/-!
# How often a migration is applied

A step of an updater that is guarded by `old version < X` is known to the programs from version X
on. The version that a start records is that of the program, also where it is older than the one
before; then the steps between the two will be applied again.
-/

namespace Hatohol

namespace DBTables

/-- The tables of a group whose updater has the steps with these guards: the version of the program
    that made them, and the steps that have been applied since. -/
structure Migrated (guards : List Nat) where
  createdBy : Nat
  applied : List (Fin guards.length)
  deriving DecidableEq, Repr

section Releases

variable (guards : List Nat)

/-- The program has the step, and the step is for databases of the version. -/
def isPending (old prog : Version) (i : Fin guards.length) : Bool :=
  old.getPackedVer < guards[i] && guards[i] ≤ prog.getPackedVer

/-- The steps that a program of a version applies. -/
def pendingSteps (old prog : Version) : List (Fin guards.length) :=
  (List.finRange guards.length).filter (isPending guards old prog)

/-- The group as a program of a version knows it. -/
def release (prog : Version) : SetupInfo (Option (Migrated guards)) where
  version := prog.getPackedVer
  updater := some fun old contents =>
    some (contents.map fun m => { m with applied := m.applied ++ pendingSteps guards old prog })
  createTables contents := some (contents.getD ⟨prog.getPackedVer, []⟩)

abbrev MigratedGroup := TablesGroup (Option (Migrated guards))

def MigratedGroup.empty : MigratedGroup guards := ⟨none, none⟩

def startProgram (group : MigratedGroup guards) (prog : Version) : MigratedGroup guards :=
  setup (release guards prog) group

end Releases

section Runs

variable {guards : List Nat} {σ : Type}

/-- Tables that are made have what the steps up to the version bring. -/
def Migrated.applications (m : Migrated guards) (i : Fin guards.length) : Nat :=
  (if guards[i] ≤ m.createdBy then 1 else 0) + m.applied.count i

def MigratedGroup.AppliedOnce (group : MigratedGroup guards) : Prop :=
  ∀ m ∈ group.contents, ∀ i, m.applications i ≤ 1

def MigratedGroup.ClaimsApplied (group : MigratedGroup guards) : Prop :=
  ∀ v ∈ group.version, ∃ m ∈ group.contents, ∀ i, guards[i] ≤ v → 0 < m.applications i

/-- The program is not older than a step that is in the recorded version. -/
def MigratedGroup.Knows (group : MigratedGroup guards) (prog : Version) : Prop :=
  ∀ v ∈ group.version, ∀ i : Fin guards.length, guards[i] ≤ v → guards[i] ≤ prog.getPackedVer

theorem isPending_iff {old prog : Version} {i : Fin guards.length} :
    isPending guards old prog i ↔
      old.getPackedVer < guards[i] ∧ guards[i] ≤ prog.getPackedVer := by
  simp [isPending]

theorem count_pendingSteps (old prog : Version) (i : Fin guards.length) :
    (pendingSteps guards old prog).count i =
      if old.getPackedVer < guards[i] ∧ guards[i] ≤ prog.getPackedVer then 1 else 0 := by
  split
  next hpending =>
    rw [pendingSteps, List.count_filter (isPending_iff.mpr hpending)]
    exact List.count_eq_one_of_mem (List.nodup_finRange _) (List.mem_finRange i)
  next hnot =>
    rw [List.count_eq_zero, pendingSteps, List.mem_filter]
    exact fun hmem => hnot (isPending_iff.mp hmem.2)

theorem startProgram_empty (prog : Version) :
    startProgram guards (.empty guards) prog =
      ⟨some prog.getPackedVer, some ⟨prog.getPackedVer, []⟩⟩ := rfl

/-- A version is refused, or brought up to that of the program. -/
theorem updateTablesVersionIfNeeded_cases (setupInfo : SetupInfo σ) (old : Version) (contents : σ) :
    (∃ e, updateTablesVersionIfNeeded setupInfo old contents = .error e) ∨
      (old.getPackedVer = setupInfo.version ∧
        updateTablesVersionIfNeeded setupInfo old contents = .ok contents) ∨
      ∃ updater contents', setupInfo.updater = some updater ∧ updater old contents =
        some contents' ∧
        updateTablesVersionIfNeeded setupInfo old contents = .ok contents' := by
  unfold updateTablesVersionIfNeeded
  split
  next hsame => exact .inr (.inl ⟨hsame, rfl⟩)
  next =>
    dsimp only
    split
    next => exact .inl ⟨_, rfl⟩
    next =>
      split
      next => exact .inl ⟨_, rfl⟩
      next =>
        split
        next => exact .inl ⟨_, rfl⟩
        next updater hupdater =>
          split
          next => exact .inl ⟨_, rfl⟩
          next contents' hcontents => exact .inr (.inr ⟨updater, contents', hupdater, hcontents,
            rfl⟩)

/-- A start is refused, or applies what the version that is recorded has not. -/
theorem startProgram_cases (old prog : Version) (m : Migrated guards) :
    startProgram guards ⟨some old.getPackedVer, some m⟩ prog = ⟨some old.getPackedVer, some m⟩ ∨
      startProgram guards ⟨some old.getPackedVer, some m⟩ prog =
        ⟨some prog.getPackedVer,
          some { m with applied := m.applied ++ pendingSteps guards old prog }⟩ := by
  have hpending : pendingSteps guards (Version.setPackedVer old.getPackedVer) prog =
      pendingSteps guards old prog := by
    apply List.filter_congr
    intro i _
    simp only [isPending, Version.getPackedVer_setPackedVer]
  rcases updateTablesVersionIfNeeded_cases (release guards prog) (.setPackedVer old.getPackedVer)
    (some m) with ⟨e, herror⟩ | ⟨hsame, hok⟩ | ⟨updater, contents, hupdater, hcontents, hok⟩
  · exact .inl (setup_of_error herror)
  · right
    have hsame : old.getPackedVer = prog.getPackedVer := by
      rwa [Version.getPackedVer_setPackedVer] at hsame
    have hnone : pendingSteps guards old prog = [] := by
      rw [pendingSteps, List.filter_eq_nil_iff]
      intro i _
      rw [isPending_iff, hsame]
      omega
    rw [hnone, List.append_nil]
    exact setup_of_ok hok
  · right
    obtain rfl := Option.some.inj hupdater
    obtain rfl := Option.some.inj hcontents
    rw [← hpending]
    exact setup_of_ok hok

/-- The group is empty, or what is applied is right for the version that is recorded. -/
def MigratedGroup.Holds (P : Version → Migrated guards → Prop) (group : MigratedGroup guards) :
    Prop :=
  group = .empty guards ∨ ∃ old m, group = ⟨some old.getPackedVer, some m⟩ ∧ P old m

theorem MigratedGroup.Holds.start {P : Version → Migrated guards → Prop}
    {group : MigratedGroup guards} {prog : Version} (h : group.Holds P)
    (hfirst : P prog ⟨prog.getPackedVer, []⟩)
    (hnext : ∀ old m, group = ⟨some old.getPackedVer, some m⟩ → P old m →
      P prog { m with applied := m.applied ++ pendingSteps guards old prog }) :
    (startProgram guards group prog).Holds P := by
  rcases h with rfl | ⟨old, m, rfl, hP⟩
  · exact Or.inr ⟨prog, _, startProgram_empty prog, hfirst⟩
  · rcases startProgram_cases old prog m with hrefused | hstarted
    · exact Or.inr ⟨old, m, hrefused, hP⟩
    · exact Or.inr ⟨prog, _, hstarted, hnext old m rfl hP⟩

def Migrated.UpTo (version : Version) (m : Migrated guards) : Prop :=
  ∀ i, guards[i] ≤ version.getPackedVer → 0 < m.applications i

def Migrated.JustUpTo (version : Version) (m : Migrated guards) : Prop :=
  ∀ i, m.applications i = if guards[i] ≤ version.getPackedVer then 1 else 0

theorem applications_append (m : Migrated guards) (old prog : Version) (i : Fin guards.length) :
    Migrated.applications { m with applied := m.applied ++ pendingSteps guards old prog } i =
      m.applications i +
        if old.getPackedVer < guards[i] ∧ guards[i] ≤ prog.getPackedVer then 1 else 0 := by
  simp only [Migrated.applications, List.count_append, count_pendingSteps, Nat.add_assoc]

theorem holds_upTo_start {group : MigratedGroup guards} (h : group.Holds fun v => Migrated.UpTo v)
    (prog : Version) : (startProgram guards group prog).Holds fun v => Migrated.UpTo v := by
  apply h.start
  · intro i hi
    rw [Migrated.applications, if_pos hi]
    exact Nat.add_pos_left Nat.one_pos _
  · intro old m _ hold i hi
    rw [applications_append]
    by_cases holder : guards[i] ≤ old.getPackedVer
    · exact Nat.add_pos_left (hold i holder) _
    · rw [if_pos ⟨Nat.not_le.mp holder, hi⟩]
      exact Nat.succ_pos _

theorem holds_justUpTo_start {group : MigratedGroup guards} {prog : Version}
    (h : group.Holds fun v => Migrated.JustUpTo v) (hknows : group.Knows prog) :
    (startProgram guards group prog).Holds fun v => Migrated.JustUpTo v := by
  apply h.start
  · intro i
    simp [Migrated.applications]
  · rintro old m rfl hold i
    have hkept := hknows _ rfl i
    rw [applications_append, hold i]
    split <;> split <;> split <;> omega

theorem MigratedGroup.Holds.claimsApplied {group : MigratedGroup guards}
    (h : group.Holds fun v => Migrated.UpTo v) : group.ClaimsApplied := by
  intro v hv
  rcases h with rfl | ⟨old, m, rfl, hold⟩
  · cases hv
  · obtain rfl := Option.some.inj hv
    exact ⟨m, rfl, hold⟩

theorem MigratedGroup.Holds.appliedOnce {group : MigratedGroup guards}
    (h : group.Holds fun v => Migrated.JustUpTo v) : group.AppliedOnce := by
  intro m hm i
  rcases h with rfl | ⟨old, m', rfl, hold⟩
  · cases hm
  · obtain rfl := Option.some.inj hm
    rw [hold i]
    split <;> omega

/-- A version is never recorded before the steps up to it have been applied. None of them is
    applied twice in a run in which no program is older than a step that has been. -/
theorem migrations_once (guards : List Nat) (programs : List Version) :
    MigratedGroup.ClaimsApplied (programs.foldl (startProgram guards) (.empty guards)) ∧
      (Machine.Heeds (startProgram guards) MigratedGroup.Knows (.empty guards) programs →
        MigratedGroup.AppliedOnce (programs.foldl (startProgram guards) (.empty guards))) := by
  constructor
  · apply MigratedGroup.Holds.claimsApplied
    apply Machine.foldl_invariant (MigratedGroup.Holds fun v => Migrated.UpTo v)
    · exact fun group prog hgroup => holds_upTo_start hgroup prog
    · exact Or.inl rfl
  · intro hheeds
    apply MigratedGroup.Holds.appliedOnce
    apply Machine.foldl_invariant_of_heeds (MigratedGroup.Holds fun v => Migrated.JustUpTo v) _
      programs _ (Or.inl rfl) hheeds
    exact fun group prog hgroup hknows => holds_justUpTo_start hgroup hknows

end Runs

/-! The incident tables: a step of `DBTablesMonitoring`'s updater is guarded by `< 2.2`. -/

inductive MonitoringChange where
  | addCommentCount
  | changeHistoryComment
  deriving DecidableEq, Repr

/-- (DBTablesMonitoring.cc:4043-4062) What is done to a database of an older version. -/
def DBTablesMonitoring.updateDB (oldPackedVer : Version) : List MonitoringChange :=
  (if oldPackedVer.getPackedVer = Version.getPackedVer ⟨0, 2, 0⟩ then [.addCommentCount] else []) ++
    if oldPackedVer.getPackedVer < Version.getPackedVer ⟨0, 2, 2⟩ then [.changeHistoryComment]
    else []

/-- (DBTablesMonitoring.cc:67-68) -/
def DBTablesMonitoring.version : Version := ⟨0, 2, 2⟩

def DBTablesMonitoring.stepGuards : List Nat := [Version.getPackedVer ⟨0, 2, 2⟩]

theorem DBTablesMonitoring.isPending_iff (old : Version) (i : Fin stepGuards.length) :
    isPending stepGuards old version i ↔ .changeHistoryComment ∈ updateDB old := by
  obtain rfl : i = ⟨0, Nat.one_pos⟩ := Subsingleton.elim (α := Fin 1) _ _
  have hguard : stepGuards[(⟨0, Nat.one_pos⟩ : Fin stepGuards.length)] = version.getPackedVer := rfl
  have hchange : MonitoringChange.changeHistoryComment ∈ updateDB old ↔
      old.getPackedVer < version.getPackedVer := by
    simp only [updateDB, List.mem_append]
    split <;> split <;> simp_all [version]
  rw [DBTables.isPending_iff, hguard, hchange]
  exact and_iff_left le_rfl

def upgraded : List Version := [⟨0, 2, 1⟩, ⟨0, 2, 2⟩]

theorem migrations_once_upgraded :
    MigratedGroup.AppliedOnce
      (upgraded.foldl (startProgram DBTablesMonitoring.stepGuards) (.empty _)) := by
  apply (migrations_once DBTablesMonitoring.stepGuards upgraded).2
  refine ⟨?_, ?_, trivial⟩
  · intro v hv
    cases hv
  · intro v hv i hi
    decide +revert

/-- Between two starts of 2.2 the program 2.1 is started. -/
theorem migration_repeated :
    ¬ ∀ (guards : List Nat) (programs : List Version),
      MigratedGroup.AppliedOnce (programs.foldl (startProgram guards) (.empty guards)) := by
  intro h
  have honce := h DBTablesMonitoring.stepGuards [⟨0, 2, 1⟩, ⟨0, 2, 2⟩, ⟨0, 2, 1⟩, ⟨0, 2, 2⟩] _ rfl
    ⟨0, Nat.one_pos⟩
  revert honce
  decide

end DBTables

end Hatohol
