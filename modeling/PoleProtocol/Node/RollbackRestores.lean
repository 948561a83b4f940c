import PoleProtocol.Node.InstalledBytes
import PoleProtocol.Node.Rollback

/-!
# What a rollback restores

The backup of the installed file is written by every installation, so that a second one replaces it
by the new version. The execution record that names the backup may be left from an earlier update,
and the version that the rollback records is the one that staging was called with, whereas the
version that staging compares is the recorded one where there is a record.
-/

namespace PoleProtocol.Node

open Framework Ledger

/-! ## The files of the updater -/

/-- The records that the rollback removes before it comes to the backup. -/
def clearedNames : List String :=
  ["pending-update.json", "applied-update.json", "rollback.json", "switch-plan.json",
    "switch-executed.json", "install-action.json"]

/-- The records that applying writes or removes. -/
def appliedNames : List String :=
  ["pending-update.json", "applied-update.json", "switch-executed.json", "install-action.json",
    "installed-version.json"]

/-- What the rollback removes before it comes to the backup. -/
def Cleared (updateDir appliedArtifactPath path : FilePath) : Prop :=
  path ∈ clearedNames.map updateDir.child ∨ (stagedArtifactDir updateDir).Below path ∨
    path = appliedArtifactPath

instance (updateDir appliedArtifactPath path : FilePath) :
    Decidable (Cleared updateDir appliedArtifactPath path) :=
  inferInstanceAs (Decidable (_ ∨ _ ∨ _))

section Paths

variable {updateDir : FilePath}

theorem not_below_staged (name : String) :
    ¬ (stagedArtifactDir updateDir).Below (updateDir.child name) := by
  rintro ⟨_, _, _, hlength⟩
  simp [stagedArtifactDir] at hlength

theorem not_cleared_record {name copy : String} (hname : name ∉ clearedNames) :
    ¬ Cleared updateDir ((appliedArtifactDir updateDir).child copy) (updateDir.child name) := by
  rintro (hrecord | hstaged | happlied)
  · obtain ⟨cleared, hcleared, hsame⟩ := List.mem_map.mp hrecord
    rw [(FilePath.child_injective hsame).2] at hcleared
    exact hname hcleared
  · exact not_below_staged name hstaged
  · exact FilePath.child_child_ne _ _ _ _ happlied.symm

end Paths

/-! ## A rollback -/

section Rollback

variable {env : RollbackEnv} {updateDir : FilePath} {files : FileTree UpdateFile}

/-- Clearing removes what it removes, whatever the files are. -/
theorem clearUpdate_eq {record : SwitchExecutionRecord}
    (hswitch : files (switchExecutionRecordPath updateDir) =
      some (.record (.switchExecution record))) (path : FilePath) :
    clearUpdate env updateDir files path =
      if Cleared updateDir record.appliedArtifactPath path then none else files path := by
  have hkept : ∀ name ≠ "switch-executed.json", ∀ tree : FileTree UpdateFile,
      tree.remove (updateDir.child name) (switchExecutionRecordPath updateDir) =
        tree (switchExecutionRecordPath updateDir) :=
    fun name hname tree => FileTree.remove_of_ne _ (FilePath.child_ne_of_name hname.symm)
  have hread : (((((files.remove (pendingUpdatePlanPath updateDir)).removeDirAll
      (stagedArtifactDir updateDir)).remove (appliedUpdateRecordPath updateDir)).remove
        (rollbackMetadataPath updateDir)).remove (switchPlanPath updateDir))
      (switchExecutionRecordPath updateDir) = some (.record (.switchExecution record)) := by
    rw [switchPlanPath, hkept _ (by decide), rollbackMetadataPath, hkept _ (by decide),
      appliedUpdateRecordPath, hkept _ (by decide), switchExecutionRecordPath,
      FileTree.removeDirAll_of_not_below _ (not_below_staged _), pendingUpdatePlanPath]
    exact (hkept _ (by decide) files).trans hswitch
  unfold clearUpdate removeAppliedArtifact loadSwitchExecutionRecord
  rw [hread]
  dsimp only [FileTree.remove, FileTree.removeDirAll]
  by_cases hcleared : Cleared updateDir record.appliedArtifactPath path
  · rw [if_pos hcleared]
    simp only [Cleared, clearedNames, List.map_cons, List.map_nil, List.mem_cons,
      List.not_mem_nil, or_false] at hcleared
    simp only [ite_eq_left_iff]
    intro haction hswitched happlied hplan hmetadata hrecorded hstaged hpending
    rcases hcleared with (h | h | h | h | h | h) | h | h
    · exact absurd h hpending
    · exact absurd h hrecorded
    · exact absurd h hmetadata
    · exact absurd h hplan
    · exact absurd h hswitched
    · exact absurd h haction
    · exact absurd h hstaged
    · exact absurd h happlied
  · rw [if_neg hcleared]
    simp only [Cleared, clearedNames, List.map_cons, List.map_nil, List.mem_cons,
      List.not_mem_nil, or_false, not_or] at hcleared
    simp [hcleared, pendingUpdatePlanPath, appliedUpdateRecordPath, rollbackMetadataPath,
      switchPlanPath, switchExecutionRecordPath, installActionPlanPath]

section Restore

variable {record : InstallExecutionRecord}
  (hload : loadInstallExecutionRecord env files (installExecutionRecordPath updateDir) =
    some record)
include hload

/-- The named file becomes what its backup is. -/
theorem restoreBackup_target :
    restoreBackup env updateDir files record.targetInstallPath =
      if record.backupPath = record.targetInstallPath then none else files record.backupPath := by
  unfold restoreBackup
  rw [hload]
  dsimp only
  by_cases hsame : record.backupPath = record.targetInstallPath
  · rw [if_pos hsame, hsame, FileTree.remove_same]
    exact FileTree.remove_same _ _
  · rw [if_neg hsame, FileTree.remove_of_ne _ hsame]
    cases files record.backupPath with
    | none => exact FileTree.remove_same _ _
    | some backup =>
        exact (FileTree.remove_of_ne _ (Ne.symm hsame)).trans (FileTree.write_same _ _ _)

/-- No other file is changed except the backup, which goes. -/
theorem restoreBackup_of_ne {path : FilePath} (hpath : path ≠ record.targetInstallPath) :
    restoreBackup env updateDir files path =
      if path = record.backupPath then none else files path := by
  unfold restoreBackup
  rw [hload]
  dsimp only
  by_cases hbackup : path = record.backupPath
  · rw [if_pos hbackup, ← hbackup, FileTree.remove_of_ne _ hpath]
    cases hfile : files path with
    | none => exact (FileTree.remove_of_ne _ hpath).trans hfile
    | some backup => exact FileTree.remove_same _ _
  · rw [if_neg hbackup]
    cases files.remove record.targetInstallPath record.backupPath with
    | none => exact FileTree.remove_of_ne _ hpath
    | some backup =>
        exact (FileTree.remove_of_ne _ hbackup).trans
          ((FileTree.write_of_ne _ _ hpath).trans (FileTree.remove_of_ne _ hpath))

end Restore

variable {metadata : RollbackMetadata}
  (hload : loadRollbackMetadata env files (rollbackMetadataPath updateDir) = some metadata)
include hload

theorem rollbackUpdate_files (now : ℕ) {path : FilePath}
    (hversion : path ≠ installedVersionRecordPath updateDir)
    (hexecution : path ≠ installExecutionRecordPath updateDir) :
    (rollbackUpdate env updateDir files now).files path =
      restoreBackup env updateDir (clearUpdate env updateDir files) path := by
  unfold rollbackUpdate
  rw [hload]
  exact (FileTree.write_of_ne _ _ hversion).trans (FileTree.remove_of_ne _ hexecution)

theorem rollbackUpdate_version (now : ℕ) :
    (loadInstalledVersionRecord env.toUpdaterEnv (rollbackUpdate env updateDir files now).files
        (installedVersionRecordPath updateDir)).map (·.version) =
      some metadata.previousVersion := by
  unfold rollbackUpdate
  rw [hload]
  dsimp only
  unfold loadInstalledVersionRecord
  rw [FileTree.write_same]
  rfl

end Rollback

/-! ## Runs from staging to rollback -/

/-- The files at the start, and what each call is given. -/
structure UpdateRun where
  files : FileTree UpdateFile
  currentVersion : String
  channel : String
  releaseManifestDir : FilePath
  stagedAt : ℕ
  managedStatus : Option ManagedServiceStatus
  processIsRunning : ℕ → Bool
  appliedAt : ℕ
  installs : List (InstallOptions × ℕ)
  rolledBackAt : ℕ

/-- The calls of the last step, one after the other. -/
def installAll (env : UpdaterEnv) (updateDir : FilePath) (files : FileTree UpdateFile)
    (installs : List (InstallOptions × ℕ)) : FileTree UpdateFile :=
  installs.foldl (fun files install =>
    (executeInstallAction env updateDir files install.1 install.2).files) files

namespace UpdateRun

section Calls

variable (env : UpdaterEnv) (updateDir : FilePath) (run : UpdateRun)

def staged : UpdateOutcome :=
  stageUpdate env updateDir run.files run.currentVersion run.channel run.releaseManifestDir
    run.stagedAt

def applied : UpdateOutcome :=
  applyUpdateWithStatus env updateDir (run.staged env updateDir).files run.managedStatus
    run.processIsRunning run.appliedAt

def installed : FileTree UpdateFile :=
  installAll env updateDir (run.applied env updateDir).files run.installs

def manifestPath : FilePath := releaseManifestPath run.releaseManifestDir run.channel

def stagedArtifactPath (artifact : ReleaseArtifact) : FilePath :=
  (stagedArtifactDir updateDir).child
    (artifactFileName (resolveArtifactSourcePath run.manifestPath artifact.path))

def appliedArtifactPath (artifact : ReleaseArtifact) : FilePath :=
  (appliedArtifactDir updateDir).child
    (artifactFileName (run.stagedArtifactPath updateDir artifact))

/-- Where the artifact is installed below the root. -/
def targetPath (artifact : ReleaseArtifact) (root : FilePath) : FilePath :=
  overrideTargetPath root (resolveTargetInstallPath env.installRootForCurrentPlatform artifact.kind
    (run.appliedArtifactPath updateDir artifact))

/-- The records and copies of the updater. -/
def OwnFile (artifact : ReleaseArtifact) (path : FilePath) : Prop :=
  Cleared updateDir (run.appliedArtifactPath updateDir artifact) path ∨
    path = installedVersionRecordPath updateDir ∨ path = installExecutionRecordPath updateDir

/-- Neither the installed file nor its backup is a file of the updater. -/
structure Outside (artifact : ReleaseArtifact) (target : FilePath) : Prop where
  file : ¬ run.OwnFile updateDir artifact target
  backup : ¬ run.OwnFile updateDir artifact (target.withSuffix ".bak")

/-- The run stages the artifact, applies it, and installs it to the root as often as it does. -/
structure Updates (manifest : ReleaseManifest) (artifact : ReleaseArtifact)
    (content : UpdateFile) (root : FilePath) : Prop where
  loads : loadReleaseManifest env.toSigningEnv (fileBytes env run.files) run.manifestPath =
    .ok manifest
  selects : selectReleaseArtifact manifest = some artifact
  source : run.files (resolveArtifactSourcePath run.manifestPath artifact.path) = some content
  stages : (run.staged env updateDir).Reports "staged"
  applies : (run.applied env updateDir).Reports "applied"
  targets : ∀ install ∈ run.installs, ∃ mode, installTargetRoot env install.1 = .ok (root, mode)

end Calls

def rolledBack (env : RollbackEnv) (updateDir : FilePath) (run : UpdateRun) :
    FileTree UpdateFile :=
  (rollbackUpdate env updateDir (run.installed env.toUpdaterEnv updateDir) run.rolledBackAt).files

/-- The rollback leaves the installed file as it was, and a record of the version that was
current. -/
def Restores (env : RollbackEnv) (updateDir : FilePath) (run : UpdateRun) (target : FilePath) :
    Prop :=
  fileBytes env.toUpdaterEnv (run.rolledBack env updateDir) target =
      fileBytes env.toUpdaterEnv run.files target ∧
    (loadInstalledVersionRecord env.toUpdaterEnv (run.rolledBack env updateDir)
        (installedVersionRecordPath updateDir)).map (·.version) =
      some (effectiveCurrentVersion env.toUpdaterEnv updateDir run.files run.currentVersion)

/-- What the rollback finds at the path when nothing was installed. -/
def leftOver (updateDir : FilePath) (run : UpdateRun) (manifest : ReleaseManifest)
    (artifact : ReleaseArtifact) (path : FilePath) : Option UpdateFile :=
  if Cleared updateDir (run.appliedArtifactPath updateDir artifact) path then none
  else if path = installedVersionRecordPath updateDir then
    some (.record (.installedVersion ⟨manifest.version, manifest.channel, run.appliedAt⟩))
  else run.files path

/-- The execution record of an earlier update restores the file to what it is. -/
def EarlierRecordAgrees (env : RollbackEnv) (updateDir : FilePath) (run : UpdateRun)
    (manifest : ReleaseManifest) (artifact : ReleaseArtifact) (target : FilePath) : Prop :=
  ∀ record, loadInstallExecutionRecord env run.files (installExecutionRecordPath updateDir) =
      some record →
    if record.targetInstallPath = target then
      fileBytes env.toUpdaterEnv run.files target =
        if record.backupPath = target then none
        else (run.leftOver updateDir manifest artifact record.backupPath).map
          (UpdateFile.bytes env.toUpdaterEnv)
    else record.backupPath = target → run.files target = none

/-- The backup holds the installed file, by the number of installations: without any, it is the one
of an earlier update; the first one writes it if there is an installed file; and each later one
replaces it by the new version. -/
def BackupHolds (env : RollbackEnv) (updateDir : FilePath) (run : UpdateRun)
    (manifest : ReleaseManifest) (artifact : ReleaseArtifact) (content : UpdateFile)
    (target : FilePath) : Prop :=
  match run.installs.length with
  | 0 => run.EarlierRecordAgrees env updateDir manifest artifact target
  | 1 => run.files target ≠ none ∨ run.files (target.withSuffix ".bak") = none
  | _ => fileBytes env.toUpdaterEnv run.files target = some (content.bytes env.toUpdaterEnv)

/-! ## The files of a run -/

section Updates

variable {env : UpdaterEnv} {updateDir : FilePath} {run : UpdateRun} {manifest : ReleaseManifest}
  {artifact : ReleaseArtifact} {content : UpdateFile} {root : FilePath}

section OwnFile

variable {path : FilePath} (hpath : ¬ run.OwnFile updateDir artifact path)
include hpath

theorem not_cleared_of_not_ownFile :
    ¬ Cleared updateDir (run.appliedArtifactPath updateDir artifact) path :=
  fun hcleared => hpath (.inl hcleared)

theorem ne_versionRecord : path ≠ installedVersionRecordPath updateDir :=
  fun hversion => hpath (.inr (.inl hversion))

theorem ne_executionRecord : path ≠ installExecutionRecordPath updateDir :=
  fun hexecution => hpath (.inr (.inr hexecution))

end OwnFile

/-- A run that stages something has a manifest, an artifact and its content. -/
theorem exists_updates (hstages : (run.staged env updateDir).Reports "staged")
    (happlies : (run.applied env updateDir).Reports "applied")
    (htargets : ∀ install ∈ run.installs, ∃ mode,
      installTargetRoot env install.1 = .ok (root, mode)) :
    ∃ manifest artifact content, run.Updates env updateDir manifest artifact content root := by
  rcases stageUpdate_cases env updateDir run.files run.currentVersion run.channel
    run.releaseManifestDir run.stagedAt with
    ⟨_, hnone⟩ | ⟨manifest, artifact, content, hload, _, _, hselect, hsource⟩
  · exact absurd hstages hnone
  · exact ⟨manifest, artifact, content, hload, hselect, hsource, hstages, happlies, htargets⟩

theorem Updates.staged_eq (h : run.Updates env updateDir manifest artifact content root) :
    run.staged env updateDir =
      stageArtifact updateDir run.files run.currentVersion run.channel run.manifestPath manifest
        artifact content run.stagedAt := by
  rcases stageUpdate_cases env updateDir run.files run.currentVersion run.channel
    run.releaseManifestDir run.stagedAt with
    ⟨_, hnone⟩ | ⟨found, selected, held, hload, hverify, hnewer, hselect, hsource⟩
  · exact absurd h.stages hnone
  · obtain rfl := Except.ok.inj (h.loads.symm.trans hload)
    obtain rfl := Option.some.inj (h.selects.symm.trans hselect)
    obtain rfl := Option.some.inj (h.source.symm.trans hsource)
    exact stageUpdate_of hload hverify hnewer hselect hsource

/-- The way back that staging leaves. -/
theorem Updates.way_back (h : run.Updates env updateDir manifest artifact content root) :
    ∃ metadata, (run.staged env updateDir).files (rollbackMetadataPath updateDir) =
        some (.record (.rollback metadata)) ∧
      metadata.previousVersion = run.currentVersion := by
  rw [h.staged_eq]
  exact ⟨_, FileTree.write_same _ _ _, rfl⟩

/-- The plan that staging leaves. -/
theorem Updates.pending (h : run.Updates env updateDir manifest artifact content root) :
    ∃ pending : PendingUpdatePlan,
      (run.staged env updateDir).files (pendingUpdatePlanPath updateDir) =
          some (.record (.pendingUpdate pending)) ∧
        pending.stagedArtifactPath = run.stagedArtifactPath updateDir artifact ∧
        pending.artifactKind = artifact.kind ∧ pending.targetVersion = manifest.version ∧
        pending.channel = manifest.channel := by
  have hother : pendingUpdatePlanPath updateDir ≠ rollbackMetadataPath updateDir :=
    FilePath.child_ne_of_name (by decide)
  rw [h.staged_eq]
  refine ⟨_, (FileTree.write_of_ne _ _ hother).trans (FileTree.write_same _ _ _), ?_⟩
  exact ⟨rfl, rfl, rfl, rfl⟩

/-- Staging changes what the rollback removes, and nothing else. -/
theorem Updates.staged_of_not_cleared
    (h : run.Updates env updateDir manifest artifact content root) {path copy : FilePath}
    (hpath : ¬ Cleared updateDir copy path) :
    (run.staged env updateDir).files path = run.files path := by
  have hrecord : ∀ name ∈ clearedNames, path ≠ updateDir.child name := by
    rintro name hname rfl
    exact hpath (.inl (List.mem_map_of_mem hname))
  have hcopy : path ≠ run.stagedArtifactPath updateDir artifact := by
    rintro rfl
    exact hpath (.inr (.inl (FilePath.below_child _ _)))
  rw [h.staged_eq]
  exact (FileTree.write_of_ne _ _ (hrecord "rollback.json" (by decide))).trans
    ((FileTree.write_of_ne _ _ (hrecord "pending-update.json" (by decide))).trans
      (FileTree.write_of_ne _ _ hcopy))

/-- Applying writes its records and its copy, and removes the plan. -/
theorem applyPending_other {files : FileTree UpdateFile} {pending : PendingUpdatePlan}
    {installRoot path : FilePath} {now : ℕ}
    (hrecord : ∀ name ∈ appliedNames, path ≠ updateDir.child name)
    (hartifact : path ≠ (appliedArtifactDir updateDir).child
      (artifactFileName pending.stagedArtifactPath)) :
    (applyPending updateDir files pending installRoot content now).files path = files path :=
  (FileTree.remove_of_ne _ (hrecord "pending-update.json" (by decide))).trans
    ((FileTree.write_of_ne _ _ (hrecord "installed-version.json" (by decide))).trans
    ((FileTree.write_of_ne _ _ (hrecord "install-action.json" (by decide))).trans
    ((FileTree.write_of_ne _ _ (hrecord "switch-executed.json" (by decide))).trans
    ((FileTree.write_of_ne _ _ (hrecord "applied-update.json" (by decide))).trans
      (FileTree.write_of_ne _ _ hartifact)))))

/-- Applying goes on from the plan that staging left. -/
theorem Updates.applied_eq (h : run.Updates env updateDir manifest artifact content root) :
    ∃ (pending : PendingUpdatePlan) (switchPlan : SwitchPlanRecord),
      pending.stagedArtifactPath = run.stagedArtifactPath updateDir artifact ∧
        pending.artifactKind = artifact.kind ∧ pending.targetVersion = manifest.version ∧
        pending.channel = manifest.channel ∧
        run.applied env updateDir =
          applyPending updateDir
            ((run.staged env updateDir).files.write (switchPlanPath updateDir)
              (.record (.switchPlan switchPlan))) pending env.installRootForCurrentPlatform
            content run.appliedAt := by
  obtain ⟨pending, hpending, hcopy, hplan⟩ := h.pending
  rcases applyUpdateWithStatus_cases env updateDir (run.staged env updateDir).files
    run.managedStatus run.processIsRunning run.appliedAt with
    ⟨hnone, _⟩ | ⟨found, switchPlan, held, hload, hheld, houtcome⟩
  · exact absurd h.applies hnone
  · unfold loadPendingUpdatePlan at hload
    rw [hpending] at hload
    obtain rfl := Option.some.inj hload
    have hstaged : (run.staged env updateDir).files (run.stagedArtifactPath updateDir artifact) =
        some content := by
      rw [h.staged_eq]
      exact (FileTree.write_of_ne _ _ (FilePath.child_child_ne _ _ _ _)).trans
        ((FileTree.write_of_ne _ _ (FilePath.child_child_ne _ _ _ _)).trans
          (FileTree.write_same _ _ _))
    rw [hcopy] at hheld
    have hsame := (FileTree.write_of_ne _ _ (FilePath.child_child_ne _ _ _ _)).symm.trans hheld
    obtain rfl := Option.some.inj (hstaged.symm.trans hsame)
    exact ⟨pending, switchPlan, hcopy, hplan.1, hplan.2.1, hplan.2.2, houtcome⟩

/-- What the later calls read in the update directory after the update was applied. -/
structure Records (env : UpdaterEnv) (updateDir : FilePath) (run : UpdateRun)
    (artifact : ReleaseArtifact) (content : UpdateFile) (files : FileTree UpdateFile) : Prop where
  rollback : ∃ metadata, files (rollbackMetadataPath updateDir) =
    some (.record (.rollback metadata)) ∧ metadata.previousVersion = run.currentVersion
  switchExecution : ∃ record, files (switchExecutionRecordPath updateDir) =
    some (.record (.switchExecution record)) ∧
      record.appliedArtifactPath = run.appliedArtifactPath updateDir artifact
  installAction : ∃ action, files (installActionPlanPath updateDir) =
    some (.record (.installAction action)) ∧
      action.stagedArtifactPath = run.appliedArtifactPath updateDir artifact ∧
      ∀ root, overrideTargetPath root action.targetInstallPath =
        run.targetPath env updateDir artifact root
  copied : files (run.appliedArtifactPath updateDir artifact) = some content

theorem Updates.records (h : run.Updates env updateDir manifest artifact content root) :
    Records env updateDir run artifact content (run.applied env updateDir).files := by
  obtain ⟨pending, switchPlan, hcopy, hkind, _, _, houtcome⟩ := h.applied_eq
  have hartifact : (appliedArtifactDir updateDir).child
      (artifactFileName pending.stagedArtifactPath) =
        run.appliedArtifactPath updateDir artifact := by
    rw [hcopy]
    rfl
  have hrecord : ∀ {name name' : String}, name ≠ name' →
      updateDir.child name ≠ updateDir.child name' := FilePath.child_ne_of_name
  have hbelow : ∀ name, updateDir.child name ≠ (appliedArtifactDir updateDir).child
      (artifactFileName pending.stagedArtifactPath) :=
    fun name => (FilePath.child_child_ne _ _ _ _).symm
  rw [houtcome]
  constructor
  · obtain ⟨metadata, hstaged, hprevious⟩ := h.way_back
    refine ⟨metadata, ?_, hprevious⟩
    have hother : ∀ name ∈ appliedNames,
        rollbackMetadataPath updateDir ≠ updateDir.child name := by
      intro name hname
      refine hrecord ?_
      rintro rfl
      exact absurd hname (by decide)
    rw [applyPending_other hother (hbelow _)]
    exact (FileTree.write_of_ne _ _ (hrecord (by decide))).trans hstaged
  · refine ⟨_, (FileTree.remove_of_ne _ (hrecord (by decide))).trans
      ((FileTree.write_of_ne _ _ (hrecord (by decide))).trans
      ((FileTree.write_of_ne _ _ (hrecord (by decide))).trans (FileTree.write_same _ _ _))),
      hartifact⟩
  · refine ⟨_, (FileTree.remove_of_ne _ (hrecord (by decide))).trans
      ((FileTree.write_of_ne _ _ (hrecord (by decide))).trans (FileTree.write_same _ _ _)),
      hartifact, ?_⟩
    intro root
    rw [targetPath, ← hkind, ← hartifact]
    rfl
  · rw [← hartifact]
    exact (FileTree.remove_of_ne _ (hbelow _).symm).trans
      ((FileTree.write_of_ne _ _ (hbelow _).symm).trans
      ((FileTree.write_of_ne _ _ (hbelow _).symm).trans
      ((FileTree.write_of_ne _ _ (hbelow _).symm).trans
      ((FileTree.write_of_ne _ _ (hbelow _).symm).trans (FileTree.write_same _ _ _)))))

/-- Beside what the rollback removes, applying writes the record of the new version. -/
theorem Updates.applied_of_not_cleared
    (h : run.Updates env updateDir manifest artifact content root) {path : FilePath}
    (hpath : ¬ Cleared updateDir (run.appliedArtifactPath updateDir artifact) path) :
    (run.applied env updateDir).files path =
      run.leftOver updateDir manifest artifact path := by
  obtain ⟨pending, switchPlan, hcopy, _, hversion, hchannel, houtcome⟩ := h.applied_eq
  have hrecord : ∀ name ∈ clearedNames, path ≠ updateDir.child name := by
    rintro name hname rfl
    exact hpath (.inl (List.mem_map_of_mem hname))
  have hartifact : path ≠ (appliedArtifactDir updateDir).child
      (artifactFileName pending.stagedArtifactPath) := by
    rw [hcopy]
    rintro rfl
    exact hpath (.inr (.inr rfl))
  rw [leftOver, if_neg hpath, houtcome]
  by_cases hinstalled : path = installedVersionRecordPath updateDir
  · rw [if_pos hinstalled, hinstalled, ← hversion, ← hchannel]
    exact (FileTree.remove_of_ne _ (FilePath.child_ne_of_name (by decide))).trans
      (FileTree.write_same _ _ _)
  · have hnames : ∀ name ∈ appliedNames,
        name = "installed-version.json" ∨ name ∈ clearedNames := by decide
    have hother : ∀ name ∈ appliedNames, path ≠ updateDir.child name := by
      intro name hname
      rcases hnames name hname with rfl | hcleared
      · exact hinstalled
      · exact hrecord name hcleared
    rw [if_neg hinstalled, applyPending_other hother hartifact, ← h.staged_of_not_cleared hpath]
    exact FileTree.write_of_ne _ _ (hrecord "switch-plan.json" (by decide))

/-! ## The installations -/

/-- The installed file has its backup beside it. -/
theorem backup_ne_target : (run.targetPath env updateDir artifact root).withSuffix ".bak" ≠
    run.targetPath env updateDir artifact root := by
  unfold targetPath overrideTargetPath
  rw [FilePath.withSuffix_child]
  refine FilePath.child_ne_of_name ?_
  intro hsame
  have hlength := congrArg String.length hsame
  have hsuffix : 0 < ".bak".length := by decide
  rw [String.length_append] at hlength
  omega

/-- What installations leave: the new version, a backup, and a record of both. -/
structure Installed (updateDir target : FilePath) (content : UpdateFile)
    (backup : Option UpdateFile) (before after : FileTree UpdateFile) : Prop where
  newVersion : after target = some content
  kept : after (target.withSuffix ".bak") = backup
  execution : ∃ execution, after (installExecutionRecordPath updateDir) =
    some (.record (.installExecution execution)) ∧ execution.targetInstallPath = target ∧
      execution.backupPath = target.withSuffix ".bak"
  elsewhere : ∀ path, path ≠ target → path ≠ target.withSuffix ".bak" →
    path ≠ installExecutionRecordPath updateDir → after path = before path

/-- The other files of the updater stay. -/
theorem Installed.own {target path : FilePath} {backup : Option UpdateFile}
    {before after : FileTree UpdateFile}
    (h : Installed updateDir target content backup before after)
    (houtside : run.Outside updateDir artifact target)
    (hpath : run.OwnFile updateDir artifact path)
    (hother : path ≠ installExecutionRecordPath updateDir) :
    after path = before path := by
  refine h.elsewhere path ?_ ?_ hother
  · rintro rfl
    exact houtside.file hpath
  · rintro rfl
    exact houtside.backup hpath

theorem Records.frame {before after : FileTree UpdateFile}
    (h : Records env updateDir run artifact content before)
    (hsame : ∀ path, run.OwnFile updateDir artifact path →
      path ≠ installExecutionRecordPath updateDir → after path = before path) :
    Records env updateDir run artifact content after := by
  have hrecord : ∀ name ∈ clearedNames,
      after (updateDir.child name) = before (updateDir.child name) := by
    intro name hname
    refine hsame _ (.inl (.inl (List.mem_map_of_mem hname))) (FilePath.child_ne_of_name ?_)
    rintro rfl
    exact absurd hname (by decide)
  constructor
  · rw [rollbackMetadataPath, hrecord _ (by decide)]
    exact h.rollback
  · rw [switchExecutionRecordPath, hrecord _ (by decide)]
    exact h.switchExecution
  · rw [installActionPlanPath, hrecord _ (by decide)]
    exact h.installAction
  · rw [← h.copied]
    exact hsame _ (.inl (.inr (.inr rfl))) (FilePath.child_child_ne _ _ _ _)

/-- One installation keeps what was installed before as the backup. -/
theorem Records.install {files : FileTree UpdateFile}
    (h : Records env updateDir run artifact content files)
    (houtside : run.Outside updateDir artifact
      (run.targetPath env updateDir artifact root))
    {options : InstallOptions} {mode : String}
    (hroot : installTargetRoot env options = .ok (root, mode)) (now : ℕ) :
    Installed updateDir (run.targetPath env updateDir artifact root) content
      ((files (run.targetPath env updateDir artifact root)).or
        (files ((run.targetPath env updateDir artifact root).withSuffix ".bak")))
      files (executeInstallAction env updateDir files options now).files := by
  obtain ⟨action, haction, hsource, htargetPath⟩ := h.installAction
  have hload : loadInstallActionPlan env files (installActionPlanPath updateDir) = some action := by
    rw [loadInstallActionPlan, haction]
  have hcopied : ∀ path, path ≠ (run.targetPath env updateDir artifact root).withSuffix ".bak" →
      backUp files (run.targetPath env updateDir artifact root)
        ((run.targetPath env updateDir artifact root).withSuffix ".bak") path = files path := by
    intro path hpath
    unfold backUp
    cases files (run.targetPath env updateDir artifact root) with
    | none => rfl
    | some existing => exact FileTree.write_of_ne _ _ hpath
  have hbacked : backUp files (run.targetPath env updateDir artifact root)
      ((run.targetPath env updateDir artifact root).withSuffix ".bak")
      ((run.targetPath env updateDir artifact root).withSuffix ".bak") =
        (files (run.targetPath env updateDir artifact root)).or
          (files ((run.targetPath env updateDir artifact root).withSuffix ".bak")) := by
    unfold backUp
    cases files (run.targetPath env updateDir artifact root) with
    | none => rfl
    | some existing => exact FileTree.write_same _ _ _
  have hheld : backUp files (run.targetPath env updateDir artifact root)
      ((run.targetPath env updateDir artifact root).withSuffix ".bak")
      action.stagedArtifactPath = some content := by
    rw [hsource, hcopied, h.copied]
    rintro hsame
    exact houtside.backup (.inl (.inr (.inr hsame.symm)))
  have htargetRecord : run.targetPath env updateDir artifact root ≠
      installExecutionRecordPath updateDir := ne_executionRecord houtside.file
  have hbackupRecord : (run.targetPath env updateDir artifact root).withSuffix ".bak" ≠
      installExecutionRecordPath updateDir := ne_executionRecord houtside.backup
  unfold executeInstallAction
  rw [hload]
  dsimp only
  rw [hroot]
  dsimp only
  unfold installTo
  rw [htargetPath]
  dsimp only
  rw [hheld]
  dsimp only
  constructor
  · exact (FileTree.write_of_ne _ _ htargetRecord).trans (FileTree.write_same _ _ _)
  · exact (FileTree.write_of_ne _ _ hbackupRecord).trans
      ((FileTree.write_of_ne _ _ backup_ne_target).trans hbacked)
  · exact ⟨_, FileTree.write_same _ _ _, rfl, rfl⟩
  · intro path hpath hother hrecord
    exact (FileTree.write_of_ne _ _ hrecord).trans
      ((FileTree.write_of_ne _ _ hpath).trans (hcopied path hother))

/-- After one installation the backup is what was installed before; after more, the new version. -/
theorem Records.installAll {files : FileTree UpdateFile}
    (h : Records env updateDir run artifact content files)
    (houtside : run.Outside updateDir artifact
      (run.targetPath env updateDir artifact root))
    {installs : List (InstallOptions × ℕ)} (hsome : installs ≠ [])
    (htargets : ∀ install ∈ installs, ∃ mode,
      installTargetRoot env install.1 = .ok (root, mode)) :
    Installed updateDir (run.targetPath env updateDir artifact root) content
      (if installs.length = 1 then
        (files (run.targetPath env updateDir artifact root)).or
          (files ((run.targetPath env updateDir artifact root).withSuffix ".bak"))
      else some content)
      files (Node.installAll env updateDir files installs) := by
  induction installs generalizing files with
  | nil => exact absurd rfl hsome
  | cons install rest ih =>
      obtain ⟨mode, hroot⟩ := htargets install List.mem_cons_self
      have hfirst := h.install houtside hroot install.2
      by_cases hlast : rest = []
      · rw [hlast]
        exact hfirst
      · have hrecords := h.frame fun path hown hother => hfirst.own houtside hown hother
        have hrest := ih hrecords hlast fun later hlater =>
          htargets later (List.mem_cons_of_mem _ hlater)
        have hmore : (install :: rest).length ≠ 1 := by
          rw [List.length_cons]
          exact fun hone => hlast (List.eq_nil_of_length_eq_zero (Nat.succ.inj hone))
        rw [if_neg hmore]
        refine ⟨hrest.newVersion, ?_, hrest.execution, ?_⟩
        · -- the first installation left the new version as what the next one backs up
          refine hrest.kept.trans ?_
          rw [hfirst.newVersion, Option.some_or]
          exact ite_self _
        · intro path hpath hother hrecord
          exact (hrest.elsewhere path hpath hother hrecord).trans
            (hfirst.elsewhere path hpath hother hrecord)

end Updates

/-! ## The files after the rollback -/

section RolledBack

variable {env : RollbackEnv} {updateDir : FilePath} {run : UpdateRun} {manifest : ReleaseManifest}
  {artifact : ReleaseArtifact} {content : UpdateFile} {root : FilePath}

theorem leftOver_of_not_ownFile {path : FilePath}
    (hpath : ¬ run.OwnFile updateDir artifact path) :
    run.leftOver updateDir manifest artifact path = run.files path := by
  rw [leftOver, if_neg (not_cleared_of_not_ownFile hpath), if_neg (ne_versionRecord hpath)]

theorem not_cleared_executionRecord :
    ¬ Cleared updateDir (run.appliedArtifactPath updateDir artifact)
      (installExecutionRecordPath updateDir) :=
  not_cleared_record (by decide)

theorem leftOver_executionRecord :
    run.leftOver updateDir manifest artifact (installExecutionRecordPath updateDir) =
      run.files (installExecutionRecordPath updateDir) := by
  have hversion : installExecutionRecordPath updateDir ≠ installedVersionRecordPath updateDir :=
    FilePath.child_ne_of_name (by decide)
  rw [leftOver, if_neg not_cleared_executionRecord, if_neg hversion]

theorem Records.cleared {files : FileTree UpdateFile}
    (h : Records env.toUpdaterEnv updateDir run artifact content files) (path : FilePath) :
    clearUpdate env updateDir files path =
      if Cleared updateDir (run.appliedArtifactPath updateDir artifact) path then none
      else files path := by
  obtain ⟨record, hrecord, happlied⟩ := h.switchExecution
  rw [clearUpdate_eq hrecord, happlied]

/-- A file that is not of the updater is after the rollback what its backup makes of it. -/
theorem Records.rolledBack
    (h : Records env.toUpdaterEnv updateDir run artifact content
      (run.installed env.toUpdaterEnv updateDir)) {path : FilePath}
    (hpath : ¬ run.OwnFile updateDir artifact path) :
    run.rolledBack env updateDir path =
      restoreBackup env updateDir
        (clearUpdate env updateDir (run.installed env.toUpdaterEnv updateDir)) path := by
  obtain ⟨metadata, hmetadata, _⟩ := h.rollback
  have hload : loadRollbackMetadata env (run.installed env.toUpdaterEnv updateDir)
      (rollbackMetadataPath updateDir) = some metadata := by
    rw [loadRollbackMetadata, hmetadata]
  exact rollbackUpdate_files hload _ (ne_versionRecord hpath) (ne_executionRecord hpath)

/-- The recorded version is the one that staging was called with. -/
theorem Records.rolledBack_version
    (h : Records env.toUpdaterEnv updateDir run artifact content
      (run.installed env.toUpdaterEnv updateDir)) :
    (loadInstalledVersionRecord env.toUpdaterEnv (run.rolledBack env updateDir)
        (installedVersionRecordPath updateDir)).map (·.version) = some run.currentVersion := by
  obtain ⟨metadata, hmetadata, hprevious⟩ := h.rollback
  have hload : loadRollbackMetadata env (run.installed env.toUpdaterEnv updateDir)
      (rollbackMetadataPath updateDir) = some metadata := by
    rw [loadRollbackMetadata, hmetadata]
  rw [← hprevious]
  exact rollbackUpdate_version hload _

theorem Updates.records_installed
    (h : run.Updates env.toUpdaterEnv updateDir manifest artifact content root)
    (houtside : run.Outside updateDir artifact
      (run.targetPath env.toUpdaterEnv updateDir artifact root)) :
    Records env.toUpdaterEnv updateDir run artifact content
      (run.installed env.toUpdaterEnv updateDir) := by
  by_cases hnone : run.installs = []
  · rw [UpdateRun.installed, hnone]
    exact h.records
  · have hinstalled := h.records.installAll houtside hnone h.targets
    exact h.records.frame fun path hown hother => hinstalled.own houtside hown hother

/-- After installations the rollback puts back what the backup was. -/
theorem Updates.rolledBack_installed
    (h : run.Updates env.toUpdaterEnv updateDir manifest artifact content root)
    (houtside : run.Outside updateDir artifact
      (run.targetPath env.toUpdaterEnv updateDir artifact root))
    (hsome : run.installs ≠ []) :
    run.rolledBack env updateDir (run.targetPath env.toUpdaterEnv updateDir artifact root) =
      if run.installs.length = 1 then
        (run.files (run.targetPath env.toUpdaterEnv updateDir artifact root)).or
          (run.files ((run.targetPath env.toUpdaterEnv updateDir artifact root).withSuffix ".bak"))
      else some content := by
  have hinstalled := h.records.installAll houtside hsome h.targets
  have hrecords := h.records_installed houtside
  have hinitial : ∀ path, ¬ run.OwnFile updateDir artifact path →
      (run.applied env.toUpdaterEnv updateDir).files path = run.files path := by
    intro path hpath
    rw [h.applied_of_not_cleared (not_cleared_of_not_ownFile hpath),
      leftOver_of_not_ownFile hpath]
  obtain ⟨execution, hexecution, hexecutionTarget, hexecutionBackup⟩ := hinstalled.execution
  have hload : loadInstallExecutionRecord env
      (clearUpdate env updateDir (run.installed env.toUpdaterEnv updateDir))
      (installExecutionRecordPath updateDir) = some execution := by
    rw [loadInstallExecutionRecord, hrecords.cleared, if_neg not_cleared_executionRecord,
      UpdateRun.installed, hexecution]
  have hkept : ¬ Cleared updateDir (run.appliedArtifactPath updateDir artifact)
      ((run.targetPath env.toUpdaterEnv updateDir artifact root).withSuffix ".bak") :=
    not_cleared_of_not_ownFile houtside.backup
  have hrestored := restoreBackup_target hload
  rw [hexecutionTarget, hexecutionBackup, if_neg backup_ne_target, hrecords.cleared,
    if_neg hkept] at hrestored
  rw [hrecords.rolledBack houtside.file, hrestored, UpdateRun.installed, hinstalled.kept,
    hinitial _ houtside.file, hinitial _ houtside.backup]

/-- Without installations the rollback does what an earlier execution record says. -/
theorem Updates.rolledBack_earlier
    (h : run.Updates env.toUpdaterEnv updateDir manifest artifact content root)
    {target : FilePath} (htarget : ¬ run.OwnFile updateDir artifact target)
    (hnone : run.installs = []) :
    run.rolledBack env updateDir target =
      match loadInstallExecutionRecord env run.files (installExecutionRecordPath updateDir) with
      | none => run.files target
      | some record =>
          if record.targetInstallPath = target then
            if record.backupPath = target then none
            else run.leftOver updateDir manifest artifact record.backupPath
          else if record.backupPath = target then none else run.files target := by
  have hinstalled : run.installed env.toUpdaterEnv updateDir =
      (run.applied env.toUpdaterEnv updateDir).files := by
    rw [UpdateRun.installed, hnone]
    rfl
  have hrecords : Records env.toUpdaterEnv updateDir run artifact content
      (run.installed env.toUpdaterEnv updateDir) := hinstalled ▸ h.records
  have hcleared : ∀ path,
      clearUpdate env updateDir (run.installed env.toUpdaterEnv updateDir) path =
        run.leftOver updateDir manifest artifact path := by
    intro path
    rw [hrecords.cleared]
    by_cases hpath : Cleared updateDir (run.appliedArtifactPath updateDir artifact) path
    · rw [if_pos hpath, leftOver, if_pos hpath]
    · rw [if_neg hpath, hinstalled, h.applied_of_not_cleared hpath]
  have hload : loadInstallExecutionRecord env
      (clearUpdate env updateDir (run.installed env.toUpdaterEnv updateDir))
      (installExecutionRecordPath updateDir) =
        loadInstallExecutionRecord env run.files (installExecutionRecordPath updateDir) := by
    unfold loadInstallExecutionRecord
    rw [hcleared, leftOver_executionRecord]
  rw [hrecords.rolledBack htarget]
  cases hrecord : loadInstallExecutionRecord env run.files
      (installExecutionRecordPath updateDir) with
  | none =>
      rw [restoreBackup, hload, hrecord]
      exact (hcleared target).trans (leftOver_of_not_ownFile htarget)
  | some record =>
      rw [hrecord] at hload
      dsimp only
      by_cases hsame : record.targetInstallPath = target
      · rw [if_pos hsame, ← hsame, restoreBackup_target hload, hcleared]
      · rw [if_neg hsame, restoreBackup_of_ne hload (Ne.symm hsame), hcleared,
          leftOver_of_not_ownFile htarget]
        exact if_congr eq_comm rfl rfl

/-- What an earlier execution record makes of the file is what the file was. -/
theorem Updates.earlier_restored_iff
    (h : run.Updates env.toUpdaterEnv updateDir manifest artifact content root)
    {target : FilePath} (htarget : ¬ run.OwnFile updateDir artifact target)
    (hnone : run.installs = []) :
    fileBytes env.toUpdaterEnv (run.rolledBack env updateDir) target =
        fileBytes env.toUpdaterEnv run.files target ↔
      run.EarlierRecordAgrees env updateDir manifest artifact target := by
  unfold EarlierRecordAgrees fileBytes
  rw [h.rolledBack_earlier htarget hnone]
  cases hrecord : loadInstallExecutionRecord env run.files
      (installExecutionRecordPath updateDir) with
  | none =>
      refine iff_of_true rfl ?_
      intro record hrecord
      cases hrecord
  | some record =>
      dsimp only
      have honly : ∀ P : InstallExecutionRecord → Prop,
          (∀ found, some record = some found → P found) ↔ P record :=
        fun P => ⟨fun hall => hall record rfl, fun hP found hfound => by
          rwa [← Option.some.inj hfound]⟩
      rw [honly]
      by_cases hsame : record.targetInstallPath = target
      · rw [if_pos hsame, if_pos hsame]
        by_cases hbackup : record.backupPath = target
        · rw [if_pos hbackup, if_pos hbackup]
          exact eq_comm
        · rw [if_neg hbackup, if_neg hbackup]
          exact eq_comm
      · rw [if_neg hsame, if_neg hsame]
        by_cases hbackup : record.backupPath = target
        · rw [if_pos hbackup, forall_prop_of_true hbackup]
          exact eq_comm.trans Option.map_eq_none_iff
        · rw [if_neg hbackup]
          exact iff_of_true rfl fun hother => absurd hother hbackup

/-- The backup that installations leave is the file that was installed before. -/
theorem Updates.backup_restored_iff
    (h : run.Updates env.toUpdaterEnv updateDir manifest artifact content root)
    (houtside : run.Outside updateDir artifact
      (run.targetPath env.toUpdaterEnv updateDir artifact root)) :
    fileBytes env.toUpdaterEnv (run.rolledBack env updateDir)
          (run.targetPath env.toUpdaterEnv updateDir artifact root) =
        fileBytes env.toUpdaterEnv run.files
          (run.targetPath env.toUpdaterEnv updateDir artifact root) ↔
      run.BackupHolds env updateDir manifest artifact content
        (run.targetPath env.toUpdaterEnv updateDir artifact root) := by
  unfold BackupHolds
  rcases hlength : run.installs.length with _ | _ | more
  · exact h.earlier_restored_iff houtside.file (List.length_eq_zero_iff.mp hlength)
  · have hsome : run.installs ≠ [] := by
      intro hnone
      rw [hnone] at hlength
      cases hlength
    unfold fileBytes
    rw [h.rolledBack_installed houtside hsome, if_pos hlength]
    cases run.files (run.targetPath env.toUpdaterEnv updateDir artifact root) with
    | none => simp
    | some existing => simp
  · have hsome : run.installs ≠ [] := by
      intro hnone
      rw [hnone] at hlength
      cases hlength
    have hmore : run.installs.length ≠ 1 := by
      rw [hlength]
      exact fun hone => Nat.succ_ne_zero more (Nat.succ.inj hone)
    unfold fileBytes
    rw [h.rolledBack_installed houtside hsome, if_neg hmore]
    exact eq_comm

end RolledBack

end UpdateRun

/-- A rollback restores the installed file and the current version exactly if staging was called
with the recorded version and the backup holds the file. -/
theorem rollback_restores_iff (env : RollbackEnv) (updateDir : FilePath) (run : UpdateRun)
    {manifest : ReleaseManifest} {artifact : ReleaseArtifact} {content : UpdateFile}
    {root : FilePath}
    (h : run.Updates env.toUpdaterEnv updateDir manifest artifact content root)
    (houtside : run.Outside updateDir artifact
      (run.targetPath env.toUpdaterEnv updateDir artifact root)) :
    run.Restores env updateDir (run.targetPath env.toUpdaterEnv updateDir artifact root) ↔
      effectiveCurrentVersion env.toUpdaterEnv updateDir run.files run.currentVersion =
          run.currentVersion ∧
        run.BackupHolds env updateDir manifest artifact content
          (run.targetPath env.toUpdaterEnv updateDir artifact root) := by
  unfold UpdateRun.Restores
  rw [h.backup_restored_iff houtside, (h.records_installed houtside).rolledBack_version,
    Option.some_inj, eq_comm (a := run.currentVersion), and_comm]

/-! ## An installed file and its update -/

namespace UpdateSample

def rollbackEnv : RollbackEnv :=
  { env with
    parseRollbackMetadata := fun _ => none
    parseSwitchExecutionRecord := fun _ => none
    parseInstallExecutionRecord := fun _ => none }

def apps : FilePath := .ofText "C:/Apps"

/-- The release, and an older version that is installed. -/
def older : FileTree UpdateFile :=
  (release setup).write (apps.child "pole-node.exe") (.data "older".toUTF8.toList)

/-- An update that installs to the same place as often as it does. -/
def updating (installs : ℕ) : UpdateRun where
  files := older
  currentVersion := "0.1.0"
  channel := "stable"
  releaseManifestDir := releaseDir
  stagedAt := 0
  managedStatus := none
  processIsRunning := fun _ => false
  appliedAt := 0
  installs := List.replicate installs (options, 0)
  rolledBackAt := 0

/-- The installed version is none of the files that staging reads. -/
theorem older_elsewhere :
    releaseManifestPath releaseDir "stable" ≠ apps.child "pole-node.exe" ∧
      resolveArtifactSourcePath (releaseManifestPath releaseDir "stable") artifact.path ≠
        apps.child "pole-node.exe" ∧
      installedVersionRecordPath updateDir ≠ apps.child "pole-node.exe" := by
  decide +kernel

theorem load_older :
    loadReleaseManifest env.toSigningEnv (fileBytes env older)
      (releaseManifestPath releaseDir "stable") = .ok manifest := by
  have hfile : older (releaseManifestPath releaseDir "stable") =
      some (.data manifestText.toUTF8.toList) := by
    rw [older, FileTree.write_of_ne _ _ older_elsewhere.1]
    exact release_manifest setup
  exact loadReleaseManifest_of env.toSigningEnv (fileBytes_of_data env hfile) manifestText_parsed

theorem older_source :
    older (resolveArtifactSourcePath (releaseManifestPath releaseDir "stable") artifact.path) =
      some (.data setup) := by
  rw [older, FileTree.write_of_ne _ _ older_elsewhere.2.1]
  exact release_source setup

theorem older_newer :
    versionIsNewer manifest.version (effectiveCurrentVersion env updateDir older "0.1.0") =
      true := by
  have hinstalled : loadInstalledVersionRecord env older (installedVersionRecordPath updateDir) =
      loadInstalledVersionRecord env (release setup) (installedVersionRecordPath updateDir) := by
    unfold loadInstalledVersionRecord
    rw [older, FileTree.write_of_ne _ _ older_elsewhere.2.2]
  rw [effectiveCurrentVersion, hinstalled]
  exact release_newer setup

theorem updating_staged (installs : ℕ) :
    (updating installs).staged env updateDir =
      stageArtifact updateDir older "0.1.0" "stable" (releaseManifestPath releaseDir "stable")
        manifest artifact (.data setup) 0 := by
  have hverified : verifyReleaseManifestSignature env.toSigningEnv env.debugAssertions
      (fileBytes env older) manifest (releaseManifestPath releaseDir "stable") = .ok .verified := by
    refine verifyReleaseManifestSignature_eq_verified_iff.mpr (Or.inr ⟨?_, rfl⟩)
    intro signing hsigning
    cases hsigning
  change stageUpdate env updateDir older "0.1.0" "stable" releaseDir 0 = _
  exact stageUpdate_of load_older hverified older_newer rfl older_source

theorem updating_updates (installs : ℕ) :
    (updating installs).Updates env updateDir manifest artifact (.data setup) apps := by
  have hfiles : (updating installs).files = older := rfl
  have hmanifest : (updating installs).manifestPath = releaseManifestPath releaseDir "stable" :=
    rfl
  refine ⟨load_older, rfl, ?_, ?_, ?_, ?_⟩
  · rw [hfiles, hmanifest]
    exact older_source
  · rw [updating_staged]
    exact stageArtifact_reports
  · rw [UpdateRun.applied, updating_staged]
    change (applyUpdateWithStatus env updateDir _ none (fun _ => false) 0).Reports "applied"
    decide +kernel
  · intro install hinstall
    rw [List.eq_of_mem_replicate hinstall]
    exact ⟨_, rfl⟩

/-- The application lies outside of the update directory. -/
theorem updating_outside (installs : ℕ) :
    (updating installs).Outside updateDir artifact
      ((updating installs).targetPath env updateDir artifact apps) := by
  have houtside : ¬ (updating 0).OwnFile updateDir artifact
        ((updating 0).targetPath env updateDir artifact apps) ∧
      ¬ (updating 0).OwnFile updateDir artifact
        (((updating 0).targetPath env updateDir artifact apps).withSuffix ".bak") := by
    unfold UpdateRun.OwnFile
    decide +kernel
  exact ⟨houtside.1, houtside.2⟩

end UpdateSample

open UpdateSample in
/-- After one installation the older version is put back. -/
theorem rollback_restores_iff_once :
    (updating 1).Restores rollbackEnv updateDir
      ((updating 1).targetPath env updateDir artifact apps) := by
  refine (rollback_restores_iff rollbackEnv updateDir (updating 1) (updating_updates 1)
    (updating_outside 1)).mpr ⟨?_, .inl ?_⟩
  · decide +kernel
  · decide +kernel

open UpdateSample in
/-- After a second installation the rollback leaves the new version: it was backed up itself. -/
theorem second_install_not_restored :
    (updating 2).Updates env updateDir manifest artifact (.data setup) apps ∧
      (updating 2).Outside updateDir artifact
        ((updating 2).targetPath env updateDir artifact apps) ∧
      (updating 2).rolledBack rollbackEnv updateDir
          ((updating 2).targetPath env updateDir artifact apps) = some (.data setup) ∧
      ¬ (updating 2).Restores rollbackEnv updateDir
        ((updating 2).targetPath env updateDir artifact apps) := by
  have hupdates : (updating 2).Updates rollbackEnv.toUpdaterEnv updateDir manifest artifact
      (.data setup) apps := updating_updates 2
  have houtside := updating_outside 2
  have hrolledBack : (updating 2).rolledBack rollbackEnv updateDir
      ((updating 2).targetPath env updateDir artifact apps) = some (.data setup) :=
    hupdates.rolledBack_installed houtside (by decide)
  refine ⟨hupdates, houtside, hrolledBack, ?_⟩
  rintro ⟨hrestored, _⟩
  have holder : older ((updating 2).targetPath env updateDir artifact apps) =
      some (.data "older".toUTF8.toList) := by decide +kernel
  have hsame : (some (UpdateFile.data setup)).map (UpdateFile.bytes env) =
      (some (.data "older".toUTF8.toList)).map (UpdateFile.bytes env) := by
    rw [← hrolledBack, ← holder]
    exact hrestored
  exact absurd hsame (by decide +kernel)

end PoleProtocol.Node
