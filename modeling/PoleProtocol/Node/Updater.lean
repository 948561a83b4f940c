import PoleProtocol.Node.Signing

/-!
# The updater

An update goes through three calls. Staging verifies the release manifest and copies the artifact
that it selects, applying copies the staged artifact, and installing copies the applied one. Each
call leaves a record in the update directory that the next one reads back. Directories are made as
needed, and what is written is written in full.
-/

namespace PoleProtocol.Node

open Framework Ledger

/-! ## The records of the update directory -/

structure PendingUpdatePlan where
  channel : String
  targetVersion : String
  manifestPath : FilePath
  artifactCount : ℕ
  artifactKind : String
  artifactPath : String
  stagedArtifactPath : FilePath
  stagedAtMillis : ℕ
  deriving DecidableEq

structure RollbackMetadata where
  previousVersion : String
  channel : String
  manifestPath : FilePath
  recordedAtMillis : ℕ
  deriving DecidableEq

structure AppliedUpdateRecord where
  channel : String
  targetVersion : String
  manifestPath : FilePath
  artifactKind : String
  artifactPath : String
  appliedAtMillis : ℕ
  deriving DecidableEq

structure InstalledVersionRecord where
  version : String
  channel : String
  recordedAtMillis : ℕ
  deriving DecidableEq

structure SwitchPlanRecord where
  channel : String
  targetVersion : String
  artifactKind : String
  artifactPath : String
  targetInstallRoot : FilePath
  serviceWindowStatus : String
  plannedAtMillis : ℕ
  deriving DecidableEq

structure SwitchExecutionRecord where
  channel : String
  targetVersion : String
  artifactKind : String
  sourceArtifactPath : FilePath
  appliedArtifactPath : FilePath
  targetInstallRoot : FilePath
  executedAtMillis : ℕ
  deriving DecidableEq

structure InstallActionPlanRecord where
  channel : String
  targetVersion : String
  artifactKind : String
  targetMode : String
  stagedArtifactPath : FilePath
  targetInstallPath : FilePath
  backupPath : FilePath
  strategy : String
  plannedAtMillis : ℕ
  deriving DecidableEq

structure InstallExecutionRecord where
  channel : String
  targetVersion : String
  targetMode : String
  targetInstallPath : FilePath
  backupPath : FilePath
  stagedArtifactPath : FilePath
  executedAtMillis : ℕ
  deriving DecidableEq

inductive UpdateRecord where
  | pendingUpdate (plan : PendingUpdatePlan)
  | rollback (metadata : RollbackMetadata)
  | appliedUpdate (record : AppliedUpdateRecord)
  | installedVersion (record : InstalledVersionRecord)
  | switchPlan (record : SwitchPlanRecord)
  | switchExecution (record : SwitchExecutionRecord)
  | installAction (plan : InstallActionPlanRecord)
  | installExecution (record : InstallExecutionRecord)
  deriving DecidableEq

/-- What a file holds: a record as the updater writes it, which reads back as that record, or any
other bytes. -/
inductive UpdateFile where
  | record (written : UpdateRecord)
  | data (bytes : Bytes)
  deriving DecidableEq

/-- The signatures, the JSON of the records, and the system the updater runs on. -/
structure UpdaterEnv extends SigningEnv where
  toStringPretty : UpdateRecord → Bytes
  parsePendingUpdatePlan : Bytes → Option PendingUpdatePlan
  parseInstalledVersionRecord : Bytes → Option InstalledVersionRecord
  parseInstallActionPlan : Bytes → Option InstallActionPlanRecord
  debugAssertions : Bool
  /-- The install root that the environment of the process gives. -/
  installRootForCurrentPlatform : FilePath
  /-- The same with the override for the installed layout. -/
  defaultInstallRootPath : FilePath

section Files

variable (env : UpdaterEnv)

def UpdateFile.bytes : UpdateFile → Bytes
  | .record written => env.toStringPretty written
  | .data other => other

/-- The tree as the bytes that its files hold. -/
def fileBytes (files : FileTree UpdateFile) : FileTree Bytes :=
  fun path => (files path).map (UpdateFile.bytes env)

theorem fileBytes_of_data {files : FileTree UpdateFile} {path : FilePath} {bytes : Bytes}
    (h : files path = some (.data bytes)) : fileBytes env files path = some bytes := by
  rw [fileBytes, h]
  rfl

def loadPendingUpdatePlan (files : FileTree UpdateFile) (path : FilePath) :
    Option PendingUpdatePlan :=
  match files path with
  | some (.record (.pendingUpdate plan)) => some plan
  | some (.data bytes) => env.parsePendingUpdatePlan bytes
  | _ => none

def loadInstalledVersionRecord (files : FileTree UpdateFile) (path : FilePath) :
    Option InstalledVersionRecord :=
  match files path with
  | some (.record (.installedVersion record)) => some record
  | some (.data bytes) => env.parseInstalledVersionRecord bytes
  | _ => none

def loadInstallActionPlan (files : FileTree UpdateFile) (path : FilePath) :
    Option InstallActionPlanRecord :=
  match files path with
  | some (.record (.installAction plan)) => some plan
  | some (.data bytes) => env.parseInstallActionPlan bytes
  | _ => none

end Files

def pendingUpdatePlanPath (updateDir : FilePath) : FilePath := updateDir.child "pending-update.json"
def rollbackMetadataPath (updateDir : FilePath) : FilePath := updateDir.child "rollback.json"
def appliedUpdateRecordPath (updateDir : FilePath) : FilePath :=
  updateDir.child "applied-update.json"
def installedVersionRecordPath (updateDir : FilePath) : FilePath :=
  updateDir.child "installed-version.json"
def switchPlanPath (updateDir : FilePath) : FilePath := updateDir.child "switch-plan.json"
def switchExecutionRecordPath (updateDir : FilePath) : FilePath :=
  updateDir.child "switch-executed.json"
def installActionPlanPath (updateDir : FilePath) : FilePath :=
  updateDir.child "install-action.json"
def installExecutionRecordPath (updateDir : FilePath) : FilePath :=
  updateDir.child "install-executed.json"
def appliedArtifactDir (updateDir : FilePath) : FilePath := updateDir.child "current"
def stagedArtifactDir (updateDir : FilePath) : FilePath := updateDir.child "staged"

/-! ## Selecting and naming the artifact -/

def currentPlatformLabel : String := "windows"
def preferredKindForCurrentPlatform : String := "msi"

def selectReleaseArtifact (manifest : ReleaseManifest) : Option ReleaseArtifact :=
  (manifest.artifacts.find? fun artifact =>
    artifact.platform = currentPlatformLabel ∧
      artifact.kind = preferredKindForCurrentPlatform).or
    (manifest.artifacts.find? fun artifact => artifact.platform = currentPlatformLabel)

def resolveArtifactSourcePath (manifestPath : FilePath) (artifactPath : String) : FilePath :=
  let artifact := FilePath.ofText artifactPath
  if artifact.isAbsolute then artifact
  else (manifestPath.parent.getD (.ofText ".")).join artifact

def artifactFileName (path : FilePath) : String := path.fileName.getD "artifact.bin"

def resolveTargetInstallPath (targetInstallRoot : FilePath) (artifactKind : String)
    (appliedArtifactPath : FilePath) : FilePath :=
  if artifactKind = "msi" ∨ artifactKind = "exe" then targetInstallRoot.child "pole-node.exe"
  else if artifactKind = "zip" then
    targetInstallRoot.child (artifactFileName appliedArtifactPath)
  else targetInstallRoot.child "artifact.bin"

def overrideTargetPath (overrideRoot plannedTargetPath : FilePath) : FilePath :=
  overrideRoot.child (artifactFileName plannedTargetPath)

def buildInstallActionPlan (switchExecution : SwitchExecutionRecord) : InstallActionPlanRecord :=
  let targetInstallPath :=
    resolveTargetInstallPath switchExecution.targetInstallRoot switchExecution.artifactKind
      switchExecution.appliedArtifactPath
  { channel := switchExecution.channel
    targetVersion := switchExecution.targetVersion
    artifactKind := switchExecution.artifactKind
    targetMode := "switch_execution"
    stagedArtifactPath := switchExecution.appliedArtifactPath
    targetInstallPath
    backupPath := targetInstallPath.withSuffix ".bak"
    strategy := "copy_then_swap"
    plannedAtMillis := switchExecution.executedAtMillis }

/-! ## The service window -/

inductive ManagedServiceStatus where
  | notInstalled
  | stopped
  | starting (pid : Option ℕ)
  | running (pid : Option ℕ)
  | failed (lastError : String)
  deriving DecidableEq

/-- The process that the first line of the pid file names. -/
def daemonPid (files : FileTree Bytes) (dataDir : FilePath) : Option ℕ := do
  let content ← (readText files (dataDir.child "daemon.pid")).toOption
  let line ← (textLines content).head?
  parseUnsigned 32 (trim line)

def serviceWindowStatus (files : FileTree Bytes) (updateDir : FilePath)
    (managedStatus : Option ManagedServiceStatus) (processIsRunning : ℕ → Bool) : String :=
  match managedStatus with
  | some (.running _) => "service_window_required"
  | some (.starting _) => "service_window_required"
  | some (.failed _) => "service_window_required"
  | _ =>
      match updateDir.parent with
      | none => "safe_now"
      | some dataDir =>
          match daemonPid files dataDir with
          | none => "safe_now"
          | some pid => if processIsRunning pid then "service_window_required" else "safe_now"

/-! ## The calls -/

structure UpdateExecutionResult where
  action : String
  channel : String
  status : String
  targetVersion : Option String
  deriving DecidableEq

/-- What a call does: the files it leaves, its result, and the artifact it copied last. -/
structure UpdateOutcome where
  files : FileTree UpdateFile
  result : Except UpdateError UpdateExecutionResult
  copied : Option UpdateFile

/-- A call that stops before it copies an artifact. -/
def UpdateOutcome.stopped (files : FileTree UpdateFile) (action channel status : String)
    (targetVersion : Option String) : UpdateOutcome :=
  ⟨files, .ok ⟨action, channel, status, targetVersion⟩, none⟩

namespace UpdateOutcome

/-- The call reports the status. -/
def Reports (outcome : UpdateOutcome) (status : String) : Prop :=
  outcome.result.toOption.map (·.status) = some status

instance (outcome : UpdateOutcome) (status : String) : Decidable (outcome.Reports status) :=
  inferInstanceAs (Decidable (_ = _))

theorem not_reports_stopped {files : FileTree UpdateFile} {action channel status other : String}
    {targetVersion : Option String} (h : status ≠ other) :
    ¬ (stopped files action channel status targetVersion).Reports other :=
  fun hreports => h (Option.some.inj hreports)

theorem not_reports_error {files : FileTree UpdateFile} {e : UpdateError} {status : String} :
    ¬ (UpdateOutcome.mk files (.error e) none).Reports status := nofun

end UpdateOutcome

section Calls

variable (env : UpdaterEnv) (updateDir : FilePath)

/-- Copy the artifact and record the plan and the way back. -/
def stageArtifact (files : FileTree UpdateFile) (currentVersion channel : String)
    (manifestPath : FilePath) (manifest : ReleaseManifest) (artifact : ReleaseArtifact)
    (content : UpdateFile) (now : ℕ) : UpdateOutcome :=
  let stagedArtifactPath := (stagedArtifactDir updateDir).child
    (artifactFileName (resolveArtifactSourcePath manifestPath artifact.path))
  let pending : PendingUpdatePlan :=
    { channel := manifest.channel
      targetVersion := manifest.version
      manifestPath
      artifactCount := manifest.artifacts.length
      artifactKind := artifact.kind
      artifactPath := artifact.path
      stagedArtifactPath
      stagedAtMillis := now }
  let rollback : RollbackMetadata :=
    { previousVersion := currentVersion
      channel
      manifestPath
      recordedAtMillis := now }
  let files := files.write stagedArtifactPath content
  let files := files.write (pendingUpdatePlanPath updateDir) (.record (.pendingUpdate pending))
  { files := files.write (rollbackMetadataPath updateDir) (.record (.rollback rollback))
    result := .ok ⟨"stage", pending.channel, "staged", some pending.targetVersion⟩
    copied := some content }

def effectiveCurrentVersion (files : FileTree UpdateFile) (currentVersion : String) : String :=
  ((loadInstalledVersionRecord env files (installedVersionRecordPath updateDir)).map
    (·.version)).getD currentVersion

def stageVerified (files : FileTree UpdateFile) (currentVersion channel : String)
    (manifestPath : FilePath) (manifest : ReleaseManifest) (now : ℕ) : UpdateOutcome :=
  if versionIsNewer manifest.version
      (effectiveCurrentVersion env updateDir files currentVersion) = false then
    .stopped files "stage" channel "up_to_date" (some manifest.version)
  else
    match selectReleaseArtifact manifest with
    | none => .stopped files "stage" channel "no_compatible_artifact" (some manifest.version)
    | some artifact =>
        match files (resolveArtifactSourcePath manifestPath artifact.path) with
        | none => .stopped files "stage" channel "artifact_missing" (some manifest.version)
        | some content =>
            stageArtifact updateDir files currentVersion channel manifestPath manifest artifact
              content now

def stageUpdate (files : FileTree UpdateFile) (currentVersion channel : String)
    (releaseManifestDir : FilePath) (now : ℕ) : UpdateOutcome :=
  let manifestPath := releaseManifestPath releaseManifestDir channel
  let bytes := fileBytes env files
  match loadReleaseManifest env.toSigningEnv bytes manifestPath with
  | .error e => ⟨files, .error e, none⟩
  | .ok manifest =>
      match verifyReleaseManifestSignature env.toSigningEnv env.debugAssertions bytes manifest
          manifestPath with
      | .error e => ⟨files, .error e, none⟩
      | .ok .verified =>
          stageVerified env updateDir files currentVersion channel manifestPath manifest now
      | .ok verification =>
          .stopped files "stage" channel verification.statusLabel (some manifest.version)

section Stage

variable {env updateDir} {files : FileTree UpdateFile} {currentVersion channel : String}
  {releaseManifestDir : FilePath} {now : ℕ}

theorem stageUpdate_of {manifest : ReleaseManifest} {artifact : ReleaseArtifact}
    {content : UpdateFile}
    (hload : loadReleaseManifest env.toSigningEnv (fileBytes env files)
      (releaseManifestPath releaseManifestDir channel) = .ok manifest)
    (hverify : verifyReleaseManifestSignature env.toSigningEnv env.debugAssertions
      (fileBytes env files) manifest (releaseManifestPath releaseManifestDir channel) =
        .ok .verified)
    (hnewer : versionIsNewer manifest.version
      (effectiveCurrentVersion env updateDir files currentVersion) = true)
    (hselect : selectReleaseArtifact manifest = some artifact)
    (hsource : files (resolveArtifactSourcePath (releaseManifestPath releaseManifestDir channel)
      artifact.path) = some content) :
    stageUpdate env updateDir files currentVersion channel releaseManifestDir now =
      stageArtifact updateDir files currentVersion channel
        (releaseManifestPath releaseManifestDir channel) manifest artifact content now := by
  unfold stageUpdate
  dsimp only
  rw [hload]
  dsimp only
  rw [hverify]
  dsimp only
  rw [stageVerified, if_neg (by simp [hnewer]), hselect]
  dsimp only
  rw [hsource]

theorem stageArtifact_reports {manifestPath : FilePath} {manifest : ReleaseManifest}
    {artifact : ReleaseArtifact} {content : UpdateFile} :
    (stageArtifact updateDir files currentVersion channel manifestPath manifest artifact content
      now).Reports "staged" := rfl

/-- Staging changes nothing and does not report it, or it has all that it takes. -/
theorem stageUpdate_cases (env : UpdaterEnv) (updateDir : FilePath) (files : FileTree UpdateFile)
    (currentVersion channel : String) (releaseManifestDir : FilePath) (now : ℕ) :
    ((stageUpdate env updateDir files currentVersion channel releaseManifestDir now).files =
        files ∧
      ¬ (stageUpdate env updateDir files currentVersion channel releaseManifestDir now).Reports
        "staged") ∨
    ∃ manifest artifact content,
      loadReleaseManifest env.toSigningEnv (fileBytes env files)
          (releaseManifestPath releaseManifestDir channel) = .ok manifest ∧
        verifyReleaseManifestSignature env.toSigningEnv env.debugAssertions (fileBytes env files)
          manifest (releaseManifestPath releaseManifestDir channel) = .ok .verified ∧
        versionIsNewer manifest.version
          (effectiveCurrentVersion env updateDir files currentVersion) = true ∧
        selectReleaseArtifact manifest = some artifact ∧
        files (resolveArtifactSourcePath (releaseManifestPath releaseManifestDir channel)
          artifact.path) = some content := by
  have hstopped : ∀ status targetVersion, status ≠ "staged" →
      (UpdateOutcome.stopped files "stage" channel status targetVersion).files = files ∧
        ¬ (UpdateOutcome.stopped files "stage" channel status targetVersion).Reports "staged" :=
    fun _ _ hstatus => ⟨rfl, UpdateOutcome.not_reports_stopped hstatus⟩
  unfold stageUpdate
  dsimp only
  cases hload : loadReleaseManifest env.toSigningEnv (fileBytes env files)
      (releaseManifestPath releaseManifestDir channel) with
  | error e => exact Or.inl ⟨rfl, UpdateOutcome.not_reports_error⟩
  | ok manifest =>
      dsimp only
      cases hverify : verifyReleaseManifestSignature env.toSigningEnv env.debugAssertions
          (fileBytes env files) manifest (releaseManifestPath releaseManifestDir channel) with
      | error e => exact Or.inl ⟨rfl, UpdateOutcome.not_reports_error⟩
      | ok verification =>
          cases verification with
          | missing => exact Or.inl (hstopped _ _ (by decide))
          | invalid => exact Or.inl (hstopped _ _ (by decide))
          | verified =>
              dsimp only
              unfold stageVerified
              by_cases hnewer : versionIsNewer manifest.version
                  (effectiveCurrentVersion env updateDir files currentVersion) = true
              · rw [if_neg (by simp [hnewer])]
                cases hselect : selectReleaseArtifact manifest with
                | none => exact Or.inl (hstopped _ _ (by decide))
                | some artifact =>
                    dsimp only
                    cases hsource : files (resolveArtifactSourcePath
                        (releaseManifestPath releaseManifestDir channel) artifact.path) with
                    | none => exact Or.inl (hstopped _ _ (by decide))
                    | some content =>
                        exact Or.inr ⟨manifest, artifact, content, rfl, hverify, hnewer, hselect,
                          hsource⟩
              · rw [if_pos (by simpa using hnewer)]
                exact Or.inl (hstopped _ _ (by decide))

end Stage

def applyPending (files : FileTree UpdateFile) (pending : PendingUpdatePlan)
    (targetInstallRoot : FilePath) (content : UpdateFile) (now : ℕ) : UpdateOutcome :=
  let applied : AppliedUpdateRecord :=
    { channel := pending.channel
      targetVersion := pending.targetVersion
      manifestPath := pending.manifestPath
      artifactKind := pending.artifactKind
      artifactPath := pending.artifactPath
      appliedAtMillis := now }
  let appliedArtifactPath :=
    (appliedArtifactDir updateDir).child (artifactFileName pending.stagedArtifactPath)
  let switchExecution : SwitchExecutionRecord :=
    { channel := applied.channel
      targetVersion := applied.targetVersion
      artifactKind := applied.artifactKind
      sourceArtifactPath := pending.stagedArtifactPath
      appliedArtifactPath
      targetInstallRoot
      executedAtMillis := now }
  let installed : InstalledVersionRecord :=
    { version := applied.targetVersion
      channel := applied.channel
      recordedAtMillis := now }
  let files := files.write appliedArtifactPath content
  let files := files.write (appliedUpdateRecordPath updateDir) (.record (.appliedUpdate applied))
  let files := files.write (switchExecutionRecordPath updateDir)
    (.record (.switchExecution switchExecution))
  let files := files.write (installActionPlanPath updateDir)
    (.record (.installAction (buildInstallActionPlan switchExecution)))
  let files := files.write (installedVersionRecordPath updateDir)
    (.record (.installedVersion installed))
  { files := files.remove (pendingUpdatePlanPath updateDir)
    result := .ok ⟨"apply", applied.channel, "applied", some applied.targetVersion⟩
    copied := some content }

def applyUpdateWithStatus (files : FileTree UpdateFile)
    (managedStatus : Option ManagedServiceStatus) (processIsRunning : ℕ → Bool) (now : ℕ) :
    UpdateOutcome :=
  match loadPendingUpdatePlan env files (pendingUpdatePlanPath updateDir) with
  | none => .stopped files "apply" "stable" "no_pending_update" none
  | some pending =>
      let switchPlan : SwitchPlanRecord :=
        { channel := pending.channel
          targetVersion := pending.targetVersion
          artifactKind := pending.artifactKind
          artifactPath := pending.artifactPath
          targetInstallRoot := env.installRootForCurrentPlatform
          serviceWindowStatus :=
            serviceWindowStatus (fileBytes env files) updateDir managedStatus processIsRunning
          plannedAtMillis := now }
      let files := files.write (switchPlanPath updateDir) (.record (.switchPlan switchPlan))
      if switchPlan.serviceWindowStatus ≠ "safe_now" then
        .stopped files "apply" pending.channel switchPlan.serviceWindowStatus
          (some pending.targetVersion)
      else
        match files pending.stagedArtifactPath with
        | none =>
            .stopped files "apply" pending.channel "artifact_missing" (some pending.targetVersion)
        | some content =>
            applyPending updateDir files pending switchPlan.targetInstallRoot content now

theorem serviceWindowStatus_cases (files : FileTree Bytes) (updateDir : FilePath)
    (managedStatus : Option ManagedServiceStatus) (processIsRunning : ℕ → Bool) :
    serviceWindowStatus files updateDir managedStatus processIsRunning = "safe_now" ∨
      serviceWindowStatus files updateDir managedStatus processIsRunning =
        "service_window_required" := by
  unfold serviceWindowStatus
  split
  · exact Or.inr rfl
  · exact Or.inr rfl
  · exact Or.inr rfl
  · split
    · exact Or.inl rfl
    · split
      · exact Or.inl rfl
      · split
        · exact Or.inr rfl
        · exact Or.inl rfl

/-- Applying reports nothing and at most writes the switch plan, or it applies the pending plan. -/
theorem applyUpdateWithStatus_cases (files : FileTree UpdateFile)
    (managedStatus : Option ManagedServiceStatus) (processIsRunning : ℕ → Bool) (now : ℕ) :
    (¬ (applyUpdateWithStatus env updateDir files managedStatus processIsRunning now).Reports
        "applied" ∧
      ((applyUpdateWithStatus env updateDir files managedStatus processIsRunning now).files =
          files ∨
        ∃ switchPlan,
          (applyUpdateWithStatus env updateDir files managedStatus processIsRunning now).files =
            files.write (switchPlanPath updateDir) (.record (.switchPlan switchPlan)))) ∨
    ∃ pending switchPlan content,
      loadPendingUpdatePlan env files (pendingUpdatePlanPath updateDir) = some pending ∧
        files.write (switchPlanPath updateDir) (.record (.switchPlan switchPlan))
          pending.stagedArtifactPath = some content ∧
        applyUpdateWithStatus env updateDir files managedStatus processIsRunning now =
          applyPending updateDir
            (files.write (switchPlanPath updateDir) (.record (.switchPlan switchPlan))) pending
            env.installRootForCurrentPlatform content now := by
  unfold applyUpdateWithStatus
  cases hload : loadPendingUpdatePlan env files (pendingUpdatePlanPath updateDir) with
  | none => exact Or.inl ⟨UpdateOutcome.not_reports_stopped (by decide), Or.inl rfl⟩
  | some pending =>
      dsimp only
      by_cases hsafe : serviceWindowStatus (fileBytes env files) updateDir managedStatus
          processIsRunning = "safe_now"
      · rw [if_neg (not_not.mpr hsafe)]
        split
        · exact Or.inl ⟨UpdateOutcome.not_reports_stopped (by decide), Or.inr ⟨_, rfl⟩⟩
        · next content hcontent => exact Or.inr ⟨pending, _, content, rfl, hcontent, rfl⟩
      · have hrequired := (serviceWindowStatus_cases (fileBytes env files) updateDir managedStatus
          processIsRunning).resolve_left hsafe
        rw [if_pos hsafe, hrequired]
        exact Or.inl ⟨UpdateOutcome.not_reports_stopped (by decide), Or.inr ⟨_, rfl⟩⟩

def applyUpdate (files : FileTree UpdateFile) (processIsRunning : ℕ → Bool) (now : ℕ) :
    UpdateOutcome :=
  applyUpdateWithStatus env updateDir files none processIsRunning now

theorem applyPending_reports {files : FileTree UpdateFile} {pending : PendingUpdatePlan}
    {targetInstallRoot : FilePath} {content : UpdateFile} {now : ℕ} :
    (applyPending updateDir files pending targetInstallRoot content now).Reports "applied" := rfl

/-- Where to install to, as the caller of the last step has it. -/
structure InstallOptions where
  installRootOverride : Option FilePath
  installedLayoutRootOverride : Option FilePath
  useInstalledLayout : Bool
  allowSystemInstallWrite : Bool
  deriving DecidableEq

/-- The root to install to and how it was chosen, or the status of a call that has none. -/
def installTargetRoot (options : InstallOptions) : Except String (FilePath × String) :=
  match options.installRootOverride with
  | some overrideRoot => .ok (overrideRoot, "override_root")
  | none =>
      if options.useInstalledLayout then
        match options.installedLayoutRootOverride with
        | some layoutRoot => .ok (layoutRoot, "installed_layout_override")
        | none =>
            if options.allowSystemInstallWrite = false then
              .error "installed_layout_requires_explicit_write"
            else .ok (env.defaultInstallRootPath, "installed_layout")
      else .error "install_root_required"

/-- Keep what is installed as a backup. -/
def backUp (files : FileTree UpdateFile) (targetInstallPath backupPath : FilePath) :
    FileTree UpdateFile :=
  match files targetInstallPath with
  | some existing => files.write backupPath existing
  | none => files

/-- Copy the applied artifact to the root and record the execution. -/
def installTo (files : FileTree UpdateFile) (installAction : InstallActionPlanRecord)
    (targetRoot : FilePath) (targetMode : String) (now : ℕ) : UpdateOutcome :=
  let targetInstallPath := overrideTargetPath targetRoot installAction.targetInstallPath
  let backupPath := targetInstallPath.withSuffix ".bak"
  let files := backUp files targetInstallPath backupPath
  match files installAction.stagedArtifactPath with
  | none => ⟨files, .error .io, none⟩
  | some content =>
      let files := files.write targetInstallPath content
      let execution : InstallExecutionRecord :=
        { channel := installAction.channel
          targetVersion := installAction.targetVersion
          targetMode
          targetInstallPath
          backupPath
          stagedArtifactPath := installAction.stagedArtifactPath
          executedAtMillis := now }
      { files := files.write (installExecutionRecordPath updateDir)
          (.record (.installExecution execution))
        result := .ok ⟨"commit-install", installAction.channel, "install_executed",
          some installAction.targetVersion⟩
        copied := some content }

def executeInstallAction (files : FileTree UpdateFile) (options : InstallOptions) (now : ℕ) :
    UpdateOutcome :=
  match loadInstallActionPlan env files (installActionPlanPath updateDir) with
  | none => .stopped files "commit-install" "stable" "no_install_action" none
  | some installAction =>
      match installTargetRoot env options with
      | .error status =>
          .stopped files "commit-install" installAction.channel status
            (some installAction.targetVersion)
      | .ok (targetRoot, targetMode) =>
          installTo updateDir files installAction targetRoot targetMode now

variable {env} in
theorem installTargetRoot_error {options : InstallOptions} {status : String}
    (h : installTargetRoot env options = .error status) :
    status = "installed_layout_requires_explicit_write" ∨ status = "install_root_required" := by
  unfold installTargetRoot at h
  split at h
  · cases h
  · split at h
    · split at h
      · cases h
      · split at h
        · cases h
          exact Or.inl rfl
        · cases h
    · cases h
      exact Or.inr rfl

end Calls

end PoleProtocol.Node
