import PoleProtocol.Node.Updater

/-!
# Rolling an update back

The rollback removes what the update left in the update directory, puts the backup of the installed
file back, and records the version that was noted when the update was staged.
-/

namespace PoleProtocol.Node

open Framework Ledger

/-- The updater with the records that only the rollback reads. -/
structure RollbackEnv extends UpdaterEnv where
  parseRollbackMetadata : Bytes → Option RollbackMetadata
  parseSwitchExecutionRecord : Bytes → Option SwitchExecutionRecord
  parseInstallExecutionRecord : Bytes → Option InstallExecutionRecord

section Rollback

variable (env : RollbackEnv)

def loadRollbackMetadata (files : FileTree UpdateFile) (path : FilePath) :
    Option RollbackMetadata :=
  match files path with
  | some (.record (.rollback metadata)) => some metadata
  | some (.data bytes) => env.parseRollbackMetadata bytes
  | _ => none

def loadSwitchExecutionRecord (files : FileTree UpdateFile) (path : FilePath) :
    Option SwitchExecutionRecord :=
  match files path with
  | some (.record (.switchExecution record)) => some record
  | some (.data bytes) => env.parseSwitchExecutionRecord bytes
  | _ => none

def loadInstallExecutionRecord (files : FileTree UpdateFile) (path : FilePath) :
    Option InstallExecutionRecord :=
  match files path with
  | some (.record (.installExecution record)) => some record
  | some (.data bytes) => env.parseInstallExecutionRecord bytes
  | _ => none

variable (updateDir : FilePath)

/-- Remove the applied artifact that the record of the switch names. -/
def removeAppliedArtifact (files : FileTree UpdateFile) : FileTree UpdateFile :=
  match loadSwitchExecutionRecord env files (switchExecutionRecordPath updateDir) with
  | some record => files.remove record.appliedArtifactPath
  | none => files

/-- Remove what the update left in its directory, except the record of the installation. -/
def clearUpdate (files : FileTree UpdateFile) : FileTree UpdateFile :=
  let files := files.remove (pendingUpdatePlanPath updateDir)
  let files := files.removeDirAll (stagedArtifactDir updateDir)
  let files := files.remove (appliedUpdateRecordPath updateDir)
  let files := files.remove (rollbackMetadataPath updateDir)
  let files := files.remove (switchPlanPath updateDir)
  let files :=
    (removeAppliedArtifact env updateDir files).remove (switchExecutionRecordPath updateDir)
  files.remove (installActionPlanPath updateDir)

/-- Remove the file that the record of the installation names as installed; its backup, where there
is one, takes its place. -/
def restoreBackup (files : FileTree UpdateFile) : FileTree UpdateFile :=
  match loadInstallExecutionRecord env files (installExecutionRecordPath updateDir) with
  | some record =>
      let files := files.remove record.targetInstallPath
      match files record.backupPath with
      | some backup => (files.write record.targetInstallPath backup).remove record.backupPath
      | none => files
  | none => files

def rollbackUpdate (files : FileTree UpdateFile) (now : ℕ) : UpdateOutcome :=
  match loadRollbackMetadata env files (rollbackMetadataPath updateDir) with
  | none => .stopped files "rollback" "stable" "no_rollback_available" none
  | some rollback =>
      let files := clearUpdate env updateDir files
      let files :=
        (restoreBackup env updateDir files).remove (installExecutionRecordPath updateDir)
      let installed : InstalledVersionRecord :=
        { version := rollback.previousVersion
          channel := rollback.channel
          recordedAtMillis := now }
      { files := files.write (installedVersionRecordPath updateDir)
          (.record (.installedVersion installed))
        result := .ok ⟨"rollback", rollback.channel, "rolled_back", some rollback.previousVersion⟩
        copied := none }

end Rollback

end PoleProtocol.Node
