import PoleProtocol.Framework.Run
import PoleProtocol.Node.SignedReleases

/-!
# What gets installed

The signature of a release covers its manifest, which lists a hash and a size for each artifact.
No call compares an artifact with them. What is copied is what the manifest lists as long as the
artifact of the release is, and the records and copies in the update directory are left alone
between the calls.
-/

namespace PoleProtocol.Node

open Framework Ledger

/-! ## Runs of the updater -/

inductive UpdateStep where
  /-- Whatever else happens to the files. -/
  | change (files : FileTree UpdateFile)
  | stage (currentVersion channel : String) (releaseManifestDir : FilePath) (now : ℕ)
  | apply (managedStatus : Option ManagedServiceStatus) (processIsRunning : ℕ → Bool) (now : ℕ)
  | install (options : InstallOptions) (now : ℕ)

/-- The files, and what the verified manifests list for the artifact that was staged last and for
the one that was applied last. -/
structure UpdaterState where
  files : FileTree UpdateFile
  staged : Option ReleaseArtifact
  applied : Option ReleaseArtifact

/-- There are no files yet. -/
def UpdaterState.fresh : UpdaterState := ⟨.empty, none, none⟩

section Runs

variable (env : UpdaterEnv) (sha256Hex : Bytes → String) (updateDir : FilePath)

/-- The content has the hash and the size of the artifact. -/
def Listed (artifact : ReleaseArtifact) (content : UpdateFile) : Prop :=
  sha256Hex (content.bytes env) = artifact.sha256 ∧
    (content.bytes env).length = artifact.sizeBytes

/-- The artifact that staging the channel selects. -/
def channelArtifact (files : FileTree UpdateFile) (channel : String)
    (releaseManifestDir : FilePath) : Option ReleaseArtifact :=
  match loadReleaseManifest env.toSigningEnv (fileBytes env files)
      (releaseManifestPath releaseManifestDir channel) with
  | .ok manifest => selectReleaseArtifact manifest
  | .error _ => none

def updateNext (s : UpdaterState) : UpdateStep → UpdaterState
  | .change files => { s with files }
  | .stage currentVersion channel releaseManifestDir now =>
      let outcome :=
        stageUpdate env updateDir s.files currentVersion channel releaseManifestDir now
      { s with
        files := outcome.files
        staged :=
          if outcome.Reports "staged" then channelArtifact env s.files channel releaseManifestDir
          else s.staged }
  | .apply managedStatus processIsRunning now =>
      let outcome :=
        applyUpdateWithStatus env updateDir s.files managedStatus processIsRunning now
      { s with
        files := outcome.files
        applied := if outcome.Reports "applied" then s.staged else s.applied }
  | .install options now =>
      { s with files := (executeInstallAction env updateDir s.files options now).files }

/-- If the call reports the status, it copied what is listed. -/
def CopiesListed (outcome : UpdateOutcome) (status : String) (listed : Option ReleaseArtifact) :
    Prop :=
  outcome.Reports status →
    ∃ artifact content, listed = some artifact ∧ outcome.copied = some content ∧
      Listed env sha256Hex artifact content

/-- Staged, applied or installed bytes are those that the verified manifest lists. -/
def ReportsListed (s : UpdaterState) : UpdateStep → Prop
  | .change _ => True
  | .stage currentVersion channel releaseManifestDir now =>
      CopiesListed env sha256Hex
        (stageUpdate env updateDir s.files currentVersion channel releaseManifestDir now) "staged"
        (channelArtifact env s.files channel releaseManifestDir)
  | .apply managedStatus processIsRunning now =>
      CopiesListed env sha256Hex
        (applyUpdateWithStatus env updateDir s.files managedStatus processIsRunning now) "applied"
        s.staged
  | .install options now =>
      CopiesListed env sha256Hex (executeInstallAction env updateDir s.files options now)
        "install_executed" s.applied

/-! ## The chain of copies -/

/-- The file that the pending plan names. -/
def pendingSource (files : FileTree UpdateFile) : Option FilePath :=
  (loadPendingUpdatePlan env files (pendingUpdatePlanPath updateDir)).map (·.stagedArtifactPath)

/-- The file that the planned install action names. -/
def actionSource (files : FileTree UpdateFile) : Option FilePath :=
  (loadInstallActionPlan env files (installActionPlanPath updateDir)).map (·.stagedArtifactPath)

/-- A named file lies in the directory of its copies, and what it holds is listed. -/
def SourceListed (source : Option FilePath) (directory : FilePath)
    (listed : Option ReleaseArtifact) (files : FileTree UpdateFile) : Prop :=
  ∀ path, source = some path →
    ∃ artifact name, listed = some artifact ∧ path = directory.child name ∧
      ∀ content, files path = some content → Listed env sha256Hex artifact content

/-- Both records name copies with the listed bytes. -/
structure ChainIntact (s : UpdaterState) : Prop where
  pending : SourceListed env sha256Hex (pendingSource env updateDir s.files)
    (stagedArtifactDir updateDir) s.staged s.files
  action : SourceListed env sha256Hex (actionSource env updateDir s.files)
    (appliedArtifactDir updateDir) s.applied s.files

/-- The two records and the files they name. -/
def ChainFile (files : FileTree UpdateFile) (path : FilePath) : Prop :=
  path = pendingUpdatePlanPath updateDir ∨ path = installActionPlanPath updateDir ∨
    pendingSource env updateDir files = some path ∨ actionSource env updateDir files = some path

/-- A change leaves the chain intact, a staged release has the listed artifact, and an install
writes to no file of the chain. -/
def KeepsChain (s : UpdaterState) : UpdateStep → Prop
  | .change files => ChainIntact env sha256Hex updateDir { s with files }
  | .stage currentVersion channel releaseManifestDir _ =>
      ∀ manifest artifact content,
        loadReleaseManifest env.toSigningEnv (fileBytes env s.files)
            (releaseManifestPath releaseManifestDir channel) = .ok manifest →
        verifyReleaseManifestSignature env.toSigningEnv env.debugAssertions
            (fileBytes env s.files) manifest (releaseManifestPath releaseManifestDir channel) =
          .ok .verified →
        versionIsNewer manifest.version
            (effectiveCurrentVersion env updateDir s.files currentVersion) = true →
        selectReleaseArtifact manifest = some artifact →
        s.files (resolveArtifactSourcePath (releaseManifestPath releaseManifestDir channel)
          artifact.path) = some content →
        Listed env sha256Hex artifact content
  | .apply _ _ _ => True
  | .install options _ =>
      ∀ action root mode,
        loadInstallActionPlan env s.files (installActionPlanPath updateDir) = some action →
        installTargetRoot env options = .ok (root, mode) →
        ¬ ChainFile env updateDir s.files (overrideTargetPath root action.targetInstallPath) ∧
          ¬ ChainFile env updateDir s.files
            ((overrideTargetPath root action.targetInstallPath).withSuffix ".bak")

variable {env sha256Hex updateDir}

theorem pendingSource_congr {files files' : FileTree UpdateFile}
    (h : files' (pendingUpdatePlanPath updateDir) = files (pendingUpdatePlanPath updateDir)) :
    pendingSource env updateDir files' = pendingSource env updateDir files := by
  unfold pendingSource loadPendingUpdatePlan
  rw [h]

theorem actionSource_congr {files files' : FileTree UpdateFile}
    (h : files' (installActionPlanPath updateDir) = files (installActionPlanPath updateDir)) :
    actionSource env updateDir files' = actionSource env updateDir files := by
  unfold actionSource loadInstallActionPlan
  rw [h]

theorem pendingSource_write (files : FileTree UpdateFile) (plan : PendingUpdatePlan) :
    pendingSource env updateDir
        (files.write (pendingUpdatePlanPath updateDir) (.record (.pendingUpdate plan))) =
      some plan.stagedArtifactPath := by
  unfold pendingSource loadPendingUpdatePlan
  rw [FileTree.write_same]
  rfl

theorem actionSource_write (files : FileTree UpdateFile) (plan : InstallActionPlanRecord) :
    actionSource env updateDir
        (files.write (installActionPlanPath updateDir) (.record (.installAction plan))) =
      some plan.stagedArtifactPath := by
  unfold actionSource loadInstallActionPlan
  rw [FileTree.write_same]
  rfl

theorem SourceListed.frame {source : Option FilePath} {directory : FilePath}
    {listed : Option ReleaseArtifact} {files files' : FileTree UpdateFile}
    (h : SourceListed env sha256Hex source directory listed files)
    (hsame : ∀ path, source = some path → files' path = files path) :
    SourceListed env sha256Hex source directory listed files' := by
  intro path hpath
  obtain ⟨artifact, name, hlisted, hname, hcontent⟩ := h path hpath
  refine ⟨artifact, name, hlisted, hname, ?_⟩
  rw [hsame path hpath]
  exact hcontent

section Frame

variable {files : FileTree UpdateFile} {staged applied : Option ReleaseArtifact}

/-- Files that are not of the chain may be anything. -/
theorem ChainIntact.frame (h : ChainIntact env sha256Hex updateDir ⟨files, staged, applied⟩)
    {files' : FileTree UpdateFile}
    (hsame : ∀ path, ChainFile env updateDir files path → files' path = files path) :
    ChainIntact env sha256Hex updateDir ⟨files', staged, applied⟩ := by
  have hpending : pendingSource env updateDir files' = pendingSource env updateDir files :=
    pendingSource_congr (hsame _ (Or.inl rfl))
  have haction : actionSource env updateDir files' = actionSource env updateDir files :=
    actionSource_congr (hsame _ (Or.inr (Or.inl rfl)))
  constructor
  · change SourceListed env sha256Hex (pendingSource env updateDir files') _ _ _
    rw [hpending]
    exact h.pending.frame fun path hpath => hsame path (Or.inr (Or.inr (Or.inl hpath)))
  · change SourceListed env sha256Hex (actionSource env updateDir files') _ _ _
    rw [haction]
    exact h.action.frame fun path hpath => hsame path (Or.inr (Or.inr (Or.inr hpath)))

/-- The files of an intact chain are the two records and copies in two directories. -/
theorem ChainIntact.chainFile (h : ChainIntact env sha256Hex updateDir ⟨files, staged, applied⟩)
    {path : FilePath} (hpath : ChainFile env updateDir files path) :
    path = pendingUpdatePlanPath updateDir ∨ path = installActionPlanPath updateDir ∨
      (∃ name, path = (stagedArtifactDir updateDir).child name) ∨
      ∃ name, path = (appliedArtifactDir updateDir).child name := by
  rcases hpath with hplan | haction | hstaged | happlied
  · exact Or.inl hplan
  · exact Or.inr (Or.inl haction)
  · obtain ⟨_, name, _, hname, _⟩ := h.pending path hstaged
    exact Or.inr (Or.inr (Or.inl ⟨name, hname⟩))
  · obtain ⟨_, name, _, hname, _⟩ := h.action path happlied
    exact Or.inr (Or.inr (Or.inr ⟨name, hname⟩))

/-- The other records of the updater are not files of the chain. -/
theorem ChainIntact.write_record
    (h : ChainIntact env sha256Hex updateDir ⟨files, staged, applied⟩) {name : String}
    (content : UpdateFile) (hplan : name ≠ "pending-update.json")
    (haction : name ≠ "install-action.json") :
    ChainIntact env sha256Hex updateDir
      ⟨files.write (updateDir.child name) content, staged, applied⟩ := by
  refine h.frame ?_
  intro path hpath
  refine FileTree.write_of_ne _ _ ?_
  rcases h.chainFile hpath with rfl | rfl | ⟨copy, rfl⟩ | ⟨copy, rfl⟩
  · exact FilePath.child_ne_of_name hplan.symm
  · exact FilePath.child_ne_of_name haction.symm
  · exact FilePath.child_child_ne _ _ _ _
  · exact FilePath.child_child_ne _ _ _ _

theorem staged_ne_applied (name name' : String) :
    (stagedArtifactDir updateDir).child name ≠ (appliedArtifactDir updateDir).child name' := by
  intro hsame
  have hdirectory := (FilePath.child_injective (FilePath.child_injective hsame).1).2
  exact absurd hdirectory (by decide)

/-- A new plan that names a listed copy goes on with the chain. -/
theorem ChainIntact.write_pending
    (h : ChainIntact env sha256Hex updateDir ⟨files, staged, applied⟩)
    {artifact : ReleaseArtifact} {content : UpdateFile}
    (hlisted : Listed env sha256Hex artifact content) {name : String} {plan : PendingUpdatePlan}
    (hplan : plan.stagedArtifactPath = (stagedArtifactDir updateDir).child name) :
    ChainIntact env sha256Hex updateDir
      ⟨(files.write ((stagedArtifactDir updateDir).child name) content).write
        (pendingUpdatePlanPath updateDir) (.record (.pendingUpdate plan)),
        some artifact, applied⟩ := by
  have hrecord : ∀ copy, (stagedArtifactDir updateDir).child copy ≠
      pendingUpdatePlanPath updateDir := fun _ => FilePath.child_child_ne _ _ _ _
  constructor
  · intro path hpath
    change pendingSource env updateDir (FileTree.write _ _ _) = some path at hpath
    rw [pendingSource_write] at hpath
    have hnamed : path = (stagedArtifactDir updateDir).child name :=
      (Option.some.inj hpath).symm.trans hplan
    refine ⟨artifact, name, rfl, hnamed, ?_⟩
    intro held hheld
    dsimp only at hheld
    rw [hnamed, FileTree.write_of_ne _ _ (hrecord name), FileTree.write_same] at hheld
    obtain rfl := Option.some.inj hheld
    exact hlisted
  · have haction : installActionPlanPath updateDir ≠ pendingUpdatePlanPath updateDir :=
      FilePath.child_ne_of_name (by decide)
    have hcopy : installActionPlanPath updateDir ≠ (stagedArtifactDir updateDir).child name :=
      (FilePath.child_child_ne _ _ _ _).symm
    have hsource : actionSource env updateDir
        ((files.write ((stagedArtifactDir updateDir).child name) content).write
          (pendingUpdatePlanPath updateDir) (.record (.pendingUpdate plan))) =
        actionSource env updateDir files := by
      refine actionSource_congr ?_
      rw [FileTree.write_of_ne _ _ haction, FileTree.write_of_ne _ _ hcopy]
    change SourceListed env sha256Hex (actionSource env updateDir _) _ _ _
    rw [hsource]
    refine h.action.frame ?_
    intro path hpath
    obtain ⟨_, copy, _, rfl, _⟩ := h.action path hpath
    dsimp only
    have hplanPath : (appliedArtifactDir updateDir).child copy ≠
        pendingUpdatePlanPath updateDir := FilePath.child_child_ne _ _ _ _
    rw [FileTree.write_of_ne _ _ hplanPath,
      FileTree.write_of_ne _ _ (staged_ne_applied _ _).symm]

end Frame

/-! ## One step -/

/-- Staging starts a new chain from the artifact of the release. -/
theorem ChainIntact.stageArtifact {files : FileTree UpdateFile}
    {staged applied : Option ReleaseArtifact}
    (h : ChainIntact env sha256Hex updateDir ⟨files, staged, applied⟩)
    {artifact : ReleaseArtifact} {content : UpdateFile}
    (hlisted : Listed env sha256Hex artifact content) (currentVersion channel : String)
    (manifestPath : FilePath) (manifest : ReleaseManifest) (now : ℕ) :
    ChainIntact env sha256Hex updateDir
      ⟨(Node.stageArtifact updateDir files currentVersion channel manifestPath manifest artifact
        content now).files, some artifact, applied⟩ :=
  (h.write_pending hlisted rfl).write_record _ (by decide) (by decide)

theorem ChainIntact.stage {s : UpdaterState} (h : ChainIntact env sha256Hex updateDir s)
    (currentVersion channel : String) (releaseManifestDir : FilePath) (now : ℕ)
    (hkeeps : KeepsChain env sha256Hex updateDir s
      (.stage currentVersion channel releaseManifestDir now)) :
    ChainIntact env sha256Hex updateDir
        (updateNext env updateDir s (.stage currentVersion channel releaseManifestDir now)) ∧
      ReportsListed env sha256Hex updateDir s
        (.stage currentVersion channel releaseManifestDir now) := by
  rcases stageUpdate_cases env updateDir s.files currentVersion channel releaseManifestDir now with
    ⟨hfiles, hnone⟩ | ⟨manifest, artifact, content, hload, hverify, hnewer, hselect, hsource⟩
  · refine ⟨?_, fun hreports => absurd hreports hnone⟩
    unfold updateNext
    dsimp only
    rw [if_neg hnone, hfiles]
    exact h
  · have hlisted := hkeeps manifest artifact content hload hverify hnewer hselect hsource
    have hchannel : channelArtifact env s.files channel releaseManifestDir = some artifact := by
      unfold channelArtifact
      rw [hload]
      exact hselect
    have houtcome : stageUpdate env updateDir s.files currentVersion channel releaseManifestDir
        now = _ := stageUpdate_of hload hverify hnewer hselect hsource
    unfold updateNext ReportsListed CopiesListed
    dsimp only
    rw [houtcome, hchannel]
    constructor
    · rw [if_pos stageArtifact_reports]
      exact h.stageArtifact hlisted _ _ _ _ _
    · intro _
      exact ⟨artifact, content, rfl, rfl, hlisted⟩

/-- Applying goes on with the copy that was staged. -/
theorem chainIntact_applyPending {files : FileTree UpdateFile} {staged : Option ReleaseArtifact}
    {artifact : ReleaseArtifact} {content : UpdateFile}
    (hlisted : Listed env sha256Hex artifact content) (pending : PendingUpdatePlan)
    (targetInstallRoot : FilePath) (now : ℕ) :
    ChainIntact env sha256Hex updateDir
      ⟨(applyPending updateDir files pending targetInstallRoot content now).files, staged,
        some artifact⟩ := by
  have hrecord : ∀ copy name,
      (appliedArtifactDir updateDir).child copy ≠ updateDir.child name :=
    fun copy name => FilePath.child_child_ne _ _ _ _
  have hplan : installActionPlanPath updateDir ≠ pendingUpdatePlanPath updateDir :=
    FilePath.child_ne_of_name (by decide)
  have hversion : installActionPlanPath updateDir ≠ installedVersionRecordPath updateDir :=
    FilePath.child_ne_of_name (by decide)
  unfold applyPending
  dsimp only
  constructor
  · intro path hpath
    change pendingSource env updateDir (FileTree.remove _ _) = some path at hpath
    unfold pendingSource loadPendingUpdatePlan at hpath
    rw [FileTree.remove_same] at hpath
    cases hpath
  · intro path hpath
    change actionSource env updateDir (FileTree.remove _ _) = some path at hpath
    rw [actionSource_congr ((FileTree.remove_of_ne _ hplan).trans
      (FileTree.write_of_ne _ _ hversion)), actionSource_write] at hpath
    have hnamed : path = (appliedArtifactDir updateDir).child
        (artifactFileName pending.stagedArtifactPath) := (Option.some.inj hpath).symm
    refine ⟨artifact, _, rfl, hnamed, ?_⟩
    intro held hheld
    unfold pendingUpdatePlanPath installedVersionRecordPath installActionPlanPath
      switchExecutionRecordPath appliedUpdateRecordPath at hheld
    dsimp only at hheld
    rw [hnamed, FileTree.remove_of_ne _ (hrecord _ _), FileTree.write_of_ne _ _ (hrecord _ _),
      FileTree.write_of_ne _ _ (hrecord _ _), FileTree.write_of_ne _ _ (hrecord _ _),
      FileTree.write_of_ne _ _ (hrecord _ _), FileTree.write_same] at hheld
    obtain rfl := Option.some.inj hheld
    exact hlisted

theorem ChainIntact.apply {s : UpdaterState} (h : ChainIntact env sha256Hex updateDir s)
    (managedStatus : Option ManagedServiceStatus) (processIsRunning : ℕ → Bool) (now : ℕ) :
    ChainIntact env sha256Hex updateDir
        (updateNext env updateDir s (.apply managedStatus processIsRunning now)) ∧
      ReportsListed env sha256Hex updateDir s (.apply managedStatus processIsRunning now) := by
  obtain ⟨files, staged, applied⟩ := s
  rcases applyUpdateWithStatus_cases env updateDir files managedStatus processIsRunning now with
    ⟨hnone, hfiles⟩ | ⟨pending, switchPlan, content, hload, hcontent, houtcome⟩
  · refine ⟨?_, fun hreports => absurd hreports hnone⟩
    unfold updateNext
    dsimp only
    rw [if_neg hnone]
    rcases hfiles with hsame | ⟨switchPlan, hwritten⟩
    · rw [hsame]
      exact h
    · rw [hwritten]
      exact h.write_record _ (by decide) (by decide)
  · have hswitch := h.write_record (UpdateFile.record (.switchPlan switchPlan))
      (show "switch-plan.json" ≠ "pending-update.json" by decide)
      (show "switch-plan.json" ≠ "install-action.json" by decide)
    have hplan : pendingUpdatePlanPath updateDir ≠ updateDir.child "switch-plan.json" :=
      FilePath.child_ne_of_name (by decide)
    have hsource : pendingSource env updateDir
        (files.write (updateDir.child "switch-plan.json")
          (.record (.switchPlan switchPlan))) = some pending.stagedArtifactPath := by
      rw [pendingSource_congr (FileTree.write_of_ne _ _ hplan), pendingSource, hload]
      rfl
    obtain ⟨artifact, _, hstaged, _, hheld⟩ := hswitch.pending _ hsource
    have hlisted := hheld content hcontent
    have hstagedArtifact : staged = some artifact := hstaged
    unfold updateNext ReportsListed CopiesListed
    dsimp only
    rw [houtcome, hstagedArtifact]
    constructor
    · rw [if_pos (applyPending_reports updateDir)]
      exact chainIntact_applyPending hlisted _ _ _
    · intro _
      exact ⟨artifact, content, rfl, rfl, hlisted⟩

/-- Installing to a place outside of the chain copies what was applied. -/
theorem ChainIntact.installTo {files : FileTree UpdateFile}
    {staged applied : Option ReleaseArtifact}
    (h : ChainIntact env sha256Hex updateDir ⟨files, staged, applied⟩)
    {action : InstallActionPlanRecord}
    (hload : loadInstallActionPlan env files (installActionPlanPath updateDir) = some action)
    {root : FilePath} (now : ℕ) (mode : String)
    (houtside : ¬ ChainFile env updateDir files (overrideTargetPath root action.targetInstallPath) ∧
      ¬ ChainFile env updateDir files
        ((overrideTargetPath root action.targetInstallPath).withSuffix ".bak")) :
    ChainIntact env sha256Hex updateDir
        ⟨(Node.installTo updateDir files action root mode now).files, staged, applied⟩ ∧
      CopiesListed env sha256Hex (Node.installTo updateDir files action root mode now)
        "install_executed" applied := by
  obtain ⟨htarget, hbackup⟩ := houtside
  have hsource : actionSource env updateDir files = some action.stagedArtifactPath := by
    rw [actionSource, hload]
    rfl
  have hbacked : ∀ path, ChainFile env updateDir files path →
      backUp files (overrideTargetPath root action.targetInstallPath)
        ((overrideTargetPath root action.targetInstallPath).withSuffix ".bak") path =
          files path := by
    intro path hpath
    have hother : path ≠ (overrideTargetPath root action.targetInstallPath).withSuffix ".bak" := by
      rintro rfl
      exact hbackup hpath
    unfold backUp
    cases files (overrideTargetPath root action.targetInstallPath) with
    | none => rfl
    | some existing => exact FileTree.write_of_ne _ _ hother
  have hheld := hbacked action.stagedArtifactPath (Or.inr (Or.inr (Or.inr hsource)))
  unfold CopiesListed Node.installTo
  dsimp only
  rw [hheld]
  cases hcontent : files action.stagedArtifactPath with
  | none =>
      refine ⟨h.frame hbacked, fun hreports => ?_⟩
      cases hreports
  | some content =>
      constructor
      · refine ChainIntact.write_record (h.frame ?_) _ (by decide) (by decide)
        intro path hpath
        have hother : path ≠ overrideTargetPath root action.targetInstallPath := by
          rintro rfl
          exact htarget hpath
        rw [FileTree.write_of_ne _ _ hother]
        exact hbacked path hpath
      · intro _
        obtain ⟨artifact, _, happlied, _, hlisted⟩ := h.action _ hsource
        exact ⟨artifact, content, happlied, rfl, hlisted content hcontent⟩

/-- Installing copies what was applied and leaves the chain as it is. -/
theorem ChainIntact.install {s : UpdaterState} (h : ChainIntact env sha256Hex updateDir s)
    (options : InstallOptions) (now : ℕ)
    (hkeeps : KeepsChain env sha256Hex updateDir s (.install options now)) :
    ChainIntact env sha256Hex updateDir (updateNext env updateDir s (.install options now)) ∧
      ReportsListed env sha256Hex updateDir s (.install options now) := by
  obtain ⟨files, staged, applied⟩ := s
  unfold updateNext ReportsListed CopiesListed executeInstallAction
  dsimp only
  cases hload : loadInstallActionPlan env files (installActionPlanPath updateDir) with
  | none =>
      exact ⟨h, fun hreports => absurd hreports (UpdateOutcome.not_reports_stopped (by decide))⟩
  | some action =>
      dsimp only
      cases hroot : installTargetRoot env options with
      | error status =>
          refine ⟨h, fun hreports => absurd hreports (UpdateOutcome.not_reports_stopped ?_)⟩
          rcases installTargetRoot_error hroot with rfl | rfl <;> decide
      | ok target =>
          obtain ⟨root, mode⟩ := target
          exact h.installTo hload now mode (hkeeps action root mode hload hroot)

/-! ## Whole runs -/

theorem chainIntact_fresh : ChainIntact env sha256Hex updateDir .fresh := by
  constructor <;> rintro path ⟨⟩

/-- The step: a call that keeps the chain reports what is listed. -/
theorem ChainIntact.next {s : UpdaterState} (h : ChainIntact env sha256Hex updateDir s)
    (step : UpdateStep) (hkeeps : KeepsChain env sha256Hex updateDir s step) :
    ChainIntact env sha256Hex updateDir (updateNext env updateDir s step) ∧
      ReportsListed env sha256Hex updateDir s step := by
  cases step with
  | change files => exact ⟨hkeeps, trivial⟩
  | stage currentVersion channel releaseManifestDir now => exact h.stage _ _ _ _ hkeeps
  | apply managedStatus processIsRunning now => exact h.apply _ _ _
  | install options now => exact h.install _ _ hkeeps

theorem ChainIntact.run {s : UpdaterState} (h : ChainIntact env sha256Hex updateDir s)
    {steps : List UpdateStep}
    (hkeeps : Meets (updateNext env updateDir) (KeepsChain env sha256Hex updateDir) s steps) :
    Meets (updateNext env updateDir) (ReportsListed env sha256Hex updateDir) s steps :=
  meets_of_invariant (fun _ step hintact hstep => hintact.next step hstep) hkeeps h

/-- In every run that keeps the chain, what is reported as staged, applied or installed has the
hash and the size that the verified manifest lists. -/
theorem installed_bytes_listed (env : UpdaterEnv) (sha256Hex : Bytes → String)
    (updateDir : FilePath) (steps : List UpdateStep)
    (hkeeps : Meets (updateNext env updateDir) (KeepsChain env sha256Hex updateDir) .fresh steps) :
    Meets (updateNext env updateDir) (ReportsListed env sha256Hex updateDir) .fresh steps := by
  exact chainIntact_fresh.run hkeeps

/-- What lies no deeper than the update directory is no file of the chain. -/
theorem ChainIntact.not_chainFile {s : UpdaterState} (h : ChainIntact env sha256Hex updateDir s)
    {path : FilePath} (hshort : path.components.length ≤ updateDir.components.length) :
    ¬ ChainFile env updateDir s.files path := by
  intro hpath
  rcases h.chainFile hpath with rfl | rfl | ⟨name, rfl⟩ | ⟨name, rfl⟩
  · simp [pendingUpdatePlanPath] at hshort
  · simp [installActionPlanPath] at hshort
  · simp [stagedArtifactDir] at hshort
  · simp [appliedArtifactDir] at hshort

/-- The files after a release is laid down, staged and applied. -/
theorem files_of_update (files : FileTree UpdateFile) (currentVersion channel : String)
    (releaseManifestDir : FilePath) (stagedAt : ℕ) (managedStatus : Option ManagedServiceStatus)
    (processIsRunning : ℕ → Bool) (appliedAt : ℕ) :
    (run (updateNext env updateDir) .fresh [.change files,
        .stage currentVersion channel releaseManifestDir stagedAt,
        .apply managedStatus processIsRunning appliedAt]).files =
      (applyUpdateWithStatus env updateDir
        (stageUpdate env updateDir files currentVersion channel releaseManifestDir stagedAt).files
        managedStatus processIsRunning appliedAt).files := rfl

end Runs

/-! ## One release -/

namespace UpdateSample

def setup : Bytes := "setup".toUTF8.toList

/-- The hash of the sample artifact; nothing else is hashed. -/
def sha256Hex (bytes : Bytes) : String := if bytes = setup then artifact.sha256 else ""

def options : InstallOptions := ⟨some (.ofText "C:/Apps"), none, false, false⟩

def stage : UpdateStep := .stage "0.1.0" "stable" releaseDir 0
def apply : UpdateStep := .apply none (fun _ => false) 0
def install : UpdateStep := .install options 0

end UpdateSample

open UpdateSample in
/-- Without changes in between, the setup of the release is what gets installed. -/
theorem installed_bytes_listed_setup :
    Meets (updateNext env updateDir) (ReportsListed env sha256Hex updateDir) .fresh
        [.change (release setup), stage, apply, install] ∧
      (executeInstallAction env updateDir
        (run (updateNext env updateDir) .fresh [.change (release setup), stage, apply]).files
        options 0).Reports "install_executed" := by
  have hchange : KeepsChain env sha256Hex updateDir .fresh (.change (release setup)) := by
    have hnone : pendingSource env updateDir (release setup) = none ∧
        actionSource env updateDir (release setup) = none := by decide +kernel
    constructor
    · intro path hpath
      change pendingSource env updateDir (release setup) = some path at hpath
      rw [hnone.1] at hpath
      cases hpath
    · intro path hpath
      change actionSource env updateDir (release setup) = some path at hpath
      rw [hnone.2] at hpath
      cases hpath
  have hstage : KeepsChain env sha256Hex updateDir ⟨release setup, none, none⟩ stage := by
    intro other selected content hload _ _ hselect hsource
    obtain rfl := Except.ok.inj ((load_release setup).symm.trans hload)
    obtain rfl := Option.some.inj hselect
    obtain rfl := Option.some.inj ((release_source setup).symm.trans hsource)
    exact ⟨if_pos rfl, by decide +kernel⟩
  have hstaged := (ChainIntact.next hchange stage hstage).1
  have happlied := (hstaged.next apply trivial).1
  have hinstall : KeepsChain env sha256Hex updateDir
      (run (updateNext env updateDir) .fresh [.change (release setup), stage, apply]) install := by
    intro action root mode _ hroot
    obtain ⟨rfl, rfl⟩ := Prod.mk.inj (Except.ok.inj hroot)
    have hdepth : (FilePath.ofText "C:/Apps").components.length = 1 ∧
        updateDir.components.length = 2 := by decide +kernel
    unfold overrideTargetPath
    rw [FilePath.withSuffix_child]
    exact ⟨happlied.not_chainFile (by simp [hdepth]), happlied.not_chainFile (by simp [hdepth])⟩
  refine ⟨installed_bytes_listed env sha256Hex updateDir _
    ⟨hchange, hstage, trivial, hinstall, trivial⟩, ?_⟩
  rw [stage, apply, files_of_update, release_staged]
  decide +kernel

open UpdateSample in
/-- The artifact of the release may be any bytes: it is staged all the same. -/
theorem unlisted_bytes_staged :
    ¬ ∃ sha256Hex : Bytes → String, ∀ (env : UpdaterEnv) (updateDir : FilePath)
      (steps : List UpdateStep),
      Meets (updateNext env updateDir) (ReportsListed env sha256Hex updateDir) .fresh steps := by
  rintro ⟨sha256Hex, hall⟩
  obtain ⟨_, hstage, _⟩ := hall env updateDir [.change (release [1]), stage]
  have houtcome := release_staged [1]
  have hreports : (stageUpdate env updateDir (release [1]) "0.1.0" "stable" releaseDir 0).Reports
      "staged" := by
    rw [houtcome]
    exact stageArtifact_reports
  obtain ⟨listed, content, hlisted, hcopied, _, hsize⟩ := hstage hreports
  change channelArtifact env (release [1]) "stable" releaseDir = some listed at hlisted
  change (stageUpdate env updateDir (release [1]) "0.1.0" "stable" releaseDir 0).copied =
    some content at hcopied
  rw [houtcome] at hcopied
  rw [channelArtifact, load_release] at hlisted
  obtain rfl := Option.some.inj hcopied
  obtain rfl := Option.some.inj hlisted
  exact absurd hsize (by decide)

end PoleProtocol.Node
