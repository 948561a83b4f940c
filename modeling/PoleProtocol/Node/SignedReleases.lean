import PoleProtocol.Node.Updater

/-!
# Which releases are staged

A manifest is verified by its sidecars if they are there, and otherwise by a hash that anyone can
compute. A build without debug assertions verifies a manifest without a sidecar signature exactly
where the check falls through to that hash and the hash is in the manifest.
-/

namespace PoleProtocol.Node

open Framework Ledger

section Manifest

variable (env : SigningEnv) (files : FileTree Bytes) (manifest : ReleaseManifest)
  (manifestPath : FilePath)

/-- The sidecar signature was verified on the bytes of the manifest. -/
def CosignVerified : Prop :=
  ∃ signing raw, manifest.signing = some signing ∧ signing.scheme = "cosign-keyless" ∧
    readFile files manifestPath = .ok raw ∧
    verifyCosignKeyless env files raw signing manifestPath = .ok .verified

/-- There is no signing block, another scheme, or no sidecar beside a manifest that can be read. -/
def FallsThrough : Prop :=
  ∀ signing, manifest.signing = some signing → signing.scheme = "cosign-keyless" →
    files manifestPath ≠ none ∧ sidecarMissing files signing manifestPath

/-- The check comes to the inline signature, and that is the hash of the manifest's fields. -/
def AcceptsInlineHash : Prop :=
  FallsThrough files manifest manifestPath ∧
    manifest.signature = developmentManifestSignature manifest

variable {env files manifest manifestPath}

/-- A build without debug assertions takes the hash and nothing else. -/
theorem verifyInlineSignature_eq_verified_iff :
    verifyInlineSignature false manifest = .verified ↔
      manifest.signature = developmentManifestSignature manifest := by
  have hrelease : ¬ (false = true ∧ manifest.signature = "dev-signature") := by simp
  unfold verifyInlineSignature
  constructor
  · intro hverified
    by_cases hblank : trim manifest.signature = ""
    · rw [if_pos hblank] at hverified
      cases hverified
    · rw [if_neg hblank, if_neg hrelease] at hverified
      by_contra hother
      rw [if_neg hother] at hverified
      cases hverified
  · intro hhash
    have hvisible : 'd' ∈ manifest.signature.toList := by
      rw [hhash, developmentManifestSignature, String.toList_append]
      exact List.mem_append_left _ (by decide)
    have hnotBlank := trim_ne_empty hvisible (by decide)
    rw [if_neg hnotBlank, if_neg hrelease, if_pos hhash]

/-- Sidecars that are there decide the check. -/
theorem verifyCosignKeyless_ne_missing {raw : Bytes} {signing : ManifestSigning}
    (hthere : ¬ sidecarMissing files signing manifestPath) :
    verifyCosignKeyless env files raw signing manifestPath ≠ .ok .missing := by
  intro hmissing
  unfold verifyCosignKeyless at hmissing
  rw [if_neg hthere] at hmissing
  simp only [bind_eq_ok] at hmissing
  obtain ⟨_, _, _, _, _, _, _, _, _, _, verified, _, hresult⟩ := hmissing
  cases verified <;> cases hresult

theorem not_cosignVerified_of_fallsThrough
    (hfalls : FallsThrough files manifest manifestPath) :
    ¬ CosignVerified env files manifest manifestPath := by
  rintro ⟨signing, raw, hsigning, hscheme, _, hverified⟩
  have hmissing := (hfalls signing hsigning hscheme).2
  rw [verifyCosignKeyless, if_pos hmissing] at hverified
  cases hverified

/-- Where the check falls through, the inline signature is all that is looked at. -/
theorem verifyReleaseManifestSignature_of_fallsThrough {debugAssertions : Bool}
    (hfalls : FallsThrough files manifest manifestPath) :
    verifyReleaseManifestSignature env debugAssertions files manifest manifestPath =
      .ok (verifyInlineSignature debugAssertions manifest) := by
  unfold verifyReleaseManifestSignature
  cases hsigning : manifest.signing with
  | none => rfl
  | some signing =>
      by_cases hscheme : signing.scheme = "cosign-keyless"
      · obtain ⟨hreadable, hmissing⟩ := hfalls signing hsigning hscheme
        obtain ⟨raw, hraw⟩ := Option.ne_none_iff_exists'.mp hreadable
        have hread : readFile files manifestPath = .ok raw := require_eq_ok.mpr hraw
        have hcosign : verifyCosignKeyless env files raw signing manifestPath = .ok .missing :=
          if_pos hmissing
        change (if _ then _ else _) = _
        rw [if_pos hscheme, hread, ok_bind, hcosign]
        rfl
      · exact if_neg hscheme

/-- Where it does not, only the sidecars verify a manifest. -/
theorem verifyReleaseManifestSignature_of_decides {debugAssertions : Bool}
    (hdecides : ¬ FallsThrough files manifest manifestPath) :
    verifyReleaseManifestSignature env debugAssertions files manifest manifestPath =
        .ok .verified ↔
      CosignVerified env files manifest manifestPath := by
  unfold FallsThrough at hdecides
  push Not at hdecides
  obtain ⟨signing, hsigning, hscheme, hdecides⟩ := hdecides
  unfold verifyReleaseManifestSignature
  rw [hsigning]
  dsimp only
  rw [if_pos hscheme, bind_eq_ok]
  constructor
  · rintro ⟨raw, hread, hcosign⟩
    obtain ⟨verification, hverification, hresult⟩ := bind_eq_ok.mp hcosign
    have hthere : ¬ sidecarMissing files signing manifestPath :=
      hdecides (Option.ne_none_iff_exists'.mpr ⟨raw, require_eq_ok.mp hread⟩)
    refine ⟨signing, raw, hsigning, hscheme, hread, ?_⟩
    cases verification with
    | verified => exact hverification
    | missing => exact absurd hverification (verifyCosignKeyless_ne_missing hthere)
    | invalid => cases hresult
  · rintro ⟨signing', raw, hsigning', _, hread, hverified⟩
    obtain rfl := Option.some.inj (hsigning.symm.trans hsigning')
    exact ⟨raw, hread, bind_eq_ok.mpr ⟨.verified, hverified, rfl⟩⟩

/-- A release build verifies what the sidecars verify, and what passes by its hash. -/
theorem verifyReleaseManifestSignature_eq_verified_iff :
    verifyReleaseManifestSignature env false files manifest manifestPath = .ok .verified ↔
      CosignVerified env files manifest manifestPath ∨
        AcceptsInlineHash files manifest manifestPath := by
  by_cases hfalls : FallsThrough files manifest manifestPath
  · rw [verifyReleaseManifestSignature_of_fallsThrough hfalls,
      or_iff_right (not_cosignVerified_of_fallsThrough hfalls), AcceptsInlineHash,
      and_iff_right hfalls, ← verifyInlineSignature_eq_verified_iff]
    exact ⟨Except.ok.inj, congrArg _⟩
  · rw [verifyReleaseManifestSignature_of_decides hfalls, or_iff_left]
    exact fun hinline => hfalls hinline.1

end Manifest

/-! ## Staging -/

section Stage

variable (env : UpdaterEnv) (updateDir : FilePath) (files : FileTree UpdateFile)
  (currentVersion channel : String) (releaseManifestDir : FilePath) (now : ℕ)

/-- The call reports that it staged an update. -/
def Stages : Prop :=
  (stageUpdate env updateDir files currentVersion channel releaseManifestDir now).Reports "staged"

/-- The manifest of the channel has a verified sidecar signature. -/
def StagedManifestSigned : Prop :=
  ∃ manifest,
    loadReleaseManifest env.toSigningEnv (fileBytes env files)
        (releaseManifestPath releaseManifestDir channel) = .ok manifest ∧
      CosignVerified env.toSigningEnv (fileBytes env files) manifest
        (releaseManifestPath releaseManifestDir channel)

/-- The manifest is of a newer version, and the artifact that it selects is there. -/
def Stageable (manifest : ReleaseManifest) : Prop :=
  versionIsNewer manifest.version
      (effectiveCurrentVersion env updateDir files currentVersion) = true ∧
    ∃ artifact, selectReleaseArtifact manifest = some artifact ∧
      files (resolveArtifactSourcePath (releaseManifestPath releaseManifestDir channel)
        artifact.path) ≠ none

/-- The manifest of the channel passes by its hash, and nothing else stands against staging it. -/
def StagesInlineHash : Prop :=
  ∃ manifest,
    loadReleaseManifest env.toSigningEnv (fileBytes env files)
        (releaseManifestPath releaseManifestDir channel) = .ok manifest ∧
      AcceptsInlineHash (fileBytes env files) manifest
        (releaseManifestPath releaseManifestDir channel) ∧
      Stageable env updateDir files currentVersion channel releaseManifestDir manifest

variable {env updateDir files currentVersion channel releaseManifestDir now}

theorem stages_iff :
    Stages env updateDir files currentVersion channel releaseManifestDir now ↔
      ∃ manifest,
        loadReleaseManifest env.toSigningEnv (fileBytes env files)
            (releaseManifestPath releaseManifestDir channel) = .ok manifest ∧
          verifyReleaseManifestSignature env.toSigningEnv env.debugAssertions
              (fileBytes env files) manifest
              (releaseManifestPath releaseManifestDir channel) = .ok .verified ∧
          Stageable env updateDir files currentVersion channel releaseManifestDir manifest := by
  unfold Stages
  constructor
  · intro hreports
    rcases stageUpdate_cases env updateDir files currentVersion channel releaseManifestDir now with
      ⟨_, hnone⟩ | ⟨manifest, artifact, content, hload, hverify, hnewer, hselect, hsource⟩
    · exact absurd hreports hnone
    · refine ⟨manifest, hload, hverify, hnewer, artifact, hselect, ?_⟩
      rw [hsource]
      exact Option.some_ne_none content
  · rintro ⟨manifest, hload, hverify, hnewer, artifact, hselect, hthere⟩
    obtain ⟨content, hsource⟩ := Option.ne_none_iff_exists'.mp hthere
    rw [stageUpdate_of hload hverify hnewer hselect hsource]
    rfl

end Stage

/-! ## A release without a signing block -/

namespace UpdateSample

def artifact : ReleaseArtifact where
  platform := "windows"
  kind := "msi"
  path := "pole-node.msi"
  sha256 := "8fb6d5f37e8055ce720bd0b1d56587f88c0071f285966ba17e72b2b12672aa73"
  sizeBytes := 5

def unsigned : ReleaseManifest where
  channel := "stable"
  version := "9.0.0"
  artifacts := [artifact]
  signature := ""
  signing := none

/-- The hash of the fields takes the place of the signature. -/
def manifest : ReleaseManifest :=
  { unsigned with signature := developmentManifestSignature unsigned }

def manifestText : String :=
  "\x7b\"channel\":\"stable\",\"version\":\"9.0.0\",\"artifacts\":[" ++
    artifactJson artifact ++ "],\"signature\":\"" ++ manifest.signature ++ "\"\x7d"

/-- Nothing but the text of the manifest is decoded. -/
def env : UpdaterEnv where
  base64Decode := fun _ => none
  parseReleaseManifest := fun bytes =>
    if bytes = manifestText.toUTF8.toList then some manifest else none
  certificateKey := fun _ => .error "no certificate"
  ed25519Key := fun _ => .error "no key"
  ed25519Verify := fun _ _ _ => false
  p256Key := fun _ => .error "no key"
  p256Signature := fun _ => .error "no signature"
  p256Verify := fun _ _ _ => false
  toStringPretty := fun _ => []
  parsePendingUpdatePlan := fun _ => none
  parseInstalledVersionRecord := fun _ => none
  parseInstallActionPlan := fun _ => none
  debugAssertions := false
  installRootForCurrentPlatform := .ofText "C:/Program Files/PoLE"
  defaultInstallRootPath := .ofText "C:/Program Files/PoLE"

def releaseDir : FilePath := .ofText "C:/releases"
def updateDir : FilePath := .ofText "C:/pole/updates"

/-- The release: its manifest, and an artifact with the given content. -/
def release (content : Bytes) : FileTree UpdateFile :=
  (FileTree.empty.write (releaseManifestPath releaseDir "stable")
    (.data manifestText.toUTF8.toList)).write (releaseDir.child "pole-node.msi") (.data content)

theorem release_manifest (content : Bytes) :
    release content (releaseManifestPath releaseDir "stable") =
      some (.data manifestText.toUTF8.toList) := by
  have hother : releaseManifestPath releaseDir "stable" ≠ releaseDir.child "pole-node.msi" := by
    decide +kernel
  rw [release, FileTree.write_of_ne _ _ hother, FileTree.write_same]

theorem manifestText_parsed :
    env.parseReleaseManifest manifestText.toUTF8.toList = some manifest := if_pos rfl

theorem load_release (content : Bytes) :
    loadReleaseManifest env.toSigningEnv (fileBytes env (release content))
      (releaseManifestPath releaseDir "stable") = .ok manifest :=
  loadReleaseManifest_of env.toSigningEnv (fileBytes_of_data env (release_manifest content))
    manifestText_parsed

theorem release_acceptsInlineHash (content : Bytes) :
    AcceptsInlineHash (fileBytes env (release content)) manifest
      (releaseManifestPath releaseDir "stable") := by
  refine ⟨?_, rfl⟩
  intro signing hsigning
  cases hsigning

theorem release_verified (content : Bytes) :
    verifyReleaseManifestSignature env.toSigningEnv env.debugAssertions
      (fileBytes env (release content)) manifest (releaseManifestPath releaseDir "stable") =
        .ok .verified :=
  verifyReleaseManifestSignature_eq_verified_iff.mpr (Or.inr (release_acceptsInlineHash content))

theorem release_source (content : Bytes) :
    release content (resolveArtifactSourcePath (releaseManifestPath releaseDir "stable")
      artifact.path) = some (.data content) := by
  have hsource : resolveArtifactSourcePath (releaseManifestPath releaseDir "stable")
      artifact.path = releaseDir.child "pole-node.msi" := by decide +kernel
  rw [hsource, release, FileTree.write_same]

theorem release_newer (content : Bytes) :
    versionIsNewer manifest.version
      (effectiveCurrentVersion env updateDir (release content) "0.1.0") = true := by
  have hinstalled : loadInstalledVersionRecord env (release content)
      (installedVersionRecordPath updateDir) = none := by
    unfold loadInstalledVersionRecord release
    rw [FileTree.write_of_ne _ _ (by decide +kernel), FileTree.write_of_ne _ _ (by decide +kernel)]
    rfl
  rw [effectiveCurrentVersion, hinstalled]
  decide +kernel

theorem release_staged (content : Bytes) :
    stageUpdate env updateDir (release content) "0.1.0" "stable" releaseDir 0 =
      stageArtifact updateDir (release content) "0.1.0" "stable"
        (releaseManifestPath releaseDir "stable") manifest artifact (.data content) 0 :=
  stageUpdate_of (load_release content) (release_verified content) (release_newer content) rfl
    (release_source content)

end UpdateSample

end PoleProtocol.Node
