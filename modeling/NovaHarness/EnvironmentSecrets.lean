import NovaHarness.RecordValidation

namespace NovaHarness.EnvironmentSecrets

open NovaHarness.Text
open NovaHarness.RecordValidation

section Records

inductive ConfigSourceType where
  | default
  | envVar
  | file
  | secret
  | cli
  | remote
  deriving DecidableEq, Repr

structure ConfigKeyRef where
  key : String
  source : ConfigSourceType
  required : Bool := true
  deriving DecidableEq, Repr

def ConfigKeyRef.validate (raw : ConfigKeyRef) : Validated ConfigKeyRef :=
  fields (nonBlank "key" "key must not be blank" raw.key) { raw with key := strip raw.key }

structure SecretRef where
  secretId : String
  name : String
  required : Bool := true
  deriving DecidableEq, Repr

def SecretRef.validate (raw : SecretRef) : Validated SecretRef :=
  fields (filled "secret_id" raw.secretId ++ filled "name" raw.name)
    { raw with
      secretId := strip raw.secretId
      name := strip raw.name }

/-- The loop over secrets that complains about a second one of the same name. -/
def noDuplicateSecretNames (msg : String) (secrets : List SecretRef) : Validated Unit :=
  forEachNew (·.name) (fun s => msg ++ s.name) (fun _ => .ok ()) [] secrets

structure RuntimeSettingRef where
  settingId : String
  keyRef : ConfigKeyRef
  secretRef : Option SecretRef := none
  valueType : String
  defaultValue : Option String := none
  sensitive : Bool := false
  deriving DecidableEq, Repr

namespace RuntimeSettingRef

def sensitiveMasksDefault (setting : RuntimeSettingRef) : Validated Unit :=
  require (¬ (setting.sensitive = true ∧ setting.defaultValue ≠ none))
    "sensitive settings must not carry a default_value"

def validate (raw : RuntimeSettingRef) : Validated RuntimeSettingRef :=
  twoLayers
    (filled "setting_id" raw.settingId ++
      errorsUnder "key_ref" raw.keyRef.validate ++
      optionErrors "secret_ref" SecretRef.validate raw.secretRef ++
      filled "value_type" raw.valueType)
    { raw with
      settingId := strip raw.settingId
      keyRef := valueD raw.keyRef.validate raw.keyRef
      secretRef := optionValue SecretRef.validate raw.secretRef
      valueType := strip raw.valueType }
    sensitiveMasksDefault

end RuntimeSettingRef

structure EnvironmentProfile where
  profileId : String
  name : String
  configKeys : List ConfigKeyRef := []
  secrets : List SecretRef := []
  runtimeSettings : List RuntimeSettingRef := []
  deriving DecidableEq, Repr

namespace EnvironmentProfile

def noDuplicateConfigKeys (profile : EnvironmentProfile) : Validated Unit :=
  forEachNew (·.key) (fun ck => "duplicate config key: " ++ ck.key) (fun _ => .ok ()) []
    profile.configKeys

def settingsMapToDeclaredKeys (profile : EnvironmentProfile) : Validated Unit :=
  profile.runtimeSettings |> forEach fun rs =>
    require (rs.keyRef.key ∈ profile.configKeys.map (·.key))
      ("runtime setting " ++ rs.settingId ++ " references undeclared key: " ++ rs.keyRef.key)

def rules (profile : EnvironmentProfile) : Validated Unit := do
  profile.noDuplicateConfigKeys
  noDuplicateSecretNames "duplicate secret name: " profile.secrets
  profile.settingsMapToDeclaredKeys

def validate (raw : EnvironmentProfile) : Validated EnvironmentProfile :=
  twoLayers
    (filled "profile_id" raw.profileId ++
      filled "name" raw.name ++
      listErrors "config_keys" ConfigKeyRef.validate raw.configKeys ++
      listErrors "secrets" SecretRef.validate raw.secrets ++
      listErrors "runtime_settings" RuntimeSettingRef.validate raw.runtimeSettings)
    { profileId := strip raw.profileId
      name := strip raw.name
      configKeys := listValues ConfigKeyRef.validate raw.configKeys
      secrets := listValues SecretRef.validate raw.secrets
      runtimeSettings := listValues RuntimeSettingRef.validate raw.runtimeSettings }
    rules

end EnvironmentProfile

structure ConfigBundle where
  bundleId : String
  profile : EnvironmentProfile
  values : List (String × String) := []
  deriving DecidableEq, Repr

namespace ConfigBundle

def given (bundle : ConfigBundle) : List String :=
  bundle.values.map Prod.fst

def requiredKeysPresent (bundle : ConfigBundle) : Validated Unit :=
  bundle.profile.configKeys |> forEach fun ck =>
    require (¬ (ck.required = true ∧ ck.key ∉ bundle.given))
      ("required config key missing from values: " ++ ck.key)

def defaultsNotOverrideRequiredSecrets (bundle : ConfigBundle) : Validated Unit :=
  bundle.profile.runtimeSettings |> forEach fun rs =>
    whenever (rs.secretRef.any (·.required) = true ∧ rs.keyRef.key ∈ bundle.given) do
      let ck := bundle.profile.configKeys.find? fun c => c.key = rs.keyRef.key
      require (¬ (ck.any (·.source = .secret) = true ∧ rs.sensitive = false))
        ("default must not silently override required secret: " ++ rs.keyRef.key)

def rules (bundle : ConfigBundle) : Validated Unit := do
  bundle.requiredKeysPresent
  bundle.defaultsNotOverrideRequiredSecrets

def validate (raw : ConfigBundle) : Validated ConfigBundle :=
  twoLayers
    (nonBlank "bundle_id" "bundle_id must not be blank" raw.bundleId ++
      errorsUnder "profile" raw.profile.validate)
    { raw with
      bundleId := strip raw.bundleId
      profile := valueD raw.profile.validate raw.profile }
    rules

instance : Schema ConfigBundle := ⟨fun _ => validate⟩

end ConfigBundle

structure SecretsManifest where
  manifestId : String
  profileId : String
  secrets : List SecretRef := []
  deriving DecidableEq, Repr

namespace SecretsManifest

/-- The loop looks at each required secret and then passes. -/
def requiredSecretsDeclared (manifest : SecretsManifest) : Validated Unit :=
  manifest.secrets |> forEach fun s => if s.required then .ok () else .ok ()

def rules (manifest : SecretsManifest) : Validated Unit := do
  noDuplicateSecretNames "duplicate secret name in manifest: " manifest.secrets
  manifest.requiredSecretsDeclared

def validate (raw : SecretsManifest) : Validated SecretsManifest :=
  twoLayers
    (filled "manifest_id" raw.manifestId ++
      filled "profile_id" raw.profileId ++
      listErrors "secrets" SecretRef.validate raw.secrets)
    { manifestId := strip raw.manifestId
      profileId := strip raw.profileId
      secrets := listValues SecretRef.validate raw.secrets }
    rules

instance : Schema SecretsManifest := ⟨fun _ => validate⟩

end SecretsManifest

structure EnvironmentContractEnvelope where
  envelopeId : String
  bundle : ConfigBundle
  secretsManifest : SecretsManifest
  deriving DecidableEq, Repr

namespace EnvironmentContractEnvelope

def manifestProfileMatches (envelope : EnvironmentContractEnvelope) : Validated Unit :=
  require (envelope.secretsManifest.profileId = envelope.bundle.profile.profileId)
    "secrets_manifest.profile_id must match bundle.profile.profile_id"

def validate (raw : EnvironmentContractEnvelope) : Validated EnvironmentContractEnvelope :=
  twoLayers
    (nonBlank "envelope_id" "envelope_id must not be blank" raw.envelopeId ++
      errorsUnder "bundle" raw.bundle.validate ++
      errorsUnder "secrets_manifest" raw.secretsManifest.validate)
    { envelopeId := strip raw.envelopeId
      bundle := valueD raw.bundle.validate raw.bundle
      secretsManifest := valueD raw.secretsManifest.validate raw.secretsManifest }
    manifestProfileMatches

instance : Schema EnvironmentContractEnvelope := ⟨fun _ => validate⟩

end EnvironmentContractEnvelope

end Records

section Declared

/-- The secrets that an environment cannot do without. -/
def requiredSecrets (profile : EnvironmentProfile) : List SecretRef :=
  (profile.secrets ++ profile.runtimeSettings.filterMap (·.secretRef)).filter (·.required)

/-- The manifest names each of them. -/
def Declares (manifest : SecretsManifest) (profile : EnvironmentProfile) : Prop :=
  ∀ s ∈ requiredSecrets profile, ∃ declared ∈ manifest.secrets, declared.name = s.name

instance (manifest : SecretsManifest) (profile : EnvironmentProfile) :
    Decidable (Declares manifest profile) :=
  inferInstanceAs (Decidable (∀ s ∈ requiredSecrets profile,
    ∃ declared ∈ manifest.secrets, declared.name = s.name))

def RequiredSecretsDeclared (envelope : EnvironmentContractEnvelope) : Prop :=
  Declares envelope.secretsManifest envelope.bundle.profile

theorem profileId_matches (envelope : Accepted EnvironmentContractEnvelope) :
    envelope.1.secretsManifest.profileId = envelope.1.bundle.profile.profileId := by
  obtain ⟨_, raw, h⟩ := envelope.2
  have hrule := rules_of_twoLayers h
  rwa [EnvironmentContractEnvelope.manifestProfileMatches, require_eq_ok] at hrule

/-- A bundle and a manifest go together as soon as they are of one profile. -/
theorem accepted_together_iff (bundle : Accepted ConfigBundle)
    (manifest : Accepted SecretsManifest) :
    (∃ envelope : Accepted EnvironmentContractEnvelope,
        envelope.1.bundle = bundle.1 ∧ envelope.1.secretsManifest = manifest.1) ↔
      manifest.1.profileId = bundle.1.profile.profileId := by
  constructor
  · rintro ⟨envelope, hbundle, hmanifest⟩
    rw [← hbundle, ← hmanifest]
    exact profileId_matches envelope
  · intro hprofile
    obtain ⟨_, rawBundle, hbundle⟩ := bundle.2
    change rawBundle.validate = .ok bundle.1 at hbundle
    obtain ⟨tables, rawManifest, hmanifest⟩ := manifest.2
    change rawManifest.validate = .ok manifest.1 at hmanifest
    let raw : EnvironmentContractEnvelope :=
      { envelopeId := "envelope", bundle := rawBundle, secretsManifest := rawManifest }
    have hraw : raw.validate = .ok
        { envelopeId := strip "envelope"
          bundle := bundle.1
          secretsManifest := manifest.1 } := by
      refine (twoLayers_eq_ok _ _ _ _).mpr ⟨⟨?_, ?_⟩, ?_⟩
      · simp only [List.append_eq_nil_iff, nonBlank_eq_nil, errorsUnder_eq_nil]
        have hid : ¬ IsBlank "envelope" := by decide
        exact ⟨⟨hid, _, hbundle⟩, _, hmanifest⟩
      · rw [EnvironmentContractEnvelope.manifestProfileMatches, require_eq_ok]
        exact hprofile
      · simp only [raw, hbundle, hmanifest, valueD_ok]
    exact ⟨⟨_, tables, raw, hraw⟩, rfl, rfl⟩

/-- For every bundle there is a manifest of its profile that declares nothing. -/
theorem exists_emptyManifest (bundle : Accepted ConfigBundle) :
    ∃ manifest : Accepted SecretsManifest,
      manifest.1.profileId = bundle.1.profile.profileId ∧ manifest.1.secrets = [] := by
  obtain ⟨tables, raw, h⟩ := bundle.2
  obtain ⟨⟨herrors, -⟩, hbundle⟩ := (twoLayers_eq_ok _ _ _ _).mp h
  simp only [List.append_eq_nil_iff, errorsUnder_eq_nil] at herrors
  obtain ⟨profile, hvalid⟩ := herrors.2
  have hkept : bundle.1.profile = profile := by
    rw [← hbundle, hvalid, valueD_ok]
  obtain ⟨⟨hfields, -⟩, hprofile⟩ := (twoLayers_eq_ok _ _ _ _).mp hvalid
  simp only [List.append_eq_nil_iff, filled_eq_nil] at hfields
  have hid : ¬ IsBlank raw.profile.profileId := hfields.1.1.1.1
  let empty : SecretsManifest :=
    { manifestId := "manifest", profileId := raw.profile.profileId }
  have hempty : empty.validate = .ok
      { manifestId := strip "manifest"
        profileId := strip raw.profile.profileId
        secrets := [] } := by
    refine (twoLayers_eq_ok _ _ _ _).mpr ⟨⟨?_, by rfl⟩, by rfl⟩
    simp only [List.append_eq_nil_iff, filled_eq_nil, listErrors_eq_nil]
    have hmanifest : ¬ IsBlank "manifest" := by decide
    exact ⟨⟨hmanifest, hid⟩, fun s hs => absurd hs List.not_mem_nil⟩
  refine ⟨⟨_, tables, empty, hempty⟩, ?_, rfl⟩
  rw [hkept, ← hprofile]

/-- No validator compares the manifest with the secrets of the profile: a bundle is sure
to come with a manifest that declares them only where there are none. -/
theorem required_secrets_declared_iff (bundle : Accepted ConfigBundle) :
    (∀ envelope : Accepted EnvironmentContractEnvelope,
        envelope.1.bundle = bundle.1 → RequiredSecretsDeclared envelope.1) ↔
      requiredSecrets bundle.1.profile = [] := by
  constructor
  · intro hdeclared
    obtain ⟨manifest, hprofile, hnone⟩ := exists_emptyManifest bundle
    obtain ⟨envelope, hbundle, hmanifest⟩ := (accepted_together_iff bundle manifest).mpr hprofile
    rw [List.eq_nil_iff_forall_not_mem]
    intro s hs
    rw [← hbundle] at hs
    obtain ⟨declared, hmem, -⟩ := hdeclared envelope hbundle s hs
    rw [hmanifest, hnone] at hmem
    exact List.not_mem_nil hmem
  · intro hnone envelope hbundle s hs
    rw [hbundle, hnone] at hs
    exact absurd hs List.not_mem_nil

/-- A profile that requires a secret, with a manifest that declares none. -/
def undeclaredSecret : Accepted EnvironmentContractEnvelope :=
  build
    { envelopeId := "env-001"
      bundle :=
        { bundleId := "bundle-001"
          profile :=
            { profileId := "prof-local"
              name := "Local Development"
              secrets := [{ secretId := "sec-001", name := "db_password" }] } }
      secretsManifest := { manifestId := "manifest-001", profileId := "prof-local" } }
    (by decide)

theorem undeclaredSecret_accepted : ¬ RequiredSecretsDeclared undeclaredSecret.1 := by
  unfold RequiredSecretsDeclared
  decide

end Declared

end NovaHarness.EnvironmentSecrets
