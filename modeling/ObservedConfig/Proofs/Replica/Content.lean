import ObservedConfig.Proofs.Replica.Plan

/-! What is compared and what is copied. A copy carries the texts and the bytes of its source, while
a comparison looks at texts alone, at those of one key or at all. So a copy is in sync with its
source unless this lacks the key that is compared, and a replica is found in sync also when its bytes
are not those of the source. -/
namespace ObservedConfig

/-- All that a config map holds; an absent map counts as an empty one. -/
def ConfigMap.payload (c : ConfigMap) : TextMap × BytesMap := (c.texts, c.binaryData.getD [])

theorem Snapshot.configMap_addConfigMap (cluster : Snapshot) (c : ConfigMap) (place : Location) :
    (cluster.addConfigMap c).lookup.configMap place =
      if place = c.location then .ok (some c) else cluster.lookup.configMap place := by
  simp only [Snapshot.addConfigMap, Snapshot.lookup, Snapshot.configMap?]
  split
  next same => rw [same, Entries.find?_insert_same]
  next other => rw [Entries.find?_insert_other other]

namespace Replica

variable {target source : Location} {key : Option String} {object existing : ConfigMap}
  {plan : Plan}

@[simp] theorem texts_copied (target : Location) (object : ConfigMap) :
    (copied target object).texts = object.texts := rfl

@[simp] theorem location_copied (target : Location) (object : ConfigMap) :
    (copied target object).location = target := rfl

/-- The texts hold the key that is compared, if one is; an empty key counts as none. -/
def Keyed (texts : TextMap) (key : Option String) : Prop :=
  ∀ k, key = some k → k ≠ "" → (Entries.find? k texts).isSome

/-- Without a key all texts count. -/
theorem differs_of_whole (whole : key = none ∨ key = some "") (current desired : TextMap) :
    differs current desired key = .ok (current != desired) := by
  rcases whole with rfl | rfl <;> rfl

theorem differs_self {texts : TextMap} (keyed : Keyed texts key) :
    differs texts texts key = .ok false := by
  cases key with
  | none => simp [differs_of_whole]
  | some k =>
    by_cases blank : k = ""
    · simp [differs_of_whole, blank]
    · obtain ⟨value, found⟩ := Option.isSome_iff_exists.mp (keyed k rfl blank)
      simp [differs, Option.filter, blank, found]

theorem differs_of_missing {k : String} (filled : k ≠ "") {current desired : TextMap}
    (notHere : Entries.find? k current = none) (notThere : Entries.find? k desired = none) :
    differs current desired (some k) = .error (.comparisonKeyMissing k) := by
  simp [differs, Option.filter, filled, notHere, notThere]

/-- What is announced as synced has a source with a name. -/
theorem named_of_synced {lookup : Lookup} (planned : planSync lookup target source key = .ok plan)
    (copying : plan.outcome = .synced) : source.isEmpty = false := by
  simp only [planSync, bind_eq_ok] at planned
  obtain ⟨needed, -, planned⟩ := planned
  cases gone : source.isEmpty with
  | false => rfl
  | true =>
    -- Without a source the plan is for a deletion or for nothing.
    cases needed <;> simp [gone] at planned <;> subst planned <;> cases copying

/-- Carrying out a planned copy settles the decision: afterwards the replica is in sync. Only when
the source lacks the key that is compared does the copy lack it too, and the comparison fails. -/
theorem needsSync_of_copied {cluster : Snapshot} (apart : source ≠ target)
    (found : cluster.configMap? source = some object)
    (planned : planSync cluster.lookup target source key = .ok plan)
    (copying : plan.outcome = .synced) :
    (Keyed object.texts key →
      needsSync (cluster.addConfigMap (copied target object)).lookup target source key =
        .ok false) ∧
    (∀ k, key = some k → k ≠ "" → Entries.find? k object.texts = none →
      needsSync (cluster.addConfigMap (copied target object)).lookup target source key =
        .error (.comparisonKeyMissing k)) := by
  have named : source.isEmpty = false := named_of_synced planned copying
  have present : (cluster.addConfigMap (copied target object)).lookup.configMap target =
      .ok (some (copied target object)) := by
    rw [Snapshot.configMap_addConfigMap, location_copied, if_pos rfl]
  have kept : (cluster.addConfigMap (copied target object)).lookup.configMap source =
      .ok (some object) := by
    rw [Snapshot.configMap_addConfigMap, location_copied, if_neg apart]
    exact congrArg Except.ok found
  rw [needsSync_of_found present named kept, texts_copied]
  constructor
  · exact differs_self
  · rintro k rfl filled missing
    exact differs_of_missing filled missing missing

def issuerBundle : Location := ⟨"openshift-config", "idp-ca"⟩

def mountedBundle : Location := ⟨"openshift-kube-apiserver", "oidc-serving-ca-bundle"⟩

def bundle (key : String) : ConfigMap :=
  { ConfigMap.blank with
    metadata := .located issuerBundle.namespaceName issuerBundle.name
    data := some [(key, "PEM")] }

/-- With and without the key that is compared, a bundle that has no replica is to be copied. -/
theorem needsSync_of_copied_bundle :
    planSync (Snapshot.empty.addConfigMap (bundle "ca-bundle.crt")).lookup mountedBundle issuerBundle
        (some "ca-bundle.crt") = .ok ⟨mountedBundle, some issuerBundle, .synced⟩ ∧
    needsSync ((Snapshot.empty.addConfigMap (bundle "ca-bundle.crt")).addConfigMap
        (copied mountedBundle (bundle "ca-bundle.crt"))).lookup mountedBundle issuerBundle
        (some "ca-bundle.crt") = .ok false ∧
    planSync (Snapshot.empty.addConfigMap (bundle "tls.crt")).lookup mountedBundle issuerBundle
        (some "ca-bundle.crt") = .ok ⟨mountedBundle, some issuerBundle, .synced⟩ ∧
    needsSync ((Snapshot.empty.addConfigMap (bundle "tls.crt")).addConfigMap
        (copied mountedBundle (bundle "tls.crt"))).lookup mountedBundle issuerBundle
        (some "ca-bundle.crt") = .error (.comparisonKeyMissing "ca-bundle.crt") := by
  have keyed : Keyed (bundle "ca-bundle.crt").texts (some "ca-bundle.crt") := by
    rintro k ⟨⟩ -
    rfl
  have apart : issuerBundle ≠ mountedBundle := by decide
  have planned key : planSync (Snapshot.empty.addConfigMap (bundle key)).lookup mountedBundle
      issuerBundle (some "ca-bundle.crt") = .ok ⟨mountedBundle, some issuerBundle, .synced⟩ := rfl
  have found key : (Snapshot.empty.addConfigMap (bundle key)).configMap? issuerBundle =
      some (bundle key) := rfl
  have settled := needsSync_of_copied apart (found "ca-bundle.crt") (planned "ca-bundle.crt") rfl
  have failing := needsSync_of_copied apart (found "tls.crt") (planned "tls.crt") rfl
  exact ⟨planned _, settled.1 keyed, planned _, failing.2 _ rfl (by decide) rfl⟩

/-- A copy of a bundle without the key that is compared is announced and made, and is not in sync
afterwards. -/
theorem keyless_copy_unsettled :
    issuerBundle ≠ mountedBundle ∧
    (Snapshot.empty.addConfigMap (bundle "tls.crt")).configMap? issuerBundle =
      some (bundle "tls.crt") ∧
    planSync (Snapshot.empty.addConfigMap (bundle "tls.crt")).lookup mountedBundle issuerBundle
      (some "ca-bundle.crt") = .ok ⟨mountedBundle, some issuerBundle, .synced⟩ ∧
    needsSync ((Snapshot.empty.addConfigMap (bundle "tls.crt")).addConfigMap
      (copied mountedBundle (bundle "tls.crt"))).lookup mountedBundle issuerBundle
      (some "ca-bundle.crt") ≠ .ok false := by
  refine ⟨by decide, rfl, rfl, ?_⟩
  rintro ⟨⟩

/-- A comparison of all contents never fails, and it is one of texts: nothing needs to be done just
when the target has the texts that a copy would have. It holds what a copy would hold just when it
has the same bytes besides. -/
theorem needsSync_whole {lookup : Lookup} {desired : ConfigMap}
    (whole : key = none ∨ key = some "") (named : source.isEmpty = false)
    (present : lookup.configMap target = .ok (some existing))
    (found : lookup.configMap source = .ok (some desired)) :
    (∃ needed, needsSync lookup target source key = .ok needed) ∧
    (needsSync lookup target source key = .ok false ↔
      existing.texts = (copied target desired).texts) ∧
    (existing.payload = (copied target desired).payload ↔
      needsSync lookup target source key = .ok false ∧
        existing.binaryData.getD [] = (copied target desired).binaryData.getD []) := by
  have compared : needsSync lookup target source key = .ok (existing.texts != desired.texts) := by
    rw [needsSync_of_found present named found, differs_of_whole whole]
  have inSync : needsSync lookup target source key = .ok false ↔
      existing.texts = (copied target desired).texts := by
    rw [compared, texts_copied]
    simp
  refine ⟨⟨_, compared⟩, inSync, ?_⟩
  rw [inSync, Prod.ext_iff]
  rfl

def trustStore (bytes : Base64.Bytes) : ConfigMap :=
  { bundle "ca-bundle.crt" with binaryData := some [("truststore.jks", bytes)] }

/-- A cluster with a trust store and a replica of what it was before. -/
def staleCluster : Snapshot :=
  (Snapshot.empty.addConfigMap (trustStore [1])).addConfigMap (copied mountedBundle (trustStore [0]))

theorem needsSync_whole_of_stale_bytes :
    staleCluster.configMap? mountedBundle = some (copied mountedBundle (trustStore [0])) ∧
    staleCluster.configMap? issuerBundle = some (trustStore [1]) ∧
    needsSync staleCluster.lookup mountedBundle issuerBundle none = .ok false ∧
    (copied mountedBundle (trustStore [0])).payload ≠
      (copied mountedBundle (trustStore [1])).payload := by
  have present : staleCluster.lookup.configMap mountedBundle =
      .ok (some (copied mountedBundle (trustStore [0]))) := rfl
  have found : staleCluster.lookup.configMap issuerBundle = .ok (some (trustStore [1])) := rfl
  have whole := needsSync_whole (.inl rfl) (by decide) present found
  exact ⟨rfl, rfl, whole.2.1.mpr rfl, fun same => absurd (whole.2.2.mp same).2 (by decide)⟩

/-- Bytes that have changed at the source are not seen: no copy is wanted although it would change
the replica. -/
theorem stale_bytes_in_sync :
    needsSync staleCluster.lookup mountedBundle issuerBundle none = .ok false ∧
    (copied mountedBundle (trustStore [0])).payload ≠
      (copied mountedBundle (trustStore [1])).payload :=
  ⟨rfl, by decide⟩

end Replica

end ObservedConfig
