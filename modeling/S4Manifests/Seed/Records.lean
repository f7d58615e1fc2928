import S4Manifests.Seed.Upload
import S4Manifests.Store

/-!
The uploads of `seed_data.py`'s `generate_tdf_records` (`uploadManifests`): each record's manifest
goes to the store under `manifests/{random_id}.json.tdf`, tagged with `manifest_attributes`,
and a failed upload leaves the record's `manifest` reference `None`.
-/

namespace S4Manifests

def manifestKey (randomId : PyStr) : PyStr := pyStr "manifests/" ++ randomId ++ pyStr ".json.tdf"

def needToKnowAttr : PyStr := pyStr "https://demo.com/attr/needtoknow/value/bbb"

def manifestAttributes : List PyStr :=
  [pyStr "https://demo.com/attr/classification/value/topsecret", needToKnowAttr]

def uploadManifests (dumps : PyVal → Except PyException PyStr) (client : S3Client) :
    ObjectStore → List (PyStr × PyVal) → List (Option PyStr) × ObjectStore
  | store, [] => ([], store)
  | store, (randomId, manifest) :: rest =>
    let uploaded := uploadToS4 dumps client (manifestKey randomId) manifest manifestAttributes
    let later := uploadManifests dumps client (store.apply client uploaded.1) rest
    (uploaded.2.toOption :: later.1, later.2)

theorem uploadManifests_length (dumps : PyVal → Except PyException PyStr) (client : S3Client)
    (store : ObjectStore) (uploads : List (PyStr × PyVal)) :
    (uploadManifests dumps client store uploads).1.length = uploads.length := by
  induction uploads generalizing store with
  | nil => rfl
  | cons upload rest ih => simp [uploadManifests, ih]

theorem manifestKey_injective : Function.Injective manifestKey := fun _ _ same =>
  List.append_cancel_left (List.append_cancel_right same)

theorem manifestKey_ne_nil (randomId : PyStr) : manifestKey randomId ≠ [] := by
  simp [manifestKey, pyStr]

@[simp] theorem tags_attributeMetadata (body : List UInt8) (attributes : List PyStr) :
    (StoredObject.mk body (attributeMetadata attributes)).tags = attributes :=
  attributeMetadata_values attributes

theorem read_uploaded {store : ObjectStore} {holds : PyStr → Bool} {key : PyStr}
    {payload : List UInt8}
    (found : store.find s4Bucket key = some ⟨payload, attributeMetadata manifestAttributes⟩)
    (entitled : ∀ tag ∈ manifestAttributes, holds tag = true) :
    store.read holds s4Bucket key = .ok payload :=
  ObjectStore.read_of_find found (by rw [tags_attributeMetadata]; exact List.all_eq_true.mpr entitled)

theorem read_uploaded_denied {store : ObjectStore} {holds : PyStr → Bool} {key : PyStr}
    {payload : List UInt8}
    (found : store.find s4Bucket key = some ⟨payload, attributeMetadata manifestAttributes⟩)
    (lacking : ∃ tag ∈ manifestAttributes, holds tag = false) :
    store.read holds s4Bucket key = .error (.clientError (some (pyStr "AccessDenied"))) := by
  obtain ⟨tag, member, lacks⟩ := lacking
  exact ObjectStore.read_of_find_denied found
    (by rw [tags_attributeMetadata]; exact List.all_eq_false.mpr ⟨tag, member, by simp [lacks]⟩)

theorem uploadToS4_store (dumps : PyVal → Except PyException PyStr) (client : S3Client)
    (store : ObjectStore) (filename : PyStr) (dataDict : PyVal) (attributes : List PyStr) :
    (∃ text payload, dumps dataDict = .ok text ∧ utf8Encode text = .ok payload ∧
      (uploadToS4 dumps client filename dataDict attributes).2 =
        .ok (pyStr "s3://" ++ s4Bucket ++ pyStr "/" ++ filename) ∧
      store.apply client (uploadToS4 dumps client filename dataDict attributes).1 =
        store.put ⟨s4Bucket, filename, payload, attributeMetadata attributes⟩) ∨
    (store.apply client (uploadToS4 dumps client filename dataDict attributes).1 = store ∧
      ∃ e, (uploadToS4 dumps client filename dataDict attributes).2 = .error e) := by
  cases dumped : dumps dataDict with
  | error e => exact .inr ⟨by simp [uploadToS4, dumped, ObjectStore.apply, putObjectCalls], e,
      by simp [uploadToS4, dumped]⟩
  | ok text =>
    cases encoded : utf8Encode text with
    | error start =>
      exact .inr ⟨by simp [uploadToS4, dumped, encoded, ObjectStore.apply, putObjectCalls],
        .unicodeEncodeError start, by simp [uploadToS4, dumped, encoded]⟩
    | ok payload =>
      cases put : client.putObject ⟨s4Bucket, filename, payload, attributeMetadata attributes⟩ with
      | some e =>
        exact .inr ⟨by simp [uploadToS4, dumped, encoded, put, ObjectStore.apply_putObject], e,
          by simp [uploadToS4, dumped, encoded, put]⟩
      | none =>
        exact .inl ⟨text, payload, rfl, encoded, by simp [uploadToS4, dumped, encoded, put],
          by simp [uploadToS4, dumped, encoded, put, ObjectStore.apply_putObject]⟩

theorem uploadManifests_find_other (dumps : PyVal → Except PyException PyStr) (client : S3Client)
    (store : ObjectStore) (uploads : List (PyStr × PyVal)) (randomId : PyStr)
    (absent : randomId ∉ uploads.map Prod.fst) :
    (uploadManifests dumps client store uploads).2.find s4Bucket (manifestKey randomId) =
      store.find s4Bucket (manifestKey randomId) := by
  induction uploads generalizing store with
  | nil => rfl
  | cons upload rest ih =>
    obtain ⟨otherId, manifest⟩ := upload
    simp only [List.map_cons, List.mem_cons, not_or] at absent
    simp only [uploadManifests]
    rw [ih _ absent.2, ObjectStore.find_apply_untouched]
    intro request sent same
    have underKey := (putObjectCalls_uploadToS4 dumps client (manifestKey otherId) manifest
      manifestAttributes request sent).2.1
    exact absent.1 (manifestKey_injective (underKey ▸ (Prod.mk.inj same).2)).symm

/-- After a run of uploads, every returned reference names its manifest in the store. -/
theorem uploadManifests_stored (dumps : PyVal → Except PyException PyStr) (client : S3Client)
    (store : ObjectStore) (uploads : List (PyStr × PyVal)) (distinct : (uploads.map Prod.fst).Nodup)
    (i : Nat) (uri : PyStr) (returned : (uploadManifests dumps client store uploads).1[i]? = some (some uri)) :
    ∃ randomId manifest text payload, uploads[i]? = some (randomId, manifest) ∧
      uri = pyStr "s3://" ++ s4Bucket ++ pyStr "/" ++ manifestKey randomId ∧
      dumps manifest = .ok text ∧ utf8Encode text = .ok payload ∧
      (uploadManifests dumps client store uploads).2.find s4Bucket (manifestKey randomId) =
        some ⟨payload, attributeMetadata manifestAttributes⟩ := by
  induction uploads generalizing store i with
  | nil => simp [uploadManifests] at returned
  | cons upload rest ih =>
    obtain ⟨randomId, manifest⟩ := upload
    simp only [List.map_cons, List.nodup_cons] at distinct
    rcases uploadToS4_store dumps client store (manifestKey randomId) manifest manifestAttributes with
      ⟨text, payload, dumped, encoded, result, applied⟩ | ⟨same, e, failed⟩
    · cases i with
      | zero =>
        simp only [uploadManifests, result, List.getElem?_cons_zero, Option.some.injEq,
          Except.toOption] at returned
        subst returned
        refine ⟨randomId, manifest, text, payload, by simp, rfl, dumped, encoded, ?_⟩
        simp only [uploadManifests, applied]
        rw [uploadManifests_find_other _ _ _ _ _ distinct.1, ObjectStore.find_put, if_pos rfl]
      | succ i =>
        simp only [uploadManifests, applied, List.getElem?_cons_succ] at returned ⊢
        exact ih _ distinct.2 i returned
    · cases i with
      | zero => simp [uploadManifests, failed, Except.toOption] at returned
      | succ i =>
        simp only [uploadManifests, same, List.getElem?_cons_succ] at returned ⊢
        exact ih _ distinct.2 i returned

end S4Manifests
