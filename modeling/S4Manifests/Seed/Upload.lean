import S4Manifests.Python.Text
import S4Manifests.Trace

/-!
`seed_data.py`'s `upload_to_s4`: one `put_object` of the manifest's JSON into the `cop-demo`
bucket, with one metadata entry per attribute tag keyed by the tag's index, and the `s3://`
reference to the object as its result.
-/

namespace S4Manifests

def s4Bucket : PyStr := pyStr "cop-demo"

def attributeKey (i : Nat) : PyStr := pyStr "tdf-data-attribute-" ++ decimalStr i

def attributeMetadata (attributes : List PyStr) : PyDict PyStr :=
  attributes.enum.foldl (fun metadata (i, attr) => metadata.setItem (attributeKey i) attr)
    PyDict.empty

def uploadToS4 (dumps : PyVal → Except PyException PyStr) (client : S3Client) (filename : PyStr)
    (dataDict : PyVal) (attributes : List PyStr) : List Event × Except PyException PyStr :=
  match dumps dataDict with
  | .error e => ([], .error e)
  | .ok text =>
    match utf8Encode text with
    | .error start => ([], .error (.unicodeEncodeError start))
    | .ok payload =>
      let request : PutObjectRequest :=
        { bucket := s4Bucket, key := filename, body := payload,
          metadata := attributeMetadata attributes }
      match client.putObject request with
      | some e => ([.putObject request], .error e)
      | none => ([.putObject request], .ok (pyStr "s3://" ++ s4Bucket ++ pyStr "/" ++ filename))

theorem attributeKey_injective : Function.Injective attributeKey := fun _ _ same =>
  decimalStr_injective (List.append_cancel_left same)

theorem foldl_enumFrom_setItem (attributes : List PyStr) (start : Nat) (metadata : PyDict PyStr)
    (fresh : ∀ i, start ≤ i → attributeKey i ∉ metadata.entries.map Prod.fst) :
    ((attributes.enumFrom start).foldl
        (fun metadata (i, attr) => metadata.setItem (attributeKey i) attr) metadata).entries =
      metadata.entries ++ (attributes.enumFrom start).map fun (i, attr) => (attributeKey i, attr) := by
  induction attributes generalizing start metadata with
  | nil => simp
  | cons attr rest ih =>
    simp only [List.enumFrom_cons, List.foldl_cons, List.map_cons]
    have added := metadata.setItem_fresh attr (fresh start (Nat.le_refl start))
    rw [ih (start + 1) _ fun i later => ?_, added, List.append_assoc, List.singleton_append]
    rw [added, List.map_append, List.mem_append, not_or]
    refine ⟨fresh i (by omega), ?_⟩
    simpa using fun same => absurd (attributeKey_injective same) (by omega)

theorem attributeMetadata_entries (attributes : List PyStr) :
    (attributeMetadata attributes).entries =
      attributes.enum.map fun (i, attr) => (attributeKey i, attr) := by
  simpa [PyDict.empty] using foldl_enumFrom_setItem attributes 0 PyDict.empty (by simp [PyDict.empty])

theorem lookup_enumFrom_attributeKey (attributes : List PyStr) (start i : Nat)
    (bound : i < attributes.length) :
    ((attributes.enumFrom start).map fun (j, attr) => (attributeKey j, attr)).lookup
      (attributeKey (start + i)) = some attributes[i] := by
  induction attributes generalizing start i with
  | nil => cases bound
  | cons attr rest ih =>
    cases i with
    | zero => simp [List.lookup_cons]
    | succ i =>
      have other : (attributeKey (start + (i + 1)) == attributeKey start) = false := by
        simpa using fun same => absurd (attributeKey_injective same) (by omega)
      simp only [List.enumFrom_cons, List.map_cons, List.lookup_cons, other,
        List.getElem_cons_succ]
      rw [show start + (i + 1) = start + 1 + i by omega]
      exact ih (start + 1) i (by simpa using bound)

theorem putObjectCalls_uploadToS4 (dumps : PyVal → Except PyException PyStr) (client : S3Client)
    (filename : PyStr) (dataDict : PyVal) (attributes : List PyStr) :
    ∀ request ∈ putObjectCalls (uploadToS4 dumps client filename dataDict attributes).1,
      request.bucket = s4Bucket ∧ request.key = filename ∧
        request.metadata = attributeMetadata attributes := by
  unfold uploadToS4
  split
  · simp [putObjectCalls]
  · split
    · simp [putObjectCalls]
    · dsimp only
      split <;> simp [putObjectCalls]

theorem attributeMetadata_keys (attributes : List PyStr) :
    (attributeMetadata attributes).entries.map Prod.fst =
      (List.range attributes.length).map attributeKey := by
  rw [attributeMetadata_entries, List.map_map, ← List.enum_map_fst, List.map_map]
  exact List.map_congr_left fun ⟨_, _⟩ _ => rfl

theorem attributeMetadata_values (attributes : List PyStr) :
    (attributeMetadata attributes).entries.map Prod.snd = attributes := by
  rw [attributeMetadata_entries, List.map_map]
  conv_rhs => rw [← List.enum_map_snd attributes]
  exact List.map_congr_left fun ⟨_, _⟩ _ => rfl

/-- `upload_to_s4` puts one metadata entry per tag, keyed by the tag's index. -/
theorem uploadToS4_metadata_one_entry_per_tag (dumps : PyVal → Except PyException PyStr)
    (client : S3Client) (filename : PyStr) (dataDict : PyVal) (attributes : List PyStr) :
    ∀ request ∈ putObjectCalls (uploadToS4 dumps client filename dataDict attributes).1,
      request.metadata.entries = attributes.enum.map (fun (i, attr) => (attributeKey i, attr)) ∧
      request.metadata.entries.length = attributes.length ∧
      request.metadata.entries.map Prod.fst = (List.range attributes.length).map attributeKey ∧
      (∀ (i : Nat) (bound : i < attributes.length),
        request.metadata.entries.lookup (attributeKey i) = some attributes[i]) ∧
      ∀ permuted : List PyStr, permuted.Perm attributes →
        (attributeMetadata permuted).entries.map Prod.fst = request.metadata.entries.map Prod.fst ∧
        ((attributeMetadata permuted).entries.map Prod.snd).Perm
          (request.metadata.entries.map Prod.snd) := by
  intro request sent
  obtain ⟨-, -, carried⟩ := putObjectCalls_uploadToS4 dumps client filename dataDict attributes
    request sent
  rw [carried]
  refine ⟨attributeMetadata_entries attributes, by simp [attributeMetadata_entries],
    attributeMetadata_keys attributes, fun i bound => ?_, fun permuted reordered => ?_⟩
  · simpa [attributeMetadata_entries] using lookup_enumFrom_attributeKey attributes 0 i bound
  · rw [attributeMetadata_keys, attributeMetadata_keys, reordered.length_eq,
      attributeMetadata_values, attributeMetadata_values]
    exact ⟨rfl, reordered⟩

theorem uploadToS4_metadata_two_tags :
    ({ bucket := s4Bucket, key := pyStr "manifests/m.json.tdf", body := [91, 93],
        metadata := attributeMetadata [pyStr "topsecret", pyStr "bbb"] } : PutObjectRequest) ∈
      putObjectCalls (uploadToS4 (fun _ => .ok (pyStr "[]"))
        ⟨fun _ _ => .error (.clientError none), fun _ => none⟩ (pyStr "manifests/m.json.tdf") (.list [])
        [pyStr "topsecret", pyStr "bbb"]).1 ∧
    (attributeMetadata [pyStr "topsecret", pyStr "bbb"]).entries =
      [pyStr "topsecret", pyStr "bbb"].enum.map (fun (i, attr) => (attributeKey i, attr)) :=
  have sent := List.mem_singleton_self
    ({ bucket := s4Bucket, key := pyStr "manifests/m.json.tdf", body := [91, 93],
        metadata := attributeMetadata [pyStr "topsecret", pyStr "bbb"] } : PutObjectRequest)
  ⟨sent, (uploadToS4_metadata_one_entry_per_tag (fun _ => .ok (pyStr "[]"))
    ⟨fun _ _ => .error (.clientError none), fun _ => none⟩ (pyStr "manifests/m.json.tdf") (.list [])
    [pyStr "topsecret", pyStr "bbb"] _ sent).1⟩

theorem uploadToS4_returned {dumps : PyVal → Except PyException PyStr} {client : S3Client}
    {filename : PyStr} {dataDict : PyVal} {attributes : List PyStr} {events : List Event}
    {uri : PyStr} (returned : uploadToS4 dumps client filename dataDict attributes = (events, .ok uri)) :
    uri = pyStr "s3://" ++ s4Bucket ++ pyStr "/" ++ filename ∧
      ∃ request, events = [.putObject request] ∧ request.bucket = s4Bucket ∧
        request.key = filename ∧ request.metadata = attributeMetadata attributes := by
  unfold uploadToS4 at returned
  split at returned
  · cases returned
  · split at returned
    · cases returned
    · dsimp only at returned
      split at returned
      · cases returned
      · simp only [Prod.mk.injEq, Except.ok.injEq] at returned
        exact ⟨returned.2.symm, _, returned.1.symm, rfl, rfl, rfl⟩

end S4Manifests
