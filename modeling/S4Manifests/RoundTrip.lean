import S4Manifests.Json.Reload
import S4Manifests.Read.Fetch
import S4Manifests.Seed.Records

/-!
The two scripts agree on where a manifest lives and on what it holds: the reference the seeder
stores parses back to the bucket and key it wrote, and an entitled reader reads there the
manifest's JSON text, and with the real `json.dumps` the manifest itself.
-/

namespace S4Manifests

theorem slash_not_mem_s4Bucket : slash ∉ s4Bucket := by decide

theorem s4Bucket_ne_nil : s4Bucket ≠ [] := by decide

theorem uploadReference_eq (filename : PyStr) :
    pyStr "s3://" ++ s4Bucket ++ pyStr "/" ++ filename = pyStr "s3://" ++ s4Bucket ++ slash :: filename := by
  simp only [List.append_assoc]
  rfl

theorem parseS3Uri_uploadReference (filename : PyStr) :
    parseS3Uri (.str (pyStr "s3://" ++ s4Bucket ++ pyStr "/" ++ filename)) =
      .ok (some s4Bucket, some filename) := by
  rw [uploadReference_eq, List.append_assoc, parseS3Uri_scheme,
    splitOnce_append slash_not_mem_s4Bucket]

/-- The object reference is parsed back to the bucket and key the seeder wrote, bijectively. -/
theorem s3Reference_round_trip (limits : JsonLimits) (reader : S3Client) :
    (∀ (dumps : PyVal → Except PyException PyStr) (seeder : S3Client) (filename : PyStr)
        (dataDict : PyVal) (attributes : List PyStr) (events : List Event) (uri : PyStr),
      uploadToS4 dumps seeder filename dataDict attributes = (events, .ok uri) →
        parseS3Uri (.str uri) = .ok (some s4Bucket, some filename) ∧
        ∃ request, putObjectCalls events = [request] ∧ request.bucket = s4Bucket ∧
          request.key = filename ∧
          (filename ≠ [] → getObjectCalls (fetchManifestFromS4 limits reader (.str uri)).1 =
            [(request.bucket, request.key)]) ∧
          (filename = [] → fetchManifestFromS4 limits reader (.str uri) =
            ([invalidS3Uri (.str uri)], .ok .none))) ∧
    (∀ u bucket key : PyStr,
      getObjectCalls (fetchManifestFromS4 limits reader (.str u)).1 = [(bucket, key)] ↔
        u = pyStr "s3://" ++ bucket ++ pyStr "/" ++ key ∧ bucket ≠ [] ∧ slash ∉ bucket ∧
          key ≠ []) ∧
    (∀ u : PyStr, (∀ bucket key, ¬ Dispatched u bucket key) →
      fetchManifestFromS4 limits reader (.str u) = ([invalidS3Uri (.str u)], .ok .none)) ∧
    (∀ u u' bucket key : PyStr,
      getObjectCalls (fetchManifestFromS4 limits reader (.str u)).1 = [(bucket, key)] →
      getObjectCalls (fetchManifestFromS4 limits reader (.str u')).1 = [(bucket, key)] →
        u = u') := by
  refine ⟨fun dumps seeder filename dataDict attributes events uri returned => ?_,
    fun u bucket key => ?_, fun u never => ?_, fun u u' bucket key first second => ?_⟩
  · obtain ⟨rfl, request, rfl, inBucket, underKey, -⟩ := uploadToS4_returned returned
    refine ⟨parseS3Uri_uploadReference filename, request, rfl, inBucket, underKey,
      fun full => ?_, fun empty => ?_⟩
    · rw [getObjectCalls_fetchManifestFromS4_str, inBucket, underKey, uploadReference_eq]
      exact ⟨rfl, s4Bucket_ne_nil, slash_not_mem_s4Bucket, full⟩
    · rcases fetchManifestFromS4_str limits reader
        (pyStr "s3://" ++ s4Bucket ++ pyStr "/" ++ filename) with ⟨b, k, dispatched, -⟩ | ⟨-, fetched⟩
      · have stored : Dispatched (pyStr "s3://" ++ s4Bucket ++ pyStr "/" ++ filename) b k := dispatched
        rw [uploadReference_eq] at stored
        have same := stored.1
        simp only [List.append_assoc, List.append_cancel_left_eq] at same
        exact absurd (first_slash_unique slash_not_mem_s4Bucket stored.2.2.1 same).2
          (by rw [empty]; exact stored.2.2.2.symm)
      · exact fetched
  · rw [getObjectCalls_fetchManifestFromS4_str, Dispatched, List.append_assoc, List.append_assoc]
    rfl
  · rcases fetchManifestFromS4_str limits reader u with ⟨b, k, dispatched, -⟩ | ⟨-, fetched⟩
    · exact absurd dispatched (never b k)
    · exact fetched
  · rw [getObjectCalls_fetchManifestFromS4_str] at first second
    exact first.1.trans second.1.symm

theorem s3Reference_round_trip_seeded :
    uploadToS4 (fun _ => .ok (pyStr "[]")) ⟨fun _ _ => .error (.clientError none), fun _ => none⟩
        (pyStr "manifests/m.json.tdf") (.list []) [] =
      ([.putObject
          { bucket := s4Bucket, key := pyStr "manifests/m.json.tdf", body := [91, 93],
            metadata := attributeMetadata [] }],
        .ok (pyStr "s3://cop-demo/manifests/m.json.tdf")) ∧
    parseS3Uri (.str (pyStr "s3://cop-demo/manifests/m.json.tdf")) =
      .ok (some s4Bucket, some (pyStr "manifests/m.json.tdf")) :=
  ⟨rfl, ((s3Reference_round_trip ⟨1000, 4300⟩ ⟨fun _ _ => .error (.clientError none), fun _ => none⟩).1
    (fun _ => .ok (pyStr "[]")) ⟨fun _ _ => .error (.clientError none), fun _ => none⟩
    (pyStr "manifests/m.json.tdf") (.list []) [] _ _ rfl).1⟩

theorem fetchManifestFromS4_uploadReference (limits : JsonLimits) (client : S3Client)
    (filename : PyStr) (named : filename ≠ []) :
    fetchManifestFromS4 limits client (.str (pyStr "s3://" ++ s4Bucket ++ pyStr "/" ++ filename)) =
      getManifestObject limits client (.str (pyStr "s3://" ++ s4Bucket ++ pyStr "/" ++ filename))
        s4Bucket filename := by
  have dispatched : Dispatched (pyStr "s3://" ++ s4Bucket ++ pyStr "/" ++ filename) s4Bucket filename :=
    ⟨uploadReference_eq filename, s4Bucket_ne_nil, slash_not_mem_s4Bucket, named⟩
  rcases fetchManifestFromS4_str limits client (pyStr "s3://" ++ s4Bucket ++ pyStr "/" ++ filename)
    with ⟨bucket, key, found, fetched⟩ | ⟨never, -⟩
  · obtain ⟨rfl, rfl⟩ := found.unique dispatched
    exact fetched
  · exact absurd dispatched (never _ _)

theorem getManifestObject_encoded (limits : JsonLimits) (client : S3Client) (s3Uri : PyVal)
    (bucket key text : PyStr) (payload : List UInt8) (encoded : utf8Encode text = .ok payload)
    (answer : client.getObject bucket key = .ok payload) :
    getManifestObject limits client s3Uri bucket key =
      ([.getObject bucket key], loadsOrText limits text) := by
  simp [getManifestObject, answer, utf8Decode_utf8Encode encoded]

/-- An entitled reader fetches for each seeded reference the JSON text the seeder wrote. -/
theorem uploadManifests_read_back (limits : JsonLimits) (dumps : PyVal → Except PyException PyStr)
    (seeder : S3Client) (store : ObjectStore) (uploads : List (PyStr × PyVal))
    (distinct : (uploads.map Prod.fst).Nodup) (holds : PyStr → Bool)
    (entitled : ∀ tag ∈ manifestAttributes, holds tag = true) (i : Nat) (uri : PyStr)
    (returned : (uploadManifests dumps seeder store uploads).1[i]? = some (some uri)) :
    ∃ randomId manifest text, uploads[i]? = some (randomId, manifest) ∧ dumps manifest = .ok text ∧
      fetchManifestFromS4 limits ((uploadManifests dumps seeder store uploads).2.client holds)
          (.str uri) =
        ([.getObject s4Bucket (manifestKey randomId)], loadsOrText limits text) := by
  obtain ⟨randomId, manifest, text, payload, listed, rfl, dumped, encoded, stored⟩ :=
    uploadManifests_stored dumps seeder store uploads distinct i uri returned
  refine ⟨randomId, manifest, text, listed, dumped, ?_⟩
  rw [fetchManifestFromS4_uploadReference _ _ _ (manifestKey_ne_nil randomId)]
  exact getManifestObject_encoded _ _ _ _ _ _ _ encoded (read_uploaded stored entitled)

theorem uploadManifests_read_back_single :
    ([(pyStr "a", PyVal.list [])].map Prod.fst).Nodup ∧
    (∀ tag ∈ manifestAttributes, (fun _ => true : PyStr → Bool) tag = true) ∧
    (uploadManifests (fun _ => .ok (pyStr "[]")) ⟨fun _ _ => .error (.clientError none), fun _ => none⟩
        ⟨[]⟩ [(pyStr "a", .list [])]).1[0]? =
      some (some (pyStr "s3://cop-demo/manifests/a.json.tdf")) ∧
    ∃ randomId manifest text, [(pyStr "a", PyVal.list [])][0]? = some (randomId, manifest) ∧
      (fun _ => .ok (pyStr "[]") : PyVal → Except PyException PyStr) manifest = .ok text ∧
      fetchManifestFromS4 ⟨1000, 4300⟩
          ((uploadManifests (fun _ => .ok (pyStr "[]"))
            ⟨fun _ _ => .error (.clientError none), fun _ => none⟩ ⟨[]⟩
            [(pyStr "a", .list [])]).2.client fun _ => true)
          (.str (pyStr "s3://cop-demo/manifests/a.json.tdf")) =
        ([.getObject s4Bucket (manifestKey randomId)], loadsOrText ⟨1000, 4300⟩ text) :=
  ⟨by decide, fun _ _ => rfl, rfl, uploadManifests_read_back ⟨1000, 4300⟩ (fun _ => .ok (pyStr "[]"))
    ⟨fun _ _ => .error (.clientError none), fun _ => none⟩ ⟨[]⟩ [(pyStr "a", .list [])] (by decide)
    (fun _ => true) (fun _ _ => rfl) 0 _ rfl⟩

theorem loadsOrText_jsonDumps (limits : JsonLimits) (floatRepr : PyFloat → PyStr) {v : PyVal}
    {text : PyStr} (reloads : v.reloads limits.maxStrDigits floatRepr = true)
    (dumped : jsonDumps limits floatRepr v = .ok text) : loadsOrText limits text = .ok v := by
  obtain ⟨c, more, rfl, solid, -, ascii⟩ := listencodeObj_head reloads dumped
  rw [loadsOrText, jsonLoads_of_scanOnce solid ascii (scanOnce_jsonDumps reloads dumped)]

/-- With the real `json.dumps`, an entitled reader fetches each manifest itself. -/
theorem uploadManifests_fetch_manifest (limits : JsonLimits) (floatRepr : PyFloat → PyStr)
    (seeder : S3Client) (store : ObjectStore) (uploads : List (PyStr × PyVal))
    (distinct : (uploads.map Prod.fst).Nodup)
    (reloads : ∀ upload ∈ uploads, upload.2.reloads limits.maxStrDigits floatRepr = true)
    (holds : PyStr → Bool) (entitled : ∀ tag ∈ manifestAttributes, holds tag = true) (i : Nat)
    (uri : PyStr)
    (returned : (uploadManifests (jsonDumps limits floatRepr) seeder store uploads).1[i]? =
      some (some uri)) :
    ∃ randomId manifest, uploads[i]? = some (randomId, manifest) ∧
      fetchManifestFromS4 limits
          ((uploadManifests (jsonDumps limits floatRepr) seeder store uploads).2.client holds)
          (.str uri) = ([.getObject s4Bucket (manifestKey randomId)], .ok manifest) := by
  obtain ⟨randomId, manifest, text, payload, listed, rfl, dumped, encoded, stored⟩ :=
    uploadManifests_stored (jsonDumps limits floatRepr) seeder store uploads distinct i uri returned
  refine ⟨randomId, manifest, listed, ?_⟩
  rw [fetchManifestFromS4_uploadReference _ _ _ (manifestKey_ne_nil randomId),
    getManifestObject_encoded _ _ _ _ _ _ _ encoded (read_uploaded stored entitled),
    loadsOrText_jsonDumps limits floatRepr (reloads _ (List.getElem?_mem listed)) dumped]

theorem uploadManifests_fetch_manifest_single :
    ([(pyStr "a", PyVal.list [.int 7, .float (.dec false 15 (-1))])].map Prod.fst).Nodup ∧
    (∀ upload ∈ [(pyStr "a", PyVal.list [.int 7, .float (.dec false 15 (-1))])],
      upload.2.reloads 4300 (fun _ => pyStr "1.5") = true) ∧
    (∀ tag ∈ manifestAttributes, (fun _ => true : PyStr → Bool) tag = true) ∧
    (uploadManifests (jsonDumps ⟨1000, 4300⟩ (fun _ => pyStr "1.5"))
        ⟨fun _ _ => .error (.clientError none), fun _ => none⟩ ⟨[]⟩
        [(pyStr "a", .list [.int 7, .float (.dec false 15 (-1))])]).1[0]? =
      some (some (pyStr "s3://cop-demo/manifests/a.json.tdf")) ∧
    ∃ randomId manifest,
      [(pyStr "a", PyVal.list [.int 7, .float (.dec false 15 (-1))])][0]? = some (randomId, manifest) ∧
      fetchManifestFromS4 ⟨1000, 4300⟩
          ((uploadManifests (jsonDumps ⟨1000, 4300⟩ (fun _ => pyStr "1.5"))
            ⟨fun _ _ => .error (.clientError none), fun _ => none⟩ ⟨[]⟩
            [(pyStr "a", .list [.int 7, .float (.dec false 15 (-1))])]).2.client fun _ => true)
          (.str (pyStr "s3://cop-demo/manifests/a.json.tdf")) =
        ([.getObject s4Bucket (manifestKey randomId)], .ok manifest) :=
  ⟨by decide, by decide, fun _ _ => rfl, rfl, uploadManifests_fetch_manifest ⟨1000, 4300⟩
    (fun _ => pyStr "1.5") ⟨fun _ _ => .error (.clientError none), fun _ => none⟩ ⟨[]⟩
    [(pyStr "a", .list [.int 7, .float (.dec false 15 (-1))])] (by decide) (by decide)
    (fun _ => true) (fun _ _ => rfl) 0 _ rfl⟩

end S4Manifests
