import S4Manifests.RoundTrip
import S4Manifests.Seed.Insert
import S4Manifests.Read.Main

/-!
The two scripts against one store and one table: `generate_tdf_records` uploads each manifest and
writes its reference into the record's `metadata`; whichever records `read_manifests_from_db`'s
query returns, in whatever order, the reader reads each manifest from where the seeder put it.
-/

namespace S4Manifests

def JsonbColumn (limits : JsonLimits) (text : PyStr) (value : PyVal) : Prop :=
  value = .str text ∨
    ∃ loaded entries, jsonLoads limits text = .ok (.dict loaded) ∧ value = .dict entries ∧
      entries.Perm loaded

def Delivers (limits : JsonLimits) (record : SeedRecord) (row : Row) : Prop :=
  JsonbColumn limits record.metadata row.metadata ∧ JsonbColumn limits record.search row.search

theorem loadColumn_jsonbColumn {limits : JsonLimits} {floatRepr : PyFloat → PyStr}
    {entries : List (PyStr × PyVal)} {text : PyStr} {value : PyVal}
    (reloads : (PyVal.dict entries).reloads limits.maxStrDigits floatRepr = true)
    (dumped : jsonDumps limits floatRepr (.dict entries) = .ok text)
    (column : JsonbColumn limits text value) :
    ∃ delivered, loadColumn limits value = .ok (.dict delivered) ∧ delivered.Perm entries := by
  have loaded : jsonLoads limits text = .ok (.dict entries) := by
    obtain ⟨c, more, rfl, solid, -, ascii⟩ := listencodeObj_head reloads dumped
    exact jsonLoads_of_scanOnce solid ascii (scanOnce_jsonDumps reloads dumped)
  rcases column with rfl | ⟨loaded', delivered, loadedAgain, rfl, perm⟩
  · exact ⟨entries, by simp [loadColumn, jsonLoadsValue, loaded, Except.mapError], List.Perm.refl _⟩
  · rw [loaded] at loadedAgain
    cases loadedAgain
    exact ⟨delivered, rfl, perm⟩

theorem forall₂_getElem? {α β : Type} {R : α → β → Prop} {l₁ : List α} {l₂ : List β}
    (related : List.Forall₂ R l₁ l₂) {j : Nat} {b : β} (found : l₂[j]? = some b) :
    ∃ a, l₁[j]? = some a ∧ R a b := by
  induction related generalizing j with
  | nil => cases found
  | cons head _ ih =>
    cases j with
    | zero =>
      simp only [List.getElem?_cons_zero, Option.some.injEq] at found
      subst found
      exact ⟨_, List.getElem?_cons_zero, head⟩
    | succ j =>
      rw [List.getElem?_cons_succ] at found
      simpa only [List.getElem?_cons_succ] using ih found

section Reading

variable {limits : JsonLimits} {floatRepr : PyFloat → PyStr} (dumps : PyVal → Except PyException PyStr)

theorem convertRow_seeded {draws : Nat → RecordDraw} {j : Nat} {ref : Option PyStr}
    {record : SeedRecord} {row : Row} (seeded : SeededRecord limits floatRepr draws j ref record)
    (delivered : Delivers limits record row) (callsign : Ascii (draws j).callsign)
    (reference : ∀ uri, ref = some uri → Ascii uri) :
    ∃ metadata search,
      convertRow limits row = .ok { row with metadata := .dict metadata, search := .dict search } ∧
      dictGet metadata (pyStr "manifest") .none = manifestUriValue ref := by
  obtain ⟨-, -, -, searched, described⟩ := seeded
  obtain ⟨metadata, metadataLoaded, metadataPerm⟩ :=
    loadColumn_jsonbColumn (metadataData_reloads callsign reference) described delivered.1
  obtain ⟨search, searchLoaded, -⟩ := loadColumn_jsonbColumn (searchData_reloads _ _ j) searched delivered.2
  refine ⟨metadata, search, by simp [convertRow, metadataLoaded, searchLoaded, bind, Except.bind,
    pure, Except.pure], ?_⟩
  rw [dictGet_perm metadataPerm (metadataData_keys _ _ _ rfl), dictGet_metadataData _ _ _ rfl]

variable (limits) (client : S3Client)

theorem processRecord_prints_manifest (row : Row) {metadata : List (PyStr × PyVal)}
    {uri bucket key text : PyStr} {manifest : PyVal} (isDict : row.metadata = .dict metadata)
    (reference : dictGet metadata (pyStr "manifest") .none = .str uri) (named : uri ≠ [])
    (fetched : fetchManifestFromS4 limits client (.str uri) = ([.getObject bucket key], .ok manifest))
    (truthy : manifest.truthy = true) (printed : dumps manifest = .ok text) :
    getObjectCalls (processRecord limits dumps client row).1 = [(bucket, key)] ∧
      (processRecord limits dumps client row).2 = .ok () ∧
      .log .info [.value (.str text)] ∈ (processRecord limits dumps client row).1 := by
  have present : (PyVal.str uri).truthy = true := by
    cases uri
    · exact absurd rfl named
    · rfl
  simp [processRecord, isDict, reference, present, fetched, truthy, printed, separator, logInfo,
    getObjectCalls]

theorem processRecord_without_reference (row : Row) {metadata : List (PyStr × PyVal)}
    (isDict : row.metadata = .dict metadata)
    (reference : dictGet metadata (pyStr "manifest") .none = .none) :
    getObjectCalls (processRecord limits dumps client row).1 = [] ∧
      (processRecord limits dumps client row).2 = .ok () ∧
      ∀ text, .log .info [.value (.str text)] ∉ (processRecord limits dumps client row).1 := by
  simp [processRecord, isDict, reference, PyVal.truthy, separator, logInfo, getObjectCalls]

theorem processRecord_unretrieved (row : Row) {metadata : List (PyStr × PyVal)} {uri : PyStr}
    {events : List Event} {value : PyVal} (isDict : row.metadata = .dict metadata)
    (reference : dictGet metadata (pyStr "manifest") .none = .str uri) (named : uri ≠ [])
    (fetched : fetchManifestFromS4 limits client (.str uri) = (events, .ok value))
    (falsy : value.truthy = false) :
    getObjectCalls (processRecord limits dumps client row).1 = getObjectCalls events ∧
      (processRecord limits dumps client row).2 = .ok () ∧
      couldNotRetrieve ∈ (processRecord limits dumps client row).1 ∧
      ∀ text, .log .info [.value (.str text)] ∉ (processRecord limits dumps client row).1 := by
  have present : (PyVal.str uri).truthy = true := by
    cases uri
    · exact absurd rfl named
    · rfl
  have quiet := fetchManifestFromS4_logs_errors limits client (.str uri)
  rw [fetched] at quiet
  simp [processRecord, isDict, reference, present, fetched, falsy, separator, logInfo,
    getObjectCalls, couldNotRetrieve, quiet]

theorem readManifestsFromDb_shows (kcUser : PyStr) (db : DbOutcome) (records : List Row)
    (queried : (queryTdfObjects limits db).2 = .ok records) {event : Event}
    (shown : event ∈ (processRecords limits dumps client records).1) :
    event ∈ (readManifestsFromDb limits dumps kcUser (.ok client) db).1 := by
  rcases answer : queryTdfObjects limits db with ⟨queriedEvents, result⟩
  rw [answer] at queried
  subst queried
  cases records with
  | nil => cases shown
  | cons record rest =>
    rcases processed : processRecords limits dumps client (record :: rest) with ⟨events, _ | _⟩ <;>
      rw [processed] at shown <;> simp [readManifestsFromDb, answer, processed, shown]

theorem readManifestsFromDb_prints_in_loop (kcUser : PyStr) (rows : List Row) {text : PyStr}
    (printed : .log .info [.value (.str text)] ∈
      (readManifestsFromDb limits dumps kcUser (.ok client) (.fetched rows)).1) :
    .log .info [.value (.str text)] ∈
      (processRecords limits dumps client (convertRows limits rows).1).1 := by
  simp only [readManifestsFromDb, queryTdfObjects] at printed
  generalize convertRows limits rows = converted at printed ⊢
  obtain ⟨records, failure⟩ := converted
  cases records with
  | nil => cases failure <;> simp [logInfo, databaseError] at printed
  | cons record rest =>
    rcases processed : processRecords limits dumps client (record :: rest) with ⟨events, _ | _⟩ <;>
      cases failure <;> simp_all [logInfo, separator, databaseError]

end Reading

def Serves (limits : JsonLimits) (client : S3Client) (draws : Nat → RecordDraw)
    (refs : List (Option PyStr)) : Prop :=
  ∀ j uri, refs[j]? = some (some uri) → Ascii uri ∧
    fetchManifestFromS4 limits client (.str uri) =
      ([.getObject s4Bucket (manifestKey (draws j).randomId)], .ok (draws j).manifest)

theorem uploadReference_ascii {randomId : PyStr} (ascii : Ascii randomId) :
    Ascii (pyStr "s3://" ++ s4Bucket ++ pyStr "/" ++ manifestKey randomId) := by
  simp (disch := decide) only [ascii_append, ascii_pyStr, s4Bucket, manifestKey, ascii, and_true]

theorem fetchManifestFromS4_stored (limits : JsonLimits) (floatRepr : PyFloat → PyStr)
    {store : ObjectStore} {holds : PyStr → Bool} {randomId text : PyStr} {payload : List UInt8}
    {manifest : PyVal} (reloads : manifest.reloads limits.maxStrDigits floatRepr = true)
    (dumped : jsonDumps limits floatRepr manifest = .ok text) (encoded : utf8Encode text = .ok payload)
    (stored : store.find s4Bucket (manifestKey randomId) =
      some ⟨payload, attributeMetadata manifestAttributes⟩)
    (entitled : ∀ tag ∈ manifestAttributes, holds tag = true) :
    fetchManifestFromS4 limits (store.client holds)
        (.str (pyStr "s3://" ++ s4Bucket ++ pyStr "/" ++ manifestKey randomId)) =
      ([.getObject s4Bucket (manifestKey randomId)], .ok manifest) := by
  rw [fetchManifestFromS4_uploadReference _ _ _ (manifestKey_ne_nil _),
    getManifestObject_encoded _ _ _ _ _ _ _ encoded (read_uploaded stored entitled),
    loadsOrText_jsonDumps limits floatRepr reloads dumped]

section Seeder

variable (limits : JsonLimits) (floatRepr : PyFloat → PyStr) (seeder : S3Client) (count : Nat)
  (draws : Nat → RecordDraw) (store : ObjectStore)

theorem manifestUploads_stored (dumps : PyVal → Except PyException PyStr)
    (distinct : ((manifestUploads draws (List.range count)).map Prod.fst).Nodup) {j : Nat} {uri : PyStr}
    (referenced : (uploadManifests dumps seeder store (manifestUploads draws (List.range count))).1[j]? =
      some (some uri)) :
    j < count ∧ uri = pyStr "s3://" ++ s4Bucket ++ pyStr "/" ++ manifestKey (draws j).randomId ∧
      ∃ text payload, dumps (draws j).manifest = .ok text ∧ utf8Encode text = .ok payload ∧
        (uploadManifests dumps seeder store (manifestUploads draws (List.range count))).2.find s4Bucket
          (manifestKey (draws j).randomId) = some ⟨payload, attributeMetadata manifestAttributes⟩ := by
  obtain ⟨randomId, manifest, text, payload, listed, rfl, dumped, encoded, stored⟩ :=
    uploadManifests_stored dumps seeder store _ distinct j uri referenced
  have bound : j < count := by
    simpa [manifestUploads] using (List.getElem?_eq_some_iff.mp listed).1
  have pass : (manifestUploads draws (List.range count))[j]? =
      some ((draws j).randomId, (draws j).manifest) := by
    simp [manifestUploads, bound]
  rw [pass, Option.some.injEq, Prod.mk.injEq] at listed
  obtain ⟨rfl, rfl⟩ := listed
  exact ⟨bound, rfl, text, payload, dumped, encoded, stored⟩

theorem uploadManifests_serves
    (distinct : ((manifestUploads draws (List.range count)).map Prod.fst).Nodup)
    (ids : ∀ i < count, Ascii (draws i).randomId)
    (reloads : ∀ i < count, (draws i).manifest.reloads limits.maxStrDigits floatRepr = true)
    {holds : PyStr → Bool} (entitled : ∀ tag ∈ manifestAttributes, holds tag = true) :
    Serves limits ((uploadManifests (jsonDumps limits floatRepr) seeder store
        (manifestUploads draws (List.range count))).2.client holds) draws
      (uploadManifests (jsonDumps limits floatRepr) seeder store
        (manifestUploads draws (List.range count))).1 := by
  intro j uri referenced
  obtain ⟨bound, rfl, text, payload, dumped, encoded, stored⟩ :=
    manifestUploads_stored seeder count draws store _ distinct referenced
  exact ⟨uploadReference_ascii (ids j bound),
    fetchManifestFromS4_stored limits floatRepr (reloads j bound) dumped encoded stored entitled⟩

end Seeder

theorem convertRows_processRecords_cons {limits : JsonLimits}
    {dumps : PyVal → Except PyException PyStr} {client : S3Client} {row converted : Row}
    (rows : List Row) (convertedRow : convertRow limits row = .ok converted)
    (result : (processRecord limits dumps client converted).2 = .ok ()) :
    convertRows limits (row :: rows) =
        (converted :: (convertRows limits rows).1, (convertRows limits rows).2) ∧
      processRecords limits dumps client (converted :: (convertRows limits rows).1) =
        ((processRecord limits dumps client converted).1 ++
          (processRecords limits dumps client (convertRows limits rows).1).1,
          (processRecords limits dumps client (convertRows limits rows).1).2) := by
  refine ⟨by simp [convertRows, convertedRow], ?_⟩
  rcases processed : processRecord limits dumps client converted with ⟨events, _⟩
  rw [processed] at result
  subst result
  simp only [processRecords, processed]

section Served

variable {limits : JsonLimits} {floatRepr : PyFloat → PyStr} (dumps : PyVal → Except PyException PyStr)
  {client : S3Client} {draws : Nat → RecordDraw} {refs : List (Option PyStr)}

theorem seededRecord_at {count : Nat} {records : List SeedRecord}
    (pairs : List.Forall₂ (fun (entry : Nat × Option PyStr) record =>
        SeededRecord limits floatRepr draws entry.1 entry.2 record) ((List.range count).zip refs) records)
    {j : Nat} {record : SeedRecord} (found : records[j]? = some record) :
    ∃ ref, j < count ∧ refs[j]? = some ref ∧ SeededRecord limits floatRepr draws j ref record := by
  obtain ⟨⟨i, ref⟩, entry, seeded⟩ := forall₂_getElem? pairs found
  obtain ⟨index, referenced⟩ := List.getElem?_zip_eq_some.mp entry
  obtain ⟨bound, same⟩ := List.getElem?_eq_some_iff.mp index
  rw [List.length_range] at bound
  rw [List.getElem_range] at same
  subst same
  exact ⟨ref, bound, referenced, seeded⟩

theorem processRecord_seeded {j : Nat} {ref : Option PyStr}
    (fetched : ∀ uri, ref = some uri → Ascii uri ∧ fetchManifestFromS4 limits client (.str uri) =
      ([.getObject s4Bucket (manifestKey (draws j).randomId)], .ok (draws j).manifest))
    {record : SeedRecord} {row : Row}
    (seeded : SeededRecord limits floatRepr draws j ref record) (delivered : Delivers limits record row)
    (callsign : Ascii (draws j).callsign) (truthy : (draws j).manifest.truthy = true) {text : PyStr}
    (printed : dumps (draws j).manifest = .ok text) :
    ∃ converted, convertRow limits row = .ok converted ∧
      getObjectCalls (processRecord limits dumps client converted).1 =
        (ref.map fun _ => (s4Bucket, manifestKey (draws j).randomId)).toList ∧
      (processRecord limits dumps client converted).2 = .ok () ∧
      (ref.isSome → .log .info [.value (.str text)] ∈ (processRecord limits dumps client converted).1) := by
  cases ref with
  | none =>
    obtain ⟨metadata, search, converted, reference⟩ :=
      convertRow_seeded seeded delivered callsign fun _ absent => by cases absent
    have quiet := processRecord_without_reference limits dumps client
      { row with metadata := .dict metadata, search := .dict search } rfl reference
    exact ⟨_, converted, quiet.1, quiet.2.1, fun absent => by cases absent⟩
  | some uri =>
    obtain ⟨uriAscii, fetched⟩ := fetched uri rfl
    obtain ⟨metadata, search, converted, reference⟩ :=
      convertRow_seeded seeded delivered callsign fun _ same => by cases same; exact uriAscii
    have named : uri ≠ [] := by
      rintro rfl
      simp [fetchManifestFromS4, parseS3Uri, PyVal.truthy, invalidS3Uri] at fetched
    have shown := processRecord_prints_manifest limits dumps client
      { row with metadata := .dict metadata, search := .dict search } rfl reference named fetched
      truthy printed
    exact ⟨_, converted, shown.1, shown.2.1, fun _ => shown.2.2⟩

/-- The loop over rows of seeded records reads and prints each manifest, once, in order. -/
theorem processRecords_seeded (serves : Serves limits client draws refs) {count : Nat}
    {records : List SeedRecord}
    (pairs : List.Forall₂ (fun (entry : Nat × Option PyStr) record =>
        SeededRecord limits floatRepr draws entry.1 entry.2 record) ((List.range count).zip refs) records)
    (callsigns : ∀ i < count, Ascii (draws i).callsign)
    (truthy : ∀ i < count, (draws i).manifest.truthy = true)
    (printable : ∀ i < count, ∃ text, dumps (draws i).manifest = .ok text)
    {picks : List Nat} {rows : List Row}
    (delivered : List.Forall₂ (fun j row => ∃ record, records[j]? = some record ∧
      Delivers limits record row) picks rows) :
    (convertRows limits rows).2 = none ∧
      (processRecords limits dumps client (convertRows limits rows).1).2 = .ok () ∧
      getObjectCalls (processRecords limits dumps client (convertRows limits rows).1).1 =
        picks.filterMap (fun j => refs[j]?.join.map fun _ => (s4Bucket, manifestKey (draws j).randomId)) ∧
      ∀ j ∈ picks, ∀ uri text, refs[j]? = some (some uri) → dumps (draws j).manifest = .ok text →
        .log .info [.value (.str text)] ∈
          (processRecords limits dumps client (convertRows limits rows).1).1 := by
  induction delivered with
  | nil => simp [convertRows, processRecords, getObjectCalls]
  | @cons j row picks rows picked _ ih =>
    obtain ⟨record, found, deliveredRow⟩ := picked
    obtain ⟨ref, bound, referenced, seeded⟩ := seededRecord_at pairs found
    obtain ⟨text, printed⟩ := printable j bound
    obtain ⟨converted, convertedRow, calls, result, shown⟩ := processRecord_seeded dumps
      (fun uri same => serves j uri (by rw [referenced, same])) seeded deliveredRow (callsigns j bound)
      (truthy j bound) printed
    obtain ⟨clean, returned, laterCalls, laterShown⟩ := ih
    obtain ⟨head, loop⟩ := convertRows_processRecords_cons rows convertedRow result
    rw [head, loop]
    refine ⟨clean, returned, ?_, ?_⟩
    · rw [getObjectCalls_append, calls, laterCalls, List.filterMap_cons, referenced]
      cases ref <;> rfl
    · intro k member uri shownText referencedAt printedAt
      rcases List.mem_cons.mp member with rfl | later
      · rw [referenced, Option.some.injEq] at referencedAt
        rw [printed, Except.ok.injEq] at printedAt
        subst referencedAt printedAt
        exact List.mem_append_left _ (shown rfl)
      · exact List.mem_append_right _ (laterShown k later uri shownText referencedAt printedAt)

end Served

section Run

variable (limits : JsonLimits) (floatRepr : PyFloat → PyStr) (dumps : PyVal → Except PyException PyStr)
  (createNanoTdf : List UInt8 → List PyStr → Except PyException (List UInt8))
  (fixedCreatedBy kcUser : PyStr) (count : Nat) (draws : Nat → RecordDraw) (opened : List Event)
  (seeder : S3Client) (store : ObjectStore)

/-- The reader shows, for an entitled reader, what `generate_tdf_records` stored. -/
theorem readManifestsFromDb_after_generateTdfRecords
    (distinct : ((manifestUploads draws (List.range count)).map Prod.fst).Nodup)
    (ascii : ∀ i < count, Ascii (draws i).randomId ∧ Ascii (draws i).callsign)
    (manifests : ∀ i < count, (draws i).manifest.reloads limits.maxStrDigits floatRepr = true ∧
      (draws i).manifest.truthy = true)
    (printable : ∀ i < count, ∃ text, dumps (draws i).manifest = .ok text)
    (holds : PyStr → Bool) (entitled : ∀ tag ∈ manifestAttributes, holds tag = true)
    {records : List SeedRecord}
    (generated : (generateTdfRecords limits floatRepr createNanoTdf fixedCreatedBy count draws
      (opened, .ok seeder) store).2.2 = .ok records)
    {picks : List Nat} {rows : List Row}
    (delivered : List.Forall₂ (fun j row => ∃ record, records[j]? = some record ∧
      Delivers limits record row) picks rows) :
    (readManifestsFromDb limits dumps kcUser (.ok ((generateTdfRecords limits floatRepr createNanoTdf
        fixedCreatedBy count draws (opened, .ok seeder) store).2.1.client holds)) (.fetched rows)).2 =
        .ok () ∧
      getObjectCalls (readManifestsFromDb limits dumps kcUser (.ok ((generateTdfRecords limits
          floatRepr createNanoTdf fixedCreatedBy count draws (opened, .ok seeder) store).2.1.client
          holds)) (.fetched rows)).1 =
        picks.filterMap (fun j => ((uploadManifests (jsonDumps limits floatRepr) seeder store
          (manifestUploads draws (List.range count))).1[j]?.join).map fun _ =>
            (s4Bucket, manifestKey (draws j).randomId)) ∧
      ∀ j ∈ picks, ∀ uri text, (uploadManifests (jsonDumps limits floatRepr) seeder store
          (manifestUploads draws (List.range count))).1[j]? = some (some uri) →
        dumps (draws j).manifest = .ok text →
        .log .info [.value (.str text)] ∈ (readManifestsFromDb limits dumps kcUser
          (.ok ((generateTdfRecords limits floatRepr createNanoTdf fixedCreatedBy count draws
            (opened, .ok seeder) store).2.1.client holds)) (.fetched rows)).1 := by
  obtain ⟨k, -, stored, refined⟩ := generateLoop_refines_uploadManifests limits floatRepr
    createNanoTdf fixedCreatedBy seeder count draws store (List.range count)
  obtain ⟨rfl, pairs⟩ := refined records generated
  rw [List.take_length] at stored
  have served := uploadManifests_serves limits floatRepr seeder count draws store distinct
    (fun i bound => (ascii i bound).1) (fun i bound => (manifests i bound).1) entitled
  obtain ⟨-, returned, calls, shown⟩ := processRecords_seeded dumps served pairs
    (fun i bound => (ascii i bound).2) (fun i bound => (manifests i bound).2) printable delivered
  have queried := (queryTdfObjects_fetched limits rows).1
  have loop := readManifestsFromDb_loop limits dumps ((uploadManifests (jsonDumps limits floatRepr)
    seeder store (manifestUploads draws (List.range count))).2.client holds) kcUser (.fetched rows) _
    queried
  simp only [generateTdfRecords, stored]
  exact ⟨loop.2.trans returned, loop.1.trans calls, fun j member uri text referenced printed =>
    readManifestsFromDb_shows limits dumps _ kcUser (.fetched rows) _ queried
      (shown j member uri text referenced printed)⟩

end Run

def sampleDraw : RecordDraw :=
  ⟨pyStr "a", ⟨[], [], [], []⟩, [], [],
    .dict [(pyStr "x", .int 1), (pyStr "reliability", .float (.dec false 93 (-2)))], pyStr "AB12",
    300, 200, 90, .none, [], .none⟩

def sampleRepr (_ : PyFloat) : PyStr := pyStr "0.93"

def sampleSeeded : SeedRecord :=
  ⟨pyStr "a", .none, fixedSrcType, [],
    pyStr "\x7b\"attrRelTo\": [], \"attrNeedToKnow\": [], \"attrClassification\": [\"https://demo.com/attr/classification/value/unclassified\"]\x7d",
    pyStr "\x7b\"callsign\": \"AB12\", \"speed\": \"300 kts\", \"altitude\": \"FL200\", \"heading\": \"90\", \"manifest\": \"s3://cop-demo/manifests/a.json.tdf\"\x7d",
    [], .none, .none, []⟩

def textRow (record : SeedRecord) : Row :=
  ⟨.str record.id, record.ts, .str record.srcType, .str record.metadata, .str record.search⟩

def sampleSeeder : S3Client := ⟨fun _ _ => .error (.clientError none), fun _ => none⟩

theorem readManifestsFromDb_after_generateTdfRecords_sample :
    ((manifestUploads (fun _ => sampleDraw) (List.range 1)).map Prod.fst).Nodup ∧
    (∀ i < 1, Ascii sampleDraw.randomId ∧ Ascii sampleDraw.callsign) ∧
    (∀ i < 1, sampleDraw.manifest.reloads 4300 sampleRepr = true ∧ sampleDraw.manifest.truthy = true) ∧
    (∀ i < 1, ∃ text, jsonDumps sampleLimits sampleRepr sampleDraw.manifest = .ok text) ∧
    (∀ tag ∈ manifestAttributes, (fun _ => true : PyStr → Bool) tag = true) ∧
    (generateTdfRecords sampleLimits sampleRepr (fun _ _ => .ok []) [] 1 (fun _ => sampleDraw)
      ([], .ok sampleSeeder) ⟨[]⟩).2.2 = .ok [sampleSeeded] ∧
    List.Forall₂ (fun j row => ∃ record, [sampleSeeded][j]? = some record ∧
      Delivers sampleLimits record row) [0] [textRow sampleSeeded] ∧
    (readManifestsFromDb sampleLimits (jsonDumps sampleLimits sampleRepr) [] (.ok ((generateTdfRecords
        sampleLimits sampleRepr (fun _ _ => .ok []) [] 1 (fun _ => sampleDraw) ([], .ok sampleSeeder)
        ⟨[]⟩).2.1.client fun _ => true)) (.fetched [textRow sampleSeeded])).2 = .ok () ∧
      getObjectCalls (readManifestsFromDb sampleLimits (jsonDumps sampleLimits sampleRepr) []
          (.ok ((generateTdfRecords sampleLimits sampleRepr (fun _ _ => .ok []) [] 1
            (fun _ => sampleDraw) ([], .ok sampleSeeder) ⟨[]⟩).2.1.client fun _ => true))
          (.fetched [textRow sampleSeeded])).1 =
        [0].filterMap (fun j => ((uploadManifests (jsonDumps sampleLimits sampleRepr) sampleSeeder
          ⟨[]⟩ (manifestUploads (fun _ => sampleDraw) (List.range 1))).1[j]?.join).map fun _ =>
            (s4Bucket, manifestKey sampleDraw.randomId)) ∧
      ∀ j ∈ [0], ∀ uri text, (uploadManifests (jsonDumps sampleLimits sampleRepr) sampleSeeder ⟨[]⟩
          (manifestUploads (fun _ => sampleDraw) (List.range 1))).1[j]? = some (some uri) →
        jsonDumps sampleLimits sampleRepr sampleDraw.manifest = .ok text →
        .log .info [.value (.str text)] ∈ (readManifestsFromDb sampleLimits
          (jsonDumps sampleLimits sampleRepr) [] (.ok ((generateTdfRecords sampleLimits sampleRepr
            (fun _ _ => .ok []) [] 1 (fun _ => sampleDraw) ([], .ok sampleSeeder) ⟨[]⟩).2.1.client
            fun _ => true)) (.fetched [textRow sampleSeeded])).1 :=
  have ascii : ∀ i < 1, Ascii sampleDraw.randomId ∧ Ascii sampleDraw.callsign :=
    fun _ _ => ⟨ascii_pyStr (by decide), ascii_pyStr (by decide)⟩
  have generated : (generateTdfRecords sampleLimits sampleRepr (fun _ _ => .ok []) [] 1
      (fun _ => sampleDraw) ([], .ok sampleSeeder) ⟨[]⟩).2.2 = .ok [sampleSeeded] := rfl
  have delivered : List.Forall₂ (fun j row => ∃ record, [sampleSeeded][j]? = some record ∧
      Delivers sampleLimits record row) [0] [textRow sampleSeeded] :=
    .cons ⟨_, rfl, .inl rfl, .inl rfl⟩ .nil
  ⟨by decide, ascii, fun _ _ => ⟨rfl, rfl⟩, fun _ _ => ⟨_, rfl⟩, fun _ _ => rfl, generated, delivered,
    readManifestsFromDb_after_generateTdfRecords sampleLimits sampleRepr
      (jsonDumps sampleLimits sampleRepr) (fun _ _ => .ok []) [] [] 1 (fun _ => sampleDraw) []
      sampleSeeder ⟨[]⟩ (by decide) ascii (fun _ _ => ⟨rfl, rfl⟩) (fun _ _ => ⟨_, rfl⟩)
      (fun _ => true) (fun _ _ => rfl) generated delivered⟩

end S4Manifests
