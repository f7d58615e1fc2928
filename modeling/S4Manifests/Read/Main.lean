import S4Manifests.Read.Fetch
import S4Manifests.Read.Query

/-!
`read_s4.py`'s `read_manifests_from_db`. `processRecord` is one pass of its `for record in records`
loop and `processRecords` the loop; nothing in it catches an exception, so the first record
whose processing raises ends the run.
-/

namespace S4Manifests

def separator : Event := logInfo ("\n" ++ String.mk (List.replicate 60 '='))

def couldNotRetrieve : Event := logInfo "⚠️  Could not retrieve manifest (access denied or not found)"

section Reader

variable (limits : JsonLimits) (dumps : PyVal → Except PyException PyStr)

def processRecord (client : S3Client) (record : Row) : List Event × Except PyException Unit :=
  match record.metadata with
  | .dict metadata =>
    let manifestUri := dictGet metadata (pyStr "manifest") .none
    let header := [separator,
      .log .info [.text "📋 Record ID: ", .value record.id],
      .log .info [.text "⏰ Timestamp: ", .value record.ts],
      .log .info [.text "🏷️  Callsign: ",
        .value (dictGet metadata (pyStr "callsign") (.str (pyStr "N/A")))],
      .log .info [.text "🔗 Manifest URI: ", .value manifestUri]]
    if manifestUri.truthy then
      match fetchManifestFromS4 limits client manifestUri with
      | (fetched, .error e) => (header ++ fetched, .error e)
      | (fetched, .ok manifestData) =>
        if manifestData.truthy then
          match dumps manifestData with
          | .ok text =>
            (header ++ fetched ++ [logInfo "🔓 Decrypted Manifest:", .log .info [.value (.str text)]], .ok ())
          | .error e => (header ++ fetched ++ [logInfo "🔓 Decrypted Manifest:"], .error e)
        else
          (header ++ fetched ++ [couldNotRetrieve], .ok ())
    else (header ++ [logInfo "⚠️  No manifest URI in metadata"], .ok ())
  | other => ([], .error (.attributeError other.typeName "get"))

def processRecords (client : S3Client) : List Row → List Event × Except PyException Unit
  | [] => ([], .ok ())
  | record :: rest =>
    match processRecord limits dumps client record with
    | (events, .error e) => (events, .error e)
    | (events, .ok ()) =>
      let later := processRecords client rest
      (events ++ later.1, later.2)

def readManifestsFromDb (kcUser : PyStr) (session : Except PyException S3Client)
    (db : DbOutcome) : List Event × Except PyException Unit :=
  let opening := Event.log .info [.text "--- 🛡️  Initializing S4 Proxy Session for: ", .value (.str kcUser), .text " ---"]
  match session with
  | .error e => ([opening, .log .error [.text "❌ Failed to authenticate: ", .exception e]], .ok ())
  | .ok client =>
    let started := [opening, logInfo "✅ S4 client initialized successfully", logInfo "\n--- 📊 Querying Database for Records ---"]
    match queryTdfObjects limits db with
    | (queried, .error e) => (started ++ queried, .error e)
    | (queried, .ok records) =>
      if records.isEmpty then
        (started ++ queried ++ [logInfo "No records found with manifest URIs. Run the seed script first!"], .ok ())
      else
        let fetching := started ++ queried ++ [logInfo "\n--- 📄 Fetching Manifests from S4 ---"]
        match processRecords limits dumps client records with
        | (processed, .error e) => (fetching ++ processed, .error e)
        | (processed, .ok ()) =>
          (fetching ++ processed ++ [separator,
            .log .info [.text "✅ Processed ", .value (.int records.length), .text " records"]],
            .ok ())

end Reader

section Loop

variable (limits : JsonLimits) (dumps : PyVal → Except PyException PyStr) (client : S3Client)

/-- The first record whose processing raises is the last one processed. -/
theorem processRecords_stops (before : List Row) (record : Row) (after : List Row) (e : PyException)
    (beforeReturn : ∀ earlier ∈ before, (processRecord limits dumps client earlier).2 = .ok ())
    (raises : (processRecord limits dumps client record).2 = .error e) :
    processRecords limits dumps client (before ++ record :: after) =
      ((before.flatMap fun earlier => (processRecord limits dumps client earlier).1) ++
        (processRecord limits dumps client record).1, .error e) := by
  induction before with
  | nil =>
    rcases processed : processRecord limits dumps client record with ⟨events, result⟩
    simp only [processed] at raises
    subst raises
    simp [processRecords, processed]
  | cons earlier rest ih =>
    rcases processed : processRecord limits dumps client earlier with ⟨events, result⟩
    have returned : result = .ok () := by
      simpa [processed] using beforeReturn earlier (List.mem_cons_self _ _)
    subst returned
    simp only [List.cons_append, processRecords, processed, List.flatMap_cons, List.append_eq,
      ih fun other member => beforeReturn other (List.mem_cons_of_mem _ member), List.append_assoc]

theorem processRecord_fetch_raises (record : Row) (metadata : List (PyStr × PyVal)) (e : PyException)
    (isDict : record.metadata = .dict metadata)
    (truthy : (dictGet metadata (pyStr "manifest") .none).truthy = true)
    (raises : (fetchManifestFromS4 limits client (dictGet metadata (pyStr "manifest") .none)).2 =
      .error e) :
    (processRecord limits dumps client record).2 = .error e := by
  rcases fetched : fetchManifestFromS4 limits client (dictGet metadata (pyStr "manifest") .none)
    with ⟨events, result⟩
  rw [fetched] at raises
  subst raises
  simp [processRecord, isDict, truthy, fetched]

theorem readManifestsFromDb_loop (kcUser : PyStr) (db : DbOutcome) (records : List Row)
    (queried : (queryTdfObjects limits db).2 = .ok records) :
    getObjectCalls (readManifestsFromDb limits dumps kcUser (.ok client) db).1 =
      getObjectCalls (processRecords limits dumps client records).1 ∧
    (readManifestsFromDb limits dumps kcUser (.ok client) db).2 =
      (processRecords limits dumps client records).2 := by
  have quiet := getObjectCalls_queryTdfObjects limits db
  rcases answer : queryTdfObjects limits db with ⟨queriedEvents, result⟩
  rw [answer] at queried quiet
  subst queried
  cases records with
  | nil => simp [readManifestsFromDb, answer, quiet, processRecords, logInfo]
  | cons record rest =>
    rcases processed : processRecords limits dumps client (record :: rest) with ⟨events, _ | _⟩ <;>
      simp [readManifestsFromDb, answer, quiet, processed, logInfo, separator, getObjectCalls]

end Loop

section Outcomes

variable (limits : JsonLimits) (client : S3Client)

/-- When `fetch_manifest_from_s4` raises, what it returns, and that a raise ends the run. -/
theorem fetchManifestFromS4_raises_only_on_unreadable_input :
    (∀ ref : PyVal, (∃ e, (fetchManifestFromS4 limits client ref).2 = .error e) ↔
      (ref.truthy = true ∧ ∀ s, ref ≠ .str s) ∨
      ∃ u bucket key, ref = .str u ∧ Dispatched u bucket key ∧
        ((∃ e, client.getObject bucket key = .error e ∧ ∀ code, e ≠ .clientError code) ∨
          ∃ body, client.getObject bucket key = .ok body ∧
            ((∃ start, utf8Decode body = .error start) ∨
              ∃ text failure, utf8Decode body = .ok text ∧ jsonLoads limits text = .error failure ∧
                ∀ msg pos, failure ≠ .decode msg pos))) ∧
    (∀ ref value : PyVal, (fetchManifestFromS4 limits client ref).2 = .ok value →
      ((∀ u bucket key, ref = .str u → ¬ Dispatched u bucket key) ∧ value = .none) ∨
      ∃ u bucket key, ref = .str u ∧ Dispatched u bucket key ∧
        ((∃ code, client.getObject bucket key = .error (.clientError code) ∧ value = .none) ∨
          ∃ body text, client.getObject bucket key = .ok body ∧ utf8Decode body = .ok text ∧
            (jsonLoads limits text = .ok value ∨
              (∃ msg pos, jsonLoads limits text = .error (.decode msg pos)) ∧ value = .str text))) ∧
    ∀ (dumps : PyVal → Except PyException PyStr) (kcUser : PyStr) (db : DbOutcome)
      (before : List Row) (record : Row) (after : List Row) (metadata : List (PyStr × PyVal))
      (e : PyException),
      (queryTdfObjects limits db).2 = .ok (before ++ record :: after) →
      (∀ earlier ∈ before, (processRecord limits dumps client earlier).2 = .ok ()) →
      record.metadata = .dict metadata →
      (dictGet metadata (pyStr "manifest") .none).truthy = true →
      (fetchManifestFromS4 limits client (dictGet metadata (pyStr "manifest") .none)).2 = .error e →
      (readManifestsFromDb limits dumps kcUser (.ok client) db).2 = .error e ∧
      getObjectCalls (readManifestsFromDb limits dumps kcUser (.ok client) db).1 =
        getObjectCalls ((before.flatMap fun earlier => (processRecord limits dumps client earlier).1) ++
          (processRecord limits dumps client record).1) := by
  refine ⟨fun ref => ?_, fun ref value returned => ?_, fun dumps kcUser db before record after metadata e
    queried beforeReturn isDict truthy raises => ?_⟩
  · rcases fetchManifestFromS4_cases limits client ref with
      ⟨truthy, notStr, fetched⟩ | ⟨plain, never, fetched⟩ | ⟨u, bucket, key, rfl, dispatched, fetched⟩
    · rw [fetched]
      exact ⟨fun _ => .inl ⟨truthy, notStr⟩, fun _ => ⟨_, rfl⟩⟩
    · rw [fetched]
      refine ⟨fun ⟨_, raised⟩ => (by cases raised), ?_⟩
      rintro (⟨truthy, notStr⟩ | ⟨u, bucket, key, rfl, dispatched, -⟩)
      · rcases plain with falsy | ⟨u, rfl⟩
        · rw [truthy] at falsy
          cases falsy
        · exact absurd rfl (notStr u)
      · exact absurd dispatched (never u bucket key rfl)
    · rw [fetched, getManifestObject_raises_iff]
      constructor
      · exact fun raised => .inr ⟨u, bucket, key, rfl, dispatched, raised⟩
      · rintro (⟨-, notStr⟩ | ⟨u', bucket', key', same, dispatched', raised⟩)
        · exact absurd rfl (notStr u)
        · cases same
          obtain ⟨rfl, rfl⟩ := dispatched.unique dispatched'
          exact raised
  · rcases fetchManifestFromS4_cases limits client ref with
      ⟨-, -, fetched⟩ | ⟨-, never, fetched⟩ | ⟨u, bucket, key, rfl, dispatched, fetched⟩ <;>
      rw [fetched] at returned
    · cases returned
    · exact .inl ⟨never, (Except.ok.inj returned).symm⟩
    · exact .inr ⟨u, bucket, key, rfl, dispatched,
        getManifestObject_returns limits client _ bucket key value returned⟩
  · have stops := processRecords_stops limits dumps client before record after e beforeReturn
      (processRecord_fetch_raises limits dumps client record metadata e isDict truthy raises)
    have run := readManifestsFromDb_loop limits dumps client kcUser db _ queried
    rw [stops] at run
    exact ⟨run.2, run.1⟩

def sampleReference : PyStr := pyStr "s3://cop-demo/manifests/m.json.tdf"

def answering (body : List UInt8) : S3Client := ⟨fun _ _ => .ok body, fun _ => none⟩

def sampleRecord (manifest : PyVal) : Row :=
  ⟨.str (pyStr "1"), .other "datetime", .str (pyStr "vehicles"),
    .dict [(pyStr "manifest", manifest)], .dict []⟩

-- CPython's defaults; its own frames count against the limit, so it raises `RecursionError`
-- from about 995 nested containers. The examples nest a few.
def sampleLimits : JsonLimits := ⟨1000, 4300⟩

theorem fetchManifestFromS4_raises_on_number_and_binary_body :
    (fetchManifestFromS4 sampleLimits (answering [0xFF]) (.int 5)).2 =
      .error (.attributeError "int" "startswith") ∧
    (fetchManifestFromS4 sampleLimits (answering [0xFF]) (.str sampleReference)).2 =
      .error (.unicodeDecodeError 0) ∧
    getObjectCalls (readManifestsFromDb sampleLimits (fun _ => .ok []) [] (.ok (answering [123, 125]))
      (.fetched [sampleRecord (.int 5), sampleRecord (.str sampleReference)])).1 = [] :=
  ⟨rfl, rfl, rfl⟩

/-- Reads of `{}`, `null` and the empty body are reported as not retrieved. -/
theorem processRecord_reports_empty_reads_as_denied :
    (fetchManifestFromS4 sampleLimits (answering [123, 125]) (.str sampleReference)).2 =
      .ok (.dict []) ∧
    (processRecord sampleLimits (fun _ => .ok []) (answering [123, 125])
      (sampleRecord (.str sampleReference))).1.getLast? = some couldNotRetrieve ∧
    (fetchManifestFromS4 sampleLimits (answering [110, 117, 108, 108]) (.str sampleReference)).2 =
      .ok .none ∧
    (processRecord sampleLimits (fun _ => .ok []) (answering [110, 117, 108, 108])
      (sampleRecord (.str sampleReference))).1.getLast? = some couldNotRetrieve ∧
    (fetchManifestFromS4 sampleLimits (answering []) (.str sampleReference)).2 = .ok (.str []) ∧
    (processRecord sampleLimits (fun _ => .ok []) (answering [])
      (sampleRecord (.str sampleReference))).1.getLast? = some couldNotRetrieve :=
  ⟨rfl, rfl, rfl, rfl, rfl, rfl⟩

/-- The loop reports a manifest as not retrieved exactly when the fetch returned a falsy value. -/
theorem processRecord_reports_denial_iff (dumps : PyVal → Except PyException PyStr) (record : Row)
    (metadata : List (PyStr × PyVal)) (isDict : record.metadata = .dict metadata)
    (truthy : (dictGet metadata (pyStr "manifest") .none).truthy = true) :
    couldNotRetrieve ∈ (processRecord limits dumps client record).1 ↔
      ∃ value, (fetchManifestFromS4 limits client (dictGet metadata (pyStr "manifest") .none)).2 =
        .ok value ∧ value.truthy = false := by
  have quiet := fetchManifestFromS4_logs_errors limits client (dictGet metadata (pyStr "manifest") .none)
  rcases fetched : fetchManifestFromS4 limits client (dictGet metadata (pyStr "manifest") .none)
    with ⟨events, result⟩
  rw [fetched] at quiet
  cases result with
  | error e =>
    simp [processRecord, isDict, truthy, fetched, couldNotRetrieve, separator, logInfo]
    exact quiet _
  | ok value =>
    cases valueTruthy : value.truthy with
    | false => simp [processRecord, isDict, truthy, fetched, valueTruthy]
    | true =>
      cases dumped : dumps value <;>
        simp [processRecord, isDict, truthy, fetched, valueTruthy, dumped, couldNotRetrieve,
          separator, logInfo] <;>
        exact quiet _

/-- The query keeps the rows before the first unloadable one; the run reads only those. -/
theorem queryTdfObjects_keeps_rows_before_first_unloadable (rows : List Row) :
    ∃ before after records, rows = before ++ after ∧
      List.Forall₂ (fun row record =>
        loadColumn limits row.metadata = .ok record.metadata ∧
        loadColumn limits row.search = .ok record.search ∧
        record.id = row.id ∧ record.ts = row.ts ∧ record.srcType = row.srcType) before records ∧
      (queryTdfObjects limits (.fetched rows)).2 = .ok records ∧
      (∀ row later, after = row :: later →
        ¬ (LoadableColumn limits row.metadata ∧ LoadableColumn limits row.search) ∧
        ∃ e, (queryTdfObjects limits (.fetched rows)).1 = [databaseError e]) ∧
      ∀ dumps kcUser client,
        getObjectCalls (readManifestsFromDb limits dumps kcUser (.ok client) (.fetched rows)).1 =
          getObjectCalls (processRecords limits dumps client records).1 := by
  obtain ⟨before, after, records, split, kept, built, stopped⟩ := convertRows_prefix limits rows
  have returned := (queryTdfObjects_fetched limits rows).1
  rw [built] at returned
  refine ⟨before, after, records, split,
    kept.imp fun {row record} => (convertRow_ok_iff limits row record).mp, returned,
    fun row later rest => ?_,
    fun dumps kcUser client => (readManifestsFromDb_loop limits dumps client kcUser _ records returned).1⟩
  subst rest
  obtain ⟨e, failed, reported⟩ := stopped
  exact ⟨(convertRow_fails_iff limits row).mp ⟨e, failed⟩, e,
    (queryTdfObjects_fetched limits rows).2 e reported⟩

theorem queryTdfObjects_drops_row_after_null_search :
    (queryTdfObjects sampleLimits (.fetched [{ sampleRecord (.str sampleReference) with search := .none },
      sampleRecord (.str sampleReference)])).2 = .ok [] ∧
    getObjectCalls (readManifestsFromDb sampleLimits (fun _ => .ok []) [] (.ok (answering [123, 125]))
      (.fetched [{ sampleRecord (.str sampleReference) with search := .none },
        sampleRecord (.str sampleReference)])).1 = [] ∧
    getObjectCalls (readManifestsFromDb sampleLimits (fun _ => .ok []) [] (.ok (answering [123, 125]))
      (.fetched [sampleRecord (.str sampleReference)])).1 =
        [(pyStr "cop-demo", pyStr "manifests/m.json.tdf")] :=
  ⟨rfl, rfl, rfl⟩

end Outcomes

end S4Manifests
