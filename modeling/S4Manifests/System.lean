import S4Manifests.Pipeline
import S4Manifests.Seed.Manifest

/-!
The two scripts over time: `seed_data.py` run again and again (`seedRuns`) against one store and
one table, `read_manifests_from_db` between any two runs. Every run keeps the invariant
`Consistent` (each record of the table is served by the store), so the reader shows every
manifest to an entitled reader and none to a reader lacking a tag.
-/

namespace S4Manifests

def recordReference (limits : JsonLimits) (record : SeedRecord) : Option PyStr :=
  match jsonLoads limits record.metadata with
  | .ok (.dict entries) =>
    match dictGet entries (pyStr "manifest") .none with
    | .str uri => if uri.isEmpty then none else some uri
    | _ => none
  | _ => none

structure Readable (limits : JsonLimits) (floatRepr : PyFloat → PyStr)
    (dumps : PyVal → Except PyException PyStr) (draw : RecordDraw) : Prop where
  idAscii : Ascii draw.randomId
  callsignAscii : Ascii draw.callsign
  reloads : draw.manifest.reloads limits.maxStrDigits floatRepr = true
  truthy : draw.manifest.truthy = true
  printable : ∃ text, dumps draw.manifest = .ok text

def Holds (limits : JsonLimits) (floatRepr : PyFloat → PyStr) (store : ObjectStore) (randomId : PyStr)
    (manifest : PyVal) : Prop :=
  ∃ text payload, jsonDumps limits floatRepr manifest = .ok text ∧ utf8Encode text = .ok payload ∧
    store.find s4Bucket (manifestKey randomId) = some ⟨payload, attributeMetadata manifestAttributes⟩

def Served (limits : JsonLimits) (floatRepr : PyFloat → PyStr) (dumps : PyVal → Except PyException PyStr)
    (store : ObjectStore) (record : SeedRecord) : Prop :=
  ∃ draw i ref, SeededRecord limits floatRepr (fun _ => draw) i ref record ∧
    Readable limits floatRepr dumps draw ∧
    ∀ uri, ref = some uri → uri = pyStr "s3://" ++ s4Bucket ++ pyStr "/" ++ manifestKey draw.randomId ∧
      Holds limits floatRepr store draw.randomId draw.manifest

def Consistent (limits : JsonLimits) (floatRepr : PyFloat → PyStr)
    (dumps : PyVal → Except PyException PyStr) (store : ObjectStore) (table : List SeedRecord) : Prop :=
  ∀ record ∈ table, Served limits floatRepr dumps store record

theorem readable_generated {limits : JsonLimits} {floatRepr : PyFloat → PyStr}
    {dumps : PyVal → Except PyException PyStr} {draw : RecordDraw} {manifestDraw : ManifestDraw}
    {classification : PyStr}
    (generated : draw.manifest = generateMilitaryManifest manifestDraw draw.randomId classification)
    (idAscii : Ascii draw.randomId) (callsignAscii : Ascii draw.callsign)
    (texts : ∀ s ∈ manifestDraw.texts, ScalarText s)
    (floats : ∀ x ∈ manifestDraw.floats, (PyVal.float x).reloads limits.maxStrDigits floatRepr = true)
    (classified : ScalarText classification) (printable : ∃ text, dumps draw.manifest = .ok text) :
    Readable limits floatRepr dumps draw where
  idAscii := idAscii
  callsignAscii := callsignAscii
  reloads := by
    rw [generated]
    exact generateMilitaryManifest_reloads texts floats (scalarText_of_ascii idAscii) classified
  truthy := by
    rw [generated]
    rfl
  printable := printable

theorem metadata_seeded {limits : JsonLimits} {floatRepr : PyFloat → PyStr}
    {draws : Nat → RecordDraw} {j : Nat} {ref : Option PyStr} {record : SeedRecord}
    (seeded : SeededRecord limits floatRepr draws j ref record) (callsign : Ascii (draws j).callsign)
    (reference : ∀ uri, ref = some uri → Ascii uri) :
    ∃ entries, jsonLoads limits record.metadata = .ok (.dict entries) ∧
      dictGet entries (pyStr "manifest") .none = manifestUriValue ref := by
  obtain ⟨-, -, -, -, described⟩ := seeded
  have reloads : (metadataData (draws j) ref).reloads limits.maxStrDigits floatRepr = true :=
    metadataData_reloads callsign reference
  obtain ⟨c, more, shape, solid, -, ascii⟩ := listencodeObj_head reloads described
  rw [shape] at described
  have loaded := jsonLoads_of_scanOnce solid ascii (scanOnce_jsonDumps reloads described)
  obtain ⟨entries, same⟩ : ∃ entries, metadataData (draws j) ref = .dict entries := ⟨_, rfl⟩
  rw [same] at loaded
  exact ⟨entries, by rw [shape]; exact loaded, dictGet_metadataData _ _ _ same⟩

theorem recordReference_seeded {limits : JsonLimits} {floatRepr : PyFloat → PyStr}
    {draws : Nat → RecordDraw} {j : Nat} {ref : Option PyStr} {record : SeedRecord}
    (seeded : SeededRecord limits floatRepr draws j ref record) (callsign : Ascii (draws j).callsign)
    (reference : ∀ uri, ref = some uri → Ascii uri ∧ uri ≠ []) :
    recordReference limits record = ref := by
  obtain ⟨entries, loaded, manifest⟩ :=
    metadata_seeded seeded callsign fun uri same => (reference uri same).1
  unfold recordReference
  rw [loaded]
  dsimp only
  rw [manifest]
  cases ref with
  | none => rfl
  | some uri => simp [manifestUriValue, (reference uri rfl).2]

theorem recordReference_served {limits : JsonLimits} {floatRepr : PyFloat → PyStr}
    {dumps : PyVal → Except PyException PyStr} {store : ObjectStore} {draw : RecordDraw} {i : Nat}
    {ref : Option PyStr} {record : SeedRecord}
    (seeded : SeededRecord limits floatRepr (fun _ => draw) i ref record)
    (readable : Readable limits floatRepr dumps draw)
    (stored : ∀ uri, ref = some uri → uri = pyStr "s3://" ++ s4Bucket ++ pyStr "/" ++
      manifestKey draw.randomId ∧ Holds limits floatRepr store draw.randomId draw.manifest) :
    recordReference limits record = ref :=
  recordReference_seeded seeded readable.callsignAscii fun uri same => by
    obtain ⟨rfl, -⟩ := stored uri same
    exact ⟨uploadReference_ascii readable.idAscii, by simp [pyStr]⟩

def manifestNotNull (limits : JsonLimits) (metadata : PyStr) : Bool :=
  match jsonLoads limits metadata with
  | .ok (.dict entries) =>
    match dictGet entries (pyStr "manifest") .none with
    | .none => false
    | _ => true
  | _ => false

def queryWhere (limits : JsonLimits) (record : SeedRecord) : Bool :=
  decide (record.srcType = pyStr "vehicles") && manifestNotNull limits record.metadata

structure QueryReturns (limits : JsonLimits) (limit : Nat) (table : List SeedRecord)
    (picks : List Nat) : Prop where
  distinct : picks.Nodup
  bounded : picks.length ≤ limit
  selected : ∀ j ∈ picks, ∃ record, table[j]? = some record ∧ queryWhere limits record = true
  complete : picks.length < limit → ∀ j record, table[j]? = some record →
    queryWhere limits record = true → j ∈ picks

theorem manifestNotNull_seeded {limits : JsonLimits} {floatRepr : PyFloat → PyStr}
    {draws : Nat → RecordDraw} {j : Nat} {ref : Option PyStr} {record : SeedRecord}
    (seeded : SeededRecord limits floatRepr draws j ref record) (callsign : Ascii (draws j).callsign)
    (reference : ∀ uri, ref = some uri → Ascii uri) :
    manifestNotNull limits record.metadata = ref.isSome := by
  obtain ⟨entries, loaded, manifest⟩ := metadata_seeded seeded callsign reference
  unfold manifestNotNull
  rw [loaded]
  dsimp only
  rw [manifest]
  cases ref <;> rfl

theorem queryWhere_seeded {limits : JsonLimits} {floatRepr : PyFloat → PyStr}
    {draws : Nat → RecordDraw} {j : Nat} {ref : Option PyStr} {record : SeedRecord}
    (seeded : SeededRecord limits floatRepr draws j ref record) (callsign : Ascii (draws j).callsign)
    (reference : ∀ uri, ref = some uri → Ascii uri) :
    queryWhere limits record = ref.isSome := by
  rw [queryWhere, manifestNotNull_seeded seeded callsign reference, seeded.2.2.1]
  rfl

theorem recordReference_of_queryWhere {limits : JsonLimits} {floatRepr : PyFloat → PyStr}
    {dumps : PyVal → Except PyException PyStr} {store : ObjectStore} {record : SeedRecord}
    (served : Served limits floatRepr dumps store record) (selected : queryWhere limits record = true) :
    ∃ uri, recordReference limits record = some uri := by
  obtain ⟨draw, i, ref, seeded, readable, stored⟩ := served
  rw [queryWhere_seeded seeded readable.callsignAscii fun uri same => by
    rw [(stored uri same).1]; exact uploadReference_ascii readable.idAscii] at selected
  rw [recordReference_served seeded readable stored]
  exact Option.isSome_iff_exists.mp selected

section Seeding

variable (limits : JsonLimits) (floatRepr : PyFloat → PyStr) (dumps : PyVal → Except PyException PyStr)

theorem served_uploadManifests_other {store : ObjectStore} {record : SeedRecord}
    (served : Served limits floatRepr dumps store record) (client : S3Client)
    (uploads : List (PyStr × PyVal)) (absent : record.id ∉ uploads.map Prod.fst) :
    Served limits floatRepr dumps (uploadManifests (jsonDumps limits floatRepr) client store uploads).2
      record := by
  obtain ⟨draw, i, ref, seeded, readable, stored⟩ := served
  have sameId : record.id = draw.randomId := seeded.1
  rw [sameId] at absent
  refine ⟨draw, i, ref, seeded, readable, fun uri same => ?_⟩
  obtain ⟨named, text, payload, dumped, encoded, read⟩ := stored uri same
  exact ⟨named, text, payload, dumped, encoded, by rw [uploadManifests_find_other _ _ _ _ _ absent, read]⟩

theorem served_seeded {client : S3Client} {count : Nat} {draws : Nat → RecordDraw} {store : ObjectStore}
    (distinct : ((manifestUploads draws (List.range count)).map Prod.fst).Nodup)
    (readable : ∀ i < count, Readable limits floatRepr dumps (draws i)) {records : List SeedRecord}
    (pairs : List.Forall₂ (fun (entry : Nat × Option PyStr) record =>
        SeededRecord limits floatRepr draws entry.1 entry.2 record)
      ((List.range count).zip (uploadManifests (jsonDumps limits floatRepr) client store
        (manifestUploads draws (List.range count))).1) records) :
    Consistent limits floatRepr dumps
      (uploadManifests (jsonDumps limits floatRepr) client store
        (manifestUploads draws (List.range count))).2 records := by
  intro record member
  obtain ⟨j, found⟩ := List.getElem?_of_mem member
  obtain ⟨ref, bound, referenced, seeded⟩ := seededRecord_at pairs found
  refine ⟨draws j, j, ref, seeded, readable j bound, fun uri same => ?_⟩
  subst same
  obtain ⟨-, named, text, payload, dumped, encoded, stored⟩ :=
    manifestUploads_stored client count draws store _ distinct referenced
  exact ⟨named, text, payload, dumped, encoded, stored⟩

def drawnIds (draws : Nat → RecordDraw) : List PyStr :=
  (List.range numRecords).map fun i => (draws i).randomId

theorem manifestUploads_ids (draws : Nat → RecordDraw) (indices : List Nat) :
    (manifestUploads draws indices).map Prod.fst = indices.map fun i => (draws i).randomId :=
  List.map_map _ _ _

theorem seededRecords_ids {draws : Nat → RecordDraw} {entries : List (Nat × Option PyStr)}
    {records : List SeedRecord}
    (pairs : List.Forall₂ (fun (entry : Nat × Option PyStr) record =>
      SeededRecord limits floatRepr draws entry.1 entry.2 record) entries records) :
    records.map SeedRecord.id = (entries.map Prod.fst).map fun i => (draws i).randomId := by
  induction pairs with
  | nil => rfl
  | cons seeded _ ih => exact congrArg₂ List.cons seeded.1 ih

variable {limits floatRepr dumps} in
theorem Consistent.append {store : ObjectStore} {front back : List SeedRecord}
    (kept : Consistent limits floatRepr dumps store front)
    (added : Consistent limits floatRepr dumps store back) :
    Consistent limits floatRepr dumps store (front ++ back) := fun record member =>
  (List.mem_append.mp member).elim (kept record) (added record)

variable (createNanoTdf : List UInt8 → List PyStr → Except PyException (List UInt8)) (kcUser : PyStr)

theorem seedDataMain_cases (draws : Nat → RecordDraw) (sdkInit : Option PyException)
    (clientInit : List Event × Except PyException S3Client) (store : ObjectStore) (session : DbSession)
    (shouldDelete : Bool) (table : List SeedRecord) :
    ∃ client k, (seedDataMain limits floatRepr createNanoTdf kcUser draws sdkInit clientInit store
        session shouldDelete table).2.1 = (uploadManifests (jsonDumps limits floatRepr) client store
          (manifestUploads draws ((List.range numRecords).take k))).2 ∧
      ((seedDataMain limits floatRepr createNanoTdf kcUser draws sdkInit clientInit store session
          shouldDelete table).2.2 = table ∨
        ∃ records, (seedDataMain limits floatRepr createNanoTdf kcUser draws sdkInit clientInit store
            session shouldDelete table).2.2 = (if shouldDelete then [] else table) ++ records ∧
          (records = [] ∨ k = numRecords ∧ List.Forall₂ (fun (entry : Nat × Option PyStr) record =>
            SeededRecord limits floatRepr draws entry.1 entry.2 record)
            ((List.range numRecords).zip (uploadManifests (jsonDumps limits floatRepr) client store
              (manifestUploads draws (List.range numRecords))).1) records)) := by
  rcases seedDataMain_state limits floatRepr createNanoTdf kcUser draws sdkInit clientInit store session
    shouldDelete table with ⟨sameStore, sameTable⟩ | ⟨generatedStore, insertedTable⟩
  · exact ⟨⟨fun _ _ => .error (.clientError none), fun _ => none⟩, 0, sameStore.trans rfl, .inl sameTable⟩
  obtain ⟨client, k, stored, returned⟩ :=
    generateTdfRecords_uploads limits floatRepr createNanoTdf kcUser numRecords draws clientInit store
  refine ⟨client, k, generatedStore.trans stored, ?_⟩
  rw [insertedTable]
  rcases insertSeedData_atomic limits floatRepr createNanoTdf kcUser draws clientInit store session
    shouldDelete table with same | ⟨records, generated, appended⟩
  · exact .inl same
  · exact .inr ⟨records, appended, (returned records generated).imp_right fun opened => opened.2⟩

/-- One run of `seed_data.py` keeps the state consistent. -/
theorem seedDataMain_consistent (draws : Nat → RecordDraw) (sdkInit : Option PyException)
    (clientInit : List Event × Except PyException S3Client) {store : ObjectStore} (session : DbSession) (shouldDelete : Bool) {table : List SeedRecord}
    (consistent : Consistent limits floatRepr dumps store table) (distinct : (drawnIds draws).Nodup)
    (fresh : ∀ record ∈ table, record.id ∉ drawnIds draws)
    (readable : ∀ i < numRecords, Readable limits floatRepr dumps (draws i)) :
    Consistent limits floatRepr dumps
      (seedDataMain limits floatRepr createNanoTdf kcUser draws sdkInit clientInit store session
        shouldDelete table).2.1
      (seedDataMain limits floatRepr createNanoTdf kcUser draws sdkInit clientInit store session
        shouldDelete table).2.2 := by
  obtain ⟨client, k, stored, outcome⟩ := seedDataMain_cases limits floatRepr createNanoTdf kcUser draws
    sdkInit clientInit store session shouldDelete table
  rw [stored]
  have ids : (manifestUploads draws (List.range numRecords)).map Prod.fst = drawnIds draws :=
    manifestUploads_ids draws _
  -- The uploads made before the run stopped are under the run's ids, none of them the table's.
  have kept : Consistent limits floatRepr dumps (uploadManifests (jsonDumps limits floatRepr) client store
      (manifestUploads draws ((List.range numRecords).take k))).2 table := fun record member =>
    served_uploadManifests_other limits floatRepr dumps (consistent record member) client _ fun listed =>
      fresh record member (ids ▸ (((List.take_sublist k _).map _).map _).subset listed)
  rcases outcome with same | ⟨records, appended, committed⟩
  · rw [same]
    exact kept
  have cleared : Consistent limits floatRepr dumps (uploadManifests (jsonDumps limits floatRepr) client
      store (manifestUploads draws ((List.range numRecords).take k))).2
      (if shouldDelete then [] else table) := by
    split
    · intro _ member
      cases member
    · exact kept
  rw [appended]
  rcases committed with rfl | ⟨rfl, pairs⟩
  · rw [List.append_nil]
    exact cleared
  · rw [List.take_of_length_le (List.length_range numRecords).le] at cleared ⊢
    exact cleared.append (served_seeded limits floatRepr dumps (ids ▸ distinct) readable pairs)

theorem seedDataMain_ids (draws : Nat → RecordDraw) (sdkInit : Option PyException)
    (clientInit : List Event × Except PyException S3Client) (store : ObjectStore) (session : DbSession) (shouldDelete : Bool) (table : List SeedRecord) :
    ((seedDataMain limits floatRepr createNanoTdf kcUser draws sdkInit clientInit store session
        shouldDelete table).2.2.map SeedRecord.id).Sublist
      (table.map SeedRecord.id ++ drawnIds draws) := by
  obtain ⟨client, k, -, same | ⟨records, appended, committed⟩⟩ := seedDataMain_cases limits floatRepr
    createNanoTdf kcUser draws sdkInit clientInit store session shouldDelete table
  · rw [same]
    exact List.sublist_append_left _ _
  have front : ((if shouldDelete then [] else table).map SeedRecord.id).Sublist
      (table.map SeedRecord.id) := by
    split
    · exact List.nil_sublist _
    · exact List.Sublist.refl _
  rw [appended, List.map_append]
  rcases committed with rfl | ⟨-, pairs⟩
  · exact front.append (List.nil_sublist _)
  · have whole : (List.range numRecords).length ≤ (uploadManifests (jsonDumps limits floatRepr) client
        store (manifestUploads draws (List.range numRecords))).1.length := by
      rw [uploadManifests_length, manifestUploads, List.length_map]
    rw [seededRecords_ids limits floatRepr pairs, List.map_fst_zip _ _ whole]
    exact front.append (List.Sublist.refl _)

end Seeding

structure SeedRun where
  draws : Nat → RecordDraw
  sdkInit : Option PyException
  clientInit : List Event × Except PyException S3Client
  session : DbSession
  shouldDelete : Bool

section Runs

variable (limits : JsonLimits) (floatRepr : PyFloat → PyStr)
  (createNanoTdf : List UInt8 → List PyStr → Except PyException (List UInt8)) (kcUser : PyStr)

def seedRuns : List SeedRun → ObjectStore → List SeedRecord → ObjectStore × List SeedRecord
  | [], store, table => (store, table)
  | run :: rest, store, table =>
    let after := seedDataMain limits floatRepr createNanoTdf kcUser run.draws run.sdkInit run.clientInit
      store run.session run.shouldDelete table
    seedRuns rest after.2.1 after.2.2

/-- Every state runs of `seed_data.py` reach from a consistent state is consistent. -/
theorem seedRuns_consistent (dumps : PyVal → Except PyException PyStr) (runs : List SeedRun)
    {store : ObjectStore} {table : List SeedRecord}
    (consistent : Consistent limits floatRepr dumps store table)
    (distinct : (table.map SeedRecord.id ++ runs.flatMap fun run => drawnIds run.draws).Nodup)
    (readable : ∀ run ∈ runs, ∀ i < numRecords, Readable limits floatRepr dumps (run.draws i)) :
    Consistent limits floatRepr dumps (seedRuns limits floatRepr createNanoTdf kcUser runs store table).1
      (seedRuns limits floatRepr createNanoTdf kcUser runs store table).2 := by
  induction runs generalizing store table with
  | nil => exact consistent
  | cons run rest ih =>
    rw [List.flatMap_cons, ← List.append_assoc] at distinct
    obtain ⟨before, -, -⟩ := List.nodup_append.mp distinct
    obtain ⟨-, drawn, apart⟩ := List.nodup_append.mp before
    exact ih (seedDataMain_consistent limits floatRepr dumps createNanoTdf kcUser run.draws run.sdkInit
        run.clientInit run.session run.shouldDelete consistent drawn
        (fun record member listed => apart (List.mem_map_of_mem _ member) listed)
        (readable run (.head _)))
      (((seedDataMain_ids limits floatRepr createNanoTdf kcUser run.draws run.sdkInit run.clientInit
        store run.session run.shouldDelete table).append_right _).nodup distinct)
      fun later member => readable later (.tail _ member)

end Runs

def numberedDraw (n : Nat) : RecordDraw :=
  { sampleDraw with
    randomId := decimalStr n
    manifest := generateMilitaryManifest sampleManifestDraw (decimalStr n) (pyStr "secret") }

def sampleRuns : List SeedRun :=
  [⟨numberedDraw, none, ([], .ok sampleSeeder), ⟨none, none, fun _ => none, none, none⟩, false⟩,
    ⟨fun i => numberedDraw (numRecords + i), none, ([], .ok sampleSeeder),
      ⟨none, none, fun _ => none, none, none⟩, true⟩]

theorem seedRuns_consistent_twice :
    (([] : List SeedRecord).map SeedRecord.id ++ sampleRuns.flatMap fun run => drawnIds run.draws).Nodup ∧
    (∀ run ∈ sampleRuns, ∀ i < numRecords,
      Readable sampleLimits sampleRepr (jsonDumps sampleLimits sampleRepr) (run.draws i)) ∧
    Consistent sampleLimits sampleRepr (jsonDumps sampleLimits sampleRepr)
      (seedRuns sampleLimits sampleRepr (fun bytes _ => .ok bytes) [] sampleRuns ⟨[]⟩ []).1
      (seedRuns sampleLimits sampleRepr (fun bytes _ => .ok bytes) [] sampleRuns ⟨[]⟩ []).2 := by
  have distinct : (([] : List SeedRecord).map SeedRecord.id ++
      sampleRuns.flatMap fun run => drawnIds run.draws).Nodup := by
    have whole : (List.range (numRecords + numRecords)).map decimalStr =
        drawnIds numberedDraw ++ drawnIds fun i => numberedDraw (numRecords + i) := by
      rw [List.range_add, List.map_append, List.map_map]
      rfl
    show (drawnIds numberedDraw ++ (drawnIds (fun i => numberedDraw (numRecords + i)) ++ [])).Nodup
    rw [List.append_nil, ← whole]
    exact (List.nodup_range _).map decimalStr_injective
  have readable : ∀ run ∈ sampleRuns, ∀ i < numRecords,
      Readable sampleLimits sampleRepr (jsonDumps sampleLimits sampleRepr) (run.draws i) := by
    intro run member i _
    simp only [sampleRuns, List.mem_cons, List.not_mem_nil, or_false] at member
    have floats : ∀ x ∈ sampleManifestDraw.floats,
        (PyVal.float x).reloads sampleLimits.maxStrDigits sampleRepr = true := by decide
    have ints : ∀ n ∈ sampleManifestDraw.ints, (decimalStr n).length ≤ 640 := by decide
    rcases member with rfl | rfl <;>
      exact readable_generated rfl (decimalStr_ascii _) (ascii_pyStr (by decide))
        sampleManifestDraw_texts floats (scalarText_pyStr _)
        ((jsonDumps_ok_iff sampleLimits sampleRepr _).mpr
          (generateMilitaryManifest_dumpable 996 _ _ ints))
  exact ⟨distinct, readable, seedRuns_consistent sampleLimits sampleRepr _ [] _ sampleRuns
    (fun _ member => by cases member) distinct readable⟩

section Reading

variable {limits : JsonLimits} {floatRepr : PyFloat → PyStr} {dumps : PyVal → Except PyException PyStr}
  {store : ObjectStore} {holds : PyStr → Bool}

theorem processRecord_served (entitled : ∀ tag ∈ manifestAttributes, holds tag = true)
    {record : SeedRecord} (served : Served limits floatRepr dumps store record) {row : Row}
    (delivered : Delivers limits record row) :
    ∃ converted, convertRow limits row = .ok converted ∧
      getObjectCalls (processRecord limits dumps (store.client holds) converted).1 =
        ((recordReference limits record).map fun _ => (s4Bucket, manifestKey record.id)).toList ∧
      (processRecord limits dumps (store.client holds) converted).2 = .ok () ∧
      ∀ uri, recordReference limits record = some uri → ∃ manifest printed,
        fetchManifestFromS4 limits (store.client holds) (.str uri) =
          ([.getObject s4Bucket (manifestKey record.id)], .ok manifest) ∧
        dumps manifest = .ok printed ∧
        .log .info [.value (.str printed)] ∈ (processRecord limits dumps (store.client holds) converted).1 := by
  obtain ⟨draw, i, ref, seeded, readable, stored⟩ := served
  have fetched : ∀ uri, ref = some uri → Ascii uri ∧ fetchManifestFromS4 limits (store.client holds) (.str uri) =
      ([.getObject s4Bucket (manifestKey draw.randomId)], .ok draw.manifest) := by
    intro uri same
    obtain ⟨rfl, text, payload, dumped, encoded, read⟩ := stored uri same
    exact ⟨uploadReference_ascii readable.idAscii,
      fetchManifestFromS4_stored limits floatRepr readable.reloads dumped encoded read entitled⟩
  obtain ⟨printed, shown⟩ := readable.printable
  obtain ⟨converted, convertedRow, calls, result, prints⟩ := @processRecord_seeded limits floatRepr dumps
    (store.client holds) (fun _ => draw) i ref fetched record row seeded delivered readable.callsignAscii
    readable.truthy printed shown
  have sameId : record.id = draw.randomId := seeded.1
  rw [recordReference_served seeded readable stored, sameId]
  refine ⟨converted, convertedRow, calls, result, fun uri same => ⟨draw.manifest, printed,
    (fetched uri same).2, shown, prints (by rw [same]; rfl)⟩⟩

theorem processRecords_delivered {client : S3Client} (sees : SeedRecord → List Event → Prop)
    (keeps : Event → Prop) (grows : ∀ record small large, small ⊆ large → sees record small → sees record large)
    {table : List SeedRecord}
    (pass : ∀ record ∈ table, ∀ row, Delivers limits record row → ∃ converted,
      convertRow limits row = .ok converted ∧
      getObjectCalls (processRecord limits dumps client converted).1 =
        ((recordReference limits record).map fun _ => (s4Bucket, manifestKey record.id)).toList ∧
      (processRecord limits dumps client converted).2 = .ok () ∧
      sees record (processRecord limits dumps client converted).1 ∧
      ∀ event ∈ (processRecord limits dumps client converted).1, keeps event)
    {picks : List Nat} {rows : List Row}
    (delivered : List.Forall₂ (fun j row => ∃ record, table[j]? = some record ∧
      Delivers limits record row) picks rows) :
    (convertRows limits rows).2 = none ∧
      (processRecords limits dumps client (convertRows limits rows).1).2 = .ok () ∧
      getObjectCalls (processRecords limits dumps client (convertRows limits rows).1).1 =
        picks.filterMap (fun j => table[j]?.bind fun record =>
          (recordReference limits record).map fun _ => (s4Bucket, manifestKey record.id)) ∧
      (∀ j ∈ picks, ∀ record, table[j]? = some record →
        sees record (processRecords limits dumps client (convertRows limits rows).1).1) ∧
      ∀ event ∈ (processRecords limits dumps client (convertRows limits rows).1).1, keeps event := by
  induction delivered with
  | nil => simp [convertRows, processRecords, getObjectCalls]
  | @cons j row picks rows picked _ ih =>
    obtain ⟨record, found, deliveredRow⟩ := picked
    obtain ⟨converted, convertedRow, calls, result, seen, kept⟩ :=
      pass record (List.getElem?_mem found) row deliveredRow
    obtain ⟨clean, returned, laterCalls, laterSeen, laterKept⟩ := ih
    obtain ⟨head, loop⟩ := convertRows_processRecords_cons rows convertedRow result
    rw [head, loop]
    refine ⟨clean, returned, ?_, fun k member other foundAt => ?_, fun event shown => ?_⟩
    · rw [getObjectCalls_append, calls, laterCalls, List.filterMap_cons, found, Option.some_bind]
      cases recordReference limits record <;> rfl
    · rcases List.mem_cons.mp member with rfl | later
      · rw [found, Option.some.injEq] at foundAt
        exact foundAt ▸ grows _ _ _ (List.subset_append_left _ _) seen
      · exact grows _ _ _ (List.subset_append_right _ _) (laterSeen k later other foundAt)
    · rcases List.mem_append.mp shown with here | there
      · exact kept event here
      · exact laterKept event there

theorem processRecords_consistent (entitled : ∀ tag ∈ manifestAttributes, holds tag = true)
    {table : List SeedRecord} (consistent : Consistent limits floatRepr dumps store table)
    {picks : List Nat} {rows : List Row}
    (delivered : List.Forall₂ (fun j row => ∃ record, table[j]? = some record ∧
      Delivers limits record row) picks rows) :
    (convertRows limits rows).2 = none ∧
      (processRecords limits dumps (store.client holds) (convertRows limits rows).1).2 = .ok () ∧
      getObjectCalls (processRecords limits dumps (store.client holds) (convertRows limits rows).1).1 =
        picks.filterMap (fun j => table[j]?.bind fun record =>
          (recordReference limits record).map fun _ => (s4Bucket, manifestKey record.id)) ∧
      ∀ j ∈ picks, ∀ record uri, table[j]? = some record → recordReference limits record = some uri →
        ∃ manifest printed, fetchManifestFromS4 limits (store.client holds) (.str uri) =
            ([.getObject s4Bucket (manifestKey record.id)], .ok manifest) ∧
          dumps manifest = .ok printed ∧
          .log .info [.value (.str printed)] ∈
            (processRecords limits dumps (store.client holds) (convertRows limits rows).1).1 := by
  obtain ⟨clean, returned, calls, shown, -⟩ := processRecords_delivered
    (fun record out => ∀ uri, recordReference limits record = some uri → ∃ manifest printed,
      fetchManifestFromS4 limits (store.client holds) (.str uri) =
        ([.getObject s4Bucket (manifestKey record.id)], .ok manifest) ∧
      dumps manifest = .ok printed ∧ .log .info [.value (.str printed)] ∈ out) (fun _ => True)
    (fun _ _ _ grown seen uri referenced => (seen uri referenced).imp fun _ =>
      Exists.imp fun _ fetched => ⟨fetched.1, fetched.2.1, grown fetched.2.2⟩)
    (fun record member _ deliveredRow => (processRecord_served entitled (consistent record member)
      deliveredRow).imp fun _ passed => ⟨passed.1, passed.2.1, passed.2.2.1, passed.2.2.2,
        fun _ _ => trivial⟩) delivered
  exact ⟨clean, returned, calls, fun j member record uri found => shown j member record found uri⟩

/-- On a consistent state, an entitled reader reads and prints every referenced manifest. -/
theorem readManifestsFromDb_consistent (kcUser : PyStr)
    (entitled : ∀ tag ∈ manifestAttributes, holds tag = true) {table : List SeedRecord}
    (consistent : Consistent limits floatRepr dumps store table) {picks : List Nat} {rows : List Row}
    (delivered : List.Forall₂ (fun j row => ∃ record, table[j]? = some record ∧
      Delivers limits record row) picks rows) :
    (readManifestsFromDb limits dumps kcUser (.ok (store.client holds)) (.fetched rows)).2 = .ok () ∧
      getObjectCalls (readManifestsFromDb limits dumps kcUser (.ok (store.client holds)) (.fetched rows)).1 =
        picks.filterMap (fun j => table[j]?.bind fun record =>
          (recordReference limits record).map fun _ => (s4Bucket, manifestKey record.id)) ∧
      ∀ j ∈ picks, ∀ record uri, table[j]? = some record → recordReference limits record = some uri →
        ∃ manifest printed, fetchManifestFromS4 limits (store.client holds) (.str uri) =
            ([.getObject s4Bucket (manifestKey record.id)], .ok manifest) ∧
          dumps manifest = .ok printed ∧
          .log .info [.value (.str printed)] ∈
            (readManifestsFromDb limits dumps kcUser (.ok (store.client holds)) (.fetched rows)).1 := by
  obtain ⟨-, returned, calls, shown⟩ := processRecords_consistent entitled consistent delivered
  have queried := (queryTdfObjects_fetched limits rows).1
  have loop := readManifestsFromDb_loop limits dumps (store.client holds) kcUser (.fetched rows) _ queried
  refine ⟨loop.2.trans returned, loop.1.trans calls, fun j member record uri found referenced => ?_⟩
  obtain ⟨manifest, printed, fetched, dumped, printedHere⟩ := shown j member record uri found referenced
  exact ⟨manifest, printed, fetched, dumped,
    readManifestsFromDb_shows limits dumps _ kcUser (.fetched rows) _ queried printedHere⟩

def sampleStore : ObjectStore :=
  (uploadManifests (jsonDumps sampleLimits sampleRepr) sampleSeeder ⟨[]⟩
    (manifestUploads (fun _ => sampleDraw) (List.range 1))).2

theorem sampleSeeded_pairs :
    List.Forall₂ (fun (entry : Nat × Option PyStr) record =>
        SeededRecord sampleLimits sampleRepr (fun _ => sampleDraw) entry.1 entry.2 record)
      ((List.range 1).zip (uploadManifests (jsonDumps sampleLimits sampleRepr) sampleSeeder ⟨[]⟩
        (manifestUploads (fun _ => sampleDraw) (List.range 1))).1) [sampleSeeded] := by
  obtain ⟨_, _, -, returned⟩ := generateTdfRecords_uploads sampleLimits sampleRepr (fun _ _ => .ok [])
    [] 1 (fun _ => sampleDraw) ([], .ok sampleSeeder) ⟨[]⟩
  rcases returned [sampleSeeded] rfl with empty | ⟨opened, -, pairs⟩
  · cases empty
  · cases opened
    exact pairs

theorem sampleDraw_readable :
    ∀ i < 1, Readable sampleLimits sampleRepr (jsonDumps sampleLimits sampleRepr) sampleDraw :=
  fun _ _ => ⟨ascii_pyStr (by decide), ascii_pyStr (by decide), rfl, rfl, _, rfl⟩

theorem sampleStore_consistent :
    Consistent sampleLimits sampleRepr (jsonDumps sampleLimits sampleRepr) sampleStore [sampleSeeded] :=
  served_seeded sampleLimits sampleRepr _ (by decide) sampleDraw_readable sampleSeeded_pairs

theorem sampleSeeded_delivered :
    List.Forall₂ (fun j row => ∃ record, [sampleSeeded][j]? = some record ∧
      Delivers sampleLimits record row) [0] [textRow sampleSeeded] :=
  .cons ⟨_, rfl, .inl rfl, .inl rfl⟩ .nil

theorem readManifestsFromDb_consistent_sample :
    (∀ tag ∈ manifestAttributes, (fun _ => true : PyStr → Bool) tag = true) ∧
    Consistent sampleLimits sampleRepr (jsonDumps sampleLimits sampleRepr) sampleStore [sampleSeeded] ∧
    List.Forall₂ (fun j row => ∃ record, [sampleSeeded][j]? = some record ∧
      Delivers sampleLimits record row) [0] [textRow sampleSeeded] ∧
    (readManifestsFromDb sampleLimits (jsonDumps sampleLimits sampleRepr) [] (.ok (sampleStore.client fun _ => true))
        (.fetched [textRow sampleSeeded])).2 = .ok () ∧
      getObjectCalls (readManifestsFromDb sampleLimits (jsonDumps sampleLimits sampleRepr) []
          (.ok (sampleStore.client fun _ => true)) (.fetched [textRow sampleSeeded])).1 =
        [0].filterMap (fun j => [sampleSeeded][j]?.bind fun record =>
          (recordReference sampleLimits record).map fun _ => (s4Bucket, manifestKey record.id)) ∧
      ∀ j ∈ [0], ∀ record uri, [sampleSeeded][j]? = some record →
        recordReference sampleLimits record = some uri →
        ∃ manifest printed, fetchManifestFromS4 sampleLimits (sampleStore.client fun _ => true) (.str uri) =
            ([.getObject s4Bucket (manifestKey record.id)], .ok manifest) ∧
          jsonDumps sampleLimits sampleRepr manifest = .ok printed ∧
          .log .info [.value (.str printed)] ∈ (readManifestsFromDb sampleLimits
            (jsonDumps sampleLimits sampleRepr) [] (.ok (sampleStore.client fun _ => true))
            (.fetched [textRow sampleSeeded])).1 :=
  ⟨fun _ _ => rfl, sampleStore_consistent, sampleSeeded_delivered,
    readManifestsFromDb_consistent [] (fun _ _ => rfl) sampleStore_consistent sampleSeeded_delivered⟩

/-- On a consistent table, the reader reads one manifest for every row the query returns. -/
theorem readManifestsFromDb_reads_every_row (kcUser : PyStr)
    (entitled : ∀ tag ∈ manifestAttributes, holds tag = true) {table : List SeedRecord}
    (consistent : Consistent limits floatRepr dumps store table) {picks : List Nat} {rows : List Row}
    (returned : QueryReturns limits 10 table picks)
    (delivered : List.Forall₂ (fun j row => ∃ record, table[j]? = some record ∧
      Delivers limits record row) picks rows) :
    (readManifestsFromDb limits dumps kcUser (.ok (store.client holds)) (.fetched rows)).2 = .ok () ∧
      getObjectCalls (readManifestsFromDb limits dumps kcUser (.ok (store.client holds)) (.fetched rows)).1 =
        picks.filterMap (fun j => table[j]?.map fun record => (s4Bucket, manifestKey record.id)) ∧
      (getObjectCalls (readManifestsFromDb limits dumps kcUser (.ok (store.client holds))
        (.fetched rows)).1).length ≤ 10 ∧
      ∀ j ∈ picks, ∀ record, table[j]? = some record → ∃ uri manifest printed,
        recordReference limits record = some uri ∧
        fetchManifestFromS4 limits (store.client holds) (.str uri) =
          ([.getObject s4Bucket (manifestKey record.id)], .ok manifest) ∧
        dumps manifest = .ok printed ∧
        .log .info [.value (.str printed)] ∈
          (readManifestsFromDb limits dumps kcUser (.ok (store.client holds)) (.fetched rows)).1 := by
  obtain ⟨-, result, calls, shown⟩ := processRecords_consistent entitled consistent delivered
  have queried := (queryTdfObjects_fetched limits rows).1
  have loop := readManifestsFromDb_loop limits dumps (store.client holds) kcUser (.fetched rows) _ queried
  have referenced : ∀ j ∈ picks, ∀ record, table[j]? = some record →
      ∃ uri, recordReference limits record = some uri := by
    intro j member record found
    obtain ⟨other, foundOther, selected⟩ := returned.selected j member
    rw [found, Option.some.injEq] at foundOther
    subst foundOther
    exact recordReference_of_queryWhere (consistent _ (List.getElem?_mem found)) selected
  -- No returned row is skipped: each holds a reference.
  have everyRow : picks.filterMap (fun j => table[j]?.bind fun record =>
        (recordReference limits record).map fun _ => (s4Bucket, manifestKey record.id)) =
      picks.filterMap (fun j => table[j]?.map fun record => (s4Bucket, manifestKey record.id)) := by
    refine List.filterMap_congr fun j member => ?_
    cases found : table[j]? with
    | none => rfl
    | some record =>
      obtain ⟨uri, hasReference⟩ := referenced j member record found
      simp [hasReference]
  refine ⟨loop.2.trans result, loop.1.trans (calls.trans everyRow), ?_,
    fun j member record found => ?_⟩
  · rw [loop.1, calls, everyRow]
    exact (List.length_filterMap_le _ _).trans returned.bounded
  · obtain ⟨uri, hasReference⟩ := referenced j member record found
    obtain ⟨manifest, printed, fetched, dumped, printedHere⟩ :=
      shown j member record uri found hasReference
    exact ⟨uri, manifest, printed, hasReference, fetched, dumped,
      readManifestsFromDb_shows limits dumps _ kcUser (.fetched rows) _ queried printedHere⟩

theorem readManifestsFromDb_reads_every_row_sample :
    (∀ tag ∈ manifestAttributes, (fun _ => true : PyStr → Bool) tag = true) ∧
    Consistent sampleLimits sampleRepr (jsonDumps sampleLimits sampleRepr) sampleStore [sampleSeeded] ∧
    QueryReturns sampleLimits 10 [sampleSeeded] [0] ∧
    List.Forall₂ (fun j row => ∃ record, [sampleSeeded][j]? = some record ∧
      Delivers sampleLimits record row) [0] [textRow sampleSeeded] ∧
    (readManifestsFromDb sampleLimits (jsonDumps sampleLimits sampleRepr) [] (.ok (sampleStore.client fun _ => true))
        (.fetched [textRow sampleSeeded])).2 = .ok () ∧
      getObjectCalls (readManifestsFromDb sampleLimits (jsonDumps sampleLimits sampleRepr) []
          (.ok (sampleStore.client fun _ => true)) (.fetched [textRow sampleSeeded])).1 =
        [0].filterMap (fun j => [sampleSeeded][j]?.map fun record => (s4Bucket, manifestKey record.id)) ∧
      (getObjectCalls (readManifestsFromDb sampleLimits (jsonDumps sampleLimits sampleRepr) []
        (.ok (sampleStore.client fun _ => true)) (.fetched [textRow sampleSeeded])).1).length ≤ 10 ∧
      ∀ j ∈ [0], ∀ record, [sampleSeeded][j]? = some record → ∃ uri manifest printed,
        recordReference sampleLimits record = some uri ∧
        fetchManifestFromS4 sampleLimits (sampleStore.client fun _ => true) (.str uri) =
          ([.getObject s4Bucket (manifestKey record.id)], .ok manifest) ∧
        jsonDumps sampleLimits sampleRepr manifest = .ok printed ∧
        .log .info [.value (.str printed)] ∈ (readManifestsFromDb sampleLimits
          (jsonDumps sampleLimits sampleRepr) [] (.ok (sampleStore.client fun _ => true))
          (.fetched [textRow sampleSeeded])).1 := by
  obtain ⟨ref, -, referenced, seeded⟩ :=
    seededRecord_at sampleSeeded_pairs (show [sampleSeeded][0]? = some sampleSeeded from rfl)
  have uploaded : ref = some (pyStr "s3://" ++ s4Bucket ++ pyStr "/" ++ manifestKey sampleDraw.randomId) :=
    Option.some.inj (referenced.symm.trans rfl)
  have readable := sampleDraw_readable 0 Nat.zero_lt_one
  have selected : queryWhere sampleLimits sampleSeeded = true := by
    rw [queryWhere_seeded seeded readable.callsignAscii fun uri same => by
      rw [uploaded, Option.some.injEq] at same
      rw [← same]
      exact uploadReference_ascii readable.idAscii, uploaded]
    rfl
  have query : QueryReturns sampleLimits 10 [sampleSeeded] [0] :=
    ⟨List.nodup_singleton 0, by decide, fun _ member => by
      rw [List.mem_singleton.mp member]
      exact ⟨_, rfl, selected⟩, fun _ j _ found _ => by
      have bound := (List.getElem?_eq_some_iff.mp found).1
      rw [List.length_singleton, Nat.lt_one_iff] at bound
      exact List.mem_singleton.mpr bound⟩
  exact ⟨fun _ _ => rfl, sampleStore_consistent, query, sampleSeeded_delivered,
    readManifestsFromDb_reads_every_row [] (fun _ _ => rfl) sampleStore_consistent query
      sampleSeeded_delivered⟩

theorem processRecord_served_denied (lacking : ∃ tag ∈ manifestAttributes, holds tag = false)
    {record : SeedRecord} (served : Served limits floatRepr dumps store record) {row : Row}
    (delivered : Delivers limits record row) :
    ∃ converted, convertRow limits row = .ok converted ∧
      getObjectCalls (processRecord limits dumps (store.client holds) converted).1 =
        ((recordReference limits record).map fun _ => (s4Bucket, manifestKey record.id)).toList ∧
      (processRecord limits dumps (store.client holds) converted).2 = .ok () ∧
      (∀ uri, recordReference limits record = some uri →
        fetchManifestFromS4 limits (store.client holds) (.str uri) =
          ([.getObject s4Bucket (manifestKey record.id),
            accessDenied (.str uri) (some (pyStr "AccessDenied"))], .ok .none) ∧
        couldNotRetrieve ∈ (processRecord limits dumps (store.client holds) converted).1) ∧
      ∀ text, .log .info [.value (.str text)] ∉
        (processRecord limits dumps (store.client holds) converted).1 := by
  obtain ⟨draw, i, ref, seeded, readable, stored⟩ := served
  have sameId : record.id = draw.randomId := seeded.1
  rw [recordReference_served seeded readable stored, sameId]
  cases ref with
  | none =>
    obtain ⟨metadata, search, converted, reference⟩ :=
      convertRow_seeded seeded delivered readable.callsignAscii fun _ absent => by cases absent
    obtain ⟨calls, result, quiet⟩ := processRecord_without_reference limits dumps (store.client holds)
      { row with metadata := .dict metadata, search := .dict search } rfl reference
    exact ⟨_, converted, calls, result, fun _ absent => absurd absent (Option.some_ne_none _).symm,
      quiet⟩
  | some uri =>
    obtain ⟨rfl, text, payload, dumped, encoded, found⟩ := stored uri rfl
    have denied : fetchManifestFromS4 limits (store.client holds)
        (.str (pyStr "s3://" ++ s4Bucket ++ pyStr "/" ++ manifestKey draw.randomId)) =
        ([.getObject s4Bucket (manifestKey draw.randomId),
          accessDenied (.str (pyStr "s3://" ++ s4Bucket ++ pyStr "/" ++ manifestKey draw.randomId))
            (some (pyStr "AccessDenied"))], .ok .none) := by
      rw [fetchManifestFromS4_uploadReference _ _ _ (manifestKey_ne_nil _)]
      simp [getManifestObject, read_uploaded_denied found lacking]
    obtain ⟨metadata, search, converted, reference⟩ :=
      convertRow_seeded seeded delivered readable.callsignAscii fun _ same => by
        cases same
        exact uploadReference_ascii readable.idAscii
    obtain ⟨calls, result, reported, quiet⟩ := processRecord_unretrieved limits dumps
      (store.client holds) { row with metadata := .dict metadata, search := .dict search } rfl
      reference (by simp [pyStr]) denied rfl
    exact ⟨_, converted, calls.trans rfl, result, fun _ same => by
      cases same
      exact ⟨denied, reported⟩, quiet⟩

theorem processRecords_consistent_denied (lacking : ∃ tag ∈ manifestAttributes, holds tag = false)
    {table : List SeedRecord} (consistent : Consistent limits floatRepr dumps store table)
    {picks : List Nat} {rows : List Row}
    (delivered : List.Forall₂ (fun j row => ∃ record, table[j]? = some record ∧
      Delivers limits record row) picks rows) :
    (convertRows limits rows).2 = none ∧
      (processRecords limits dumps (store.client holds) (convertRows limits rows).1).2 = .ok () ∧
      getObjectCalls (processRecords limits dumps (store.client holds) (convertRows limits rows).1).1 =
        picks.filterMap (fun j => table[j]?.bind fun record =>
          (recordReference limits record).map fun _ => (s4Bucket, manifestKey record.id)) ∧
      (∀ j ∈ picks, ∀ record uri, table[j]? = some record → recordReference limits record = some uri →
        fetchManifestFromS4 limits (store.client holds) (.str uri) =
          ([.getObject s4Bucket (manifestKey record.id),
            accessDenied (.str uri) (some (pyStr "AccessDenied"))], .ok .none) ∧
        couldNotRetrieve ∈
          (processRecords limits dumps (store.client holds) (convertRows limits rows).1).1) ∧
      ∀ text, .log .info [.value (.str text)] ∉
        (processRecords limits dumps (store.client holds) (convertRows limits rows).1).1 := by
  obtain ⟨clean, returned, calls, reported, quiet⟩ := processRecords_delivered
    (fun record out => ∀ uri, recordReference limits record = some uri →
      fetchManifestFromS4 limits (store.client holds) (.str uri) =
        ([.getObject s4Bucket (manifestKey record.id),
          accessDenied (.str uri) (some (pyStr "AccessDenied"))], .ok .none) ∧ couldNotRetrieve ∈ out)
    (fun event => ∀ text, event ≠ .log .info [.value (.str text)])
    (fun _ _ _ grown seen uri referenced => (seen uri referenced).imp_right fun here => grown here)
    (fun record member _ deliveredRow => (processRecord_served_denied lacking
      (consistent record member) deliveredRow).imp fun _ passed => ⟨passed.1, passed.2.1,
        passed.2.2.1, passed.2.2.2.1, fun _ shown text same => passed.2.2.2.2 text (same ▸ shown)⟩)
    delivered
  exact ⟨clean, returned, calls, fun j member record uri found => reported j member record found uri,
    fun text shown => quiet _ shown text rfl⟩

/-- On a consistent state, a reader lacking a tag is denied every manifest and prints none. -/
theorem readManifestsFromDb_consistent_denied (kcUser : PyStr)
    (lacking : ∃ tag ∈ manifestAttributes, holds tag = false) {table : List SeedRecord}
    (consistent : Consistent limits floatRepr dumps store table) {picks : List Nat} {rows : List Row}
    (delivered : List.Forall₂ (fun j row => ∃ record, table[j]? = some record ∧
      Delivers limits record row) picks rows) :
    (readManifestsFromDb limits dumps kcUser (.ok (store.client holds)) (.fetched rows)).2 = .ok () ∧
      getObjectCalls (readManifestsFromDb limits dumps kcUser (.ok (store.client holds))
        (.fetched rows)).1 =
        picks.filterMap (fun j => table[j]?.bind fun record =>
          (recordReference limits record).map fun _ => (s4Bucket, manifestKey record.id)) ∧
      (∀ j ∈ picks, ∀ record uri, table[j]? = some record → recordReference limits record = some uri →
        fetchManifestFromS4 limits (store.client holds) (.str uri) =
          ([.getObject s4Bucket (manifestKey record.id),
            accessDenied (.str uri) (some (pyStr "AccessDenied"))], .ok .none) ∧
        couldNotRetrieve ∈
          (readManifestsFromDb limits dumps kcUser (.ok (store.client holds)) (.fetched rows)).1) ∧
      ∀ text, .log .info [.value (.str text)] ∉
        (readManifestsFromDb limits dumps kcUser (.ok (store.client holds)) (.fetched rows)).1 := by
  obtain ⟨-, returned, calls, reported, quiet⟩ := processRecords_consistent_denied lacking consistent
    delivered
  have queried := (queryTdfObjects_fetched limits rows).1
  have loop := readManifestsFromDb_loop limits dumps (store.client holds) kcUser (.fetched rows) _
    queried
  refine ⟨loop.2.trans returned, loop.1.trans calls, fun j member record uri found referenced => ?_,
    fun text shown => quiet text (readManifestsFromDb_prints_in_loop limits dumps _ kcUser rows shown)⟩
  obtain ⟨denied, here⟩ := reported j member record uri found referenced
  exact ⟨denied, readManifestsFromDb_shows limits dumps _ kcUser (.fetched rows) _ queried here⟩

theorem readManifestsFromDb_consistent_denied_sample :
    (∃ tag ∈ manifestAttributes, (fun _ => false : PyStr → Bool) tag = false) ∧
    Consistent sampleLimits sampleRepr (jsonDumps sampleLimits sampleRepr) sampleStore [sampleSeeded] ∧
    List.Forall₂ (fun j row => ∃ record, [sampleSeeded][j]? = some record ∧
      Delivers sampleLimits record row) [0] [textRow sampleSeeded] ∧
    (readManifestsFromDb sampleLimits (jsonDumps sampleLimits sampleRepr) []
        (.ok (sampleStore.client fun _ => false)) (.fetched [textRow sampleSeeded])).2 = .ok () ∧
      getObjectCalls (readManifestsFromDb sampleLimits (jsonDumps sampleLimits sampleRepr) []
          (.ok (sampleStore.client fun _ => false)) (.fetched [textRow sampleSeeded])).1 =
        [0].filterMap (fun j => [sampleSeeded][j]?.bind fun record =>
          (recordReference sampleLimits record).map fun _ => (s4Bucket, manifestKey record.id)) ∧
      (∀ j ∈ [0], ∀ record uri, [sampleSeeded][j]? = some record →
        recordReference sampleLimits record = some uri →
        fetchManifestFromS4 sampleLimits (sampleStore.client fun _ => false) (.str uri) =
          ([.getObject s4Bucket (manifestKey record.id),
            accessDenied (.str uri) (some (pyStr "AccessDenied"))], .ok .none) ∧
        couldNotRetrieve ∈ (readManifestsFromDb sampleLimits (jsonDumps sampleLimits sampleRepr) []
          (.ok (sampleStore.client fun _ => false)) (.fetched [textRow sampleSeeded])).1) ∧
      ∀ text, .log .info [.value (.str text)] ∉ (readManifestsFromDb sampleLimits
        (jsonDumps sampleLimits sampleRepr) [] (.ok (sampleStore.client fun _ => false))
        (.fetched [textRow sampleSeeded])).1 :=
  have lacking : ∃ tag ∈ manifestAttributes, (fun _ => false : PyStr → Bool) tag = false :=
    ⟨_, List.mem_cons_self _ _, rfl⟩
  ⟨lacking, sampleStore_consistent, sampleSeeded_delivered,
    readManifestsFromDb_consistent_denied [] lacking sampleStore_consistent sampleSeeded_delivered⟩

end Reading

end S4Manifests
