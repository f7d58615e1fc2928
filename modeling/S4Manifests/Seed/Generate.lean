import S4Manifests.Json.Ascii
import S4Manifests.Seed.Records

/-!
`seed_data.py`'s `generate_tdf_records`: `generateRecord` is one pass of its loop and
`generateLoop` the loop. What `uuid4`, `random`, `Faker` and `generate_military_manifest` return
for a pass is its input (`RecordDraw`), and `json.dumps` is the encoder of `Json.Encoder`.
-/

namespace S4Manifests

def classifications : List PyStr :=
  [pyStr "unclassified", pyStr "confidential", pyStr "secret", pyStr "topsecret"]

def clsType (i : Nat) : PyStr :=
  classifications.get ⟨i % classifications.length, Nat.mod_lt _ (by decide)⟩

def classificationAttr (clsType : PyStr) : PyStr :=
  pyStr "https://demo.com/attr/classification/value/" ++ clsType

def asciiUpper (s : PyStr) : PyStr :=
  s.map fun c => if 0x61 ≤ c.val ∧ c.val ≤ 0x7A then ⟨c.val - 0x20, by omega⟩ else c

def fixedSrcType : PyStr := pyStr "vehicles"

structure Platform where
  designation : PyStr
  name : PyStr
  type : PyStr
  service : PyStr

structure RecordDraw where
  randomId : PyStr
  platform : Platform
  originCity : PyStr
  destinationCode : PyStr
  manifest : PyVal
  callsign : PyStr
  speed : Nat
  flightLevel : Nat
  heading : Nat
  ts : PyVal
  geo : PyStr
  createdAt : PyVal

def vehicleData (draw : RecordDraw) : PyVal :=
  .dict [(pyStr "vehicleName", .str (draw.platform.designation ++ pyStr " " ++ draw.platform.name)),
    (pyStr "origin", .str (draw.originCity ++ pyStr " " ++
      if draw.platform.service = pyStr "USAF" then pyStr "AFB" else pyStr "NAS")),
    (pyStr "destination", .str (pyStr "AO-" ++ draw.destinationCode)),
    (pyStr "aircraft_type",
      .str (draw.platform.designation ++ pyStr " (" ++ draw.platform.type ++ pyStr ")"))]

def searchData (classificationAttr : PyStr) : PyVal :=
  .dict [(pyStr "attrRelTo", .list []), (pyStr "attrNeedToKnow", .list []),
    (pyStr "attrClassification", .list [.str classificationAttr])]

def manifestUriValue : Option PyStr → PyVal
  | some uri => .str uri
  | none => .none

def metadataData (draw : RecordDraw) (manifestUri : Option PyStr) : PyVal :=
  .dict [(pyStr "callsign", .str draw.callsign),
    (pyStr "speed", .str (decimalStr draw.speed ++ pyStr " kts")),
    (pyStr "altitude", .str (pyStr "FL" ++ decimalStr draw.flightLevel)),
    (pyStr "heading", .str (decimalStr draw.heading)),
    (pyStr "manifest", manifestUriValue manifestUri)]

def encryptData (createNanoTdf : List UInt8 → List PyStr → Except PyException (List UInt8))
    (plaintext : PyStr) (attributes : List PyStr) : Except PyException (List UInt8) :=
  match utf8Encode plaintext with
  | .error start => .error (.unicodeEncodeError start)
  | .ok bytes => createNanoTdf bytes attributes

def uploadReport (count i : Nat) (designation clsType : PyStr) : Except PyException PyStr → Event
  | .ok _ => .print [.text "  [", .value (.int (i + 1)), .text "/", .value (.int count),
      .text "] ", .value (.str designation), .text " | ", .value (.str (asciiUpper clsType)),
      .text " + NTK/BBB"]
  | .error e => .print [.text "  [", .value (.int (i + 1)), .text "/", .value (.int count),
      .text "] Manifest upload FAILED: ", .exception e]

structure SeedRecord where
  id : PyStr
  ts : PyVal
  srcType : PyStr
  geo : PyStr
  search : PyStr
  metadata : PyStr
  tdfBlob : List UInt8
  tdfUri : PyVal
  createdAt : PyVal
  createdBy : PyStr

theorem metadataData_reloads {maxStrDigits : Nat} {floatRepr : PyFloat → PyStr} {draw : RecordDraw}
    {ref : Option PyStr} (callsign : Ascii draw.callsign) (reference : ∀ uri, ref = some uri → Ascii uri) :
    (metadataData draw ref).reloads maxStrDigits floatRepr = true := by
  have speed := unpaired_of_ascii
    (ascii_append.mpr ⟨decimalStr_ascii draw.speed, ascii_pyStr (s := " kts") (by decide)⟩)
  have altitude := unpaired_of_ascii
    (ascii_append.mpr ⟨ascii_pyStr (s := "FL") (by decide), decimalStr_ascii draw.flightLevel⟩)
  have heading := unpaired_of_ascii (decimalStr_ascii draw.heading)
  have manifest : (manifestUriValue ref).reloads maxStrDigits floatRepr = true := by
    cases ref with
    | none => rfl
    | some uri => exact unpaired_of_ascii (reference uri rfl)
  simp only [metadataData, PyVal.reloads, membersReload, unpaired_of_ascii callsign, speed, altitude,
    heading, manifest, Bool.and_eq_true, List.map_cons, List.map_nil, decide_eq_true_eq, and_true,
    true_and]
  decide

theorem metadataData_keys (draw : RecordDraw) (ref : Option PyStr) (entries : List (PyStr × PyVal))
    (same : metadataData draw ref = .dict entries) : (entries.map Prod.fst).Nodup := by
  cases same
  simp only [List.map_cons, List.map_nil]
  decide

theorem dictGet_metadataData (draw : RecordDraw) (ref : Option PyStr) (entries : List (PyStr × PyVal))
    (same : metadataData draw ref = .dict entries) :
    dictGet entries (pyStr "manifest") .none = manifestUriValue ref := by
  cases same
  simp [dictGet, List.lookup_cons, pyStr, PyChar.ofChar]

theorem classificationAttr_ascii (i : Nat) : Ascii (classificationAttr (clsType i)) := by
  have each : ∀ cls ∈ classifications, Ascii cls := by
    simp only [classifications, List.mem_cons, List.mem_nil_iff, or_false, forall_eq_or_imp, forall_eq]
    exact ⟨ascii_pyStr (by decide), ascii_pyStr (by decide), ascii_pyStr (by decide),
      ascii_pyStr (by decide)⟩
  exact ascii_append.mpr ⟨ascii_pyStr (by decide), each _ (List.get_mem _ _ _)⟩

theorem searchData_reloads (maxStrDigits : Nat) (floatRepr : PyFloat → PyStr) (i : Nat) :
    (searchData (classificationAttr (clsType i))).reloads maxStrDigits floatRepr = true := by
  simp only [searchData, PyVal.reloads, membersReload, itemsReload,
    unpaired_of_ascii (classificationAttr_ascii i), Bool.and_eq_true, List.map_cons, List.map_nil,
    decide_eq_true_eq, and_true, true_and]
  decide

def manifestUploads (draws : Nat → RecordDraw) (indices : List Nat) : List (PyStr × PyVal) :=
  indices.map fun i => ((draws i).randomId, (draws i).manifest)

section Generator

variable (limits : JsonLimits) (floatRepr : PyFloat → PyStr)
  (createNanoTdf : List UInt8 → List PyStr → Except PyException (List UInt8)) (kcUser : PyStr)

def generateRecord (client : S3Client) (count i : Nat) (draw : RecordDraw) (store : ObjectStore) :
    List Event × ObjectStore × Except PyException SeedRecord :=
  let attr := classificationAttr (clsType i)
  match (jsonDumps limits floatRepr (vehicleData draw)).bind (encryptData createNanoTdf · [attr]) with
  | .error e => ([], store, .error e)
  | .ok tdfBlob =>
    match jsonDumps limits floatRepr (searchData attr) with
    | .error e => ([], store, .error e)
    | .ok searchJsonb =>
      let uploaded := uploadToS4 (jsonDumps limits floatRepr) client
        (manifestKey draw.randomId) draw.manifest manifestAttributes
      let printed := uploaded.1 ++ [uploadReport count i draw.platform.designation (clsType i) uploaded.2]
      match jsonDumps limits floatRepr (metadataData draw uploaded.2.toOption) with
      | .error e => (printed, store.apply client uploaded.1, .error e)
      | .ok metadataJsonb =>
        (printed, store.apply client uploaded.1, .ok
          { id := draw.randomId, ts := draw.ts, srcType := fixedSrcType, geo := draw.geo,
            search := searchJsonb, metadata := metadataJsonb, tdfBlob, tdfUri := .none,
            createdAt := draw.createdAt, createdBy := kcUser })

def generateLoop (client : S3Client) (count : Nat) (draws : Nat → RecordDraw) :
    ObjectStore → List Nat → List Event × ObjectStore × Except PyException (List SeedRecord)
  | store, [] => ([], store, .ok [])
  | store, i :: rest =>
    match generateRecord limits floatRepr createNanoTdf kcUser client count i (draws i) store with
    | (events, stored, .error e) => (events, stored, .error e)
    | (events, stored, .ok record) =>
      let later := generateLoop client count draws stored rest
      (events ++ later.1, later.2.1, later.2.2.map (record :: ·))

def generateTdfRecords (count : Nat) (draws : Nat → RecordDraw)
    (clientInit : List Event × Except PyException S3Client) (store : ObjectStore) :
    List Event × ObjectStore × Except PyException (List SeedRecord) :=
  let opening := Event.print [.text "Initializing S4 S3 client..."]
  match clientInit with
  | (printed, .error e) =>
    (opening :: printed ++ [.print [.text "Failed to initialize S4 client: ", .exception e]], store, .ok [])
  | (printed, .ok client) =>
    let run := generateLoop limits floatRepr createNanoTdf kcUser client count draws store (List.range count)
    (opening :: printed ++ [.print [.text "S4 S3 client initialized successfully."],
      .print [.text "Generating ", .value (.int count), .text " records with IC/Military manifests..."]] ++
        run.1, run.2.1, run.2.2)

theorem jsonDumps_vehicleData (nested : 1 ≤ limits.recursionLimit) (draw : RecordDraw) :
    ∃ text, jsonDumps limits floatRepr (vehicleData draw) = .ok text ∧ Ascii text := by
  obtain ⟨depth, deep⟩ : ∃ depth, limits.recursionLimit = depth + 1 :=
    ⟨_, (Nat.sub_add_cancel nested).symm⟩
  rw [jsonDumps, deep, vehicleData, listencodeObj,
    listencodeMembers_cons_ok (by rw [listencodeObj]) (listencodeMembers_cons_ok (by rw [listencodeObj])
      (listencodeMembers_cons_ok (by rw [listencodeObj]) (listencodeMembers_cons_ok (by rw [listencodeObj])
        (by rw [listencodeMembers]))))]
  refine ⟨_, rfl, ?_⟩
  simp (disch := decide) only [ascii_append, encodeBasestringAscii_ascii, ascii_pyStr, Except.map,
    if_true, if_false, Bool.false_eq_true, ascii_nil, and_true]

theorem jsonDumps_searchData (nested : 2 ≤ limits.recursionLimit) (attr : PyStr) :
    ∃ text, jsonDumps limits floatRepr (searchData attr) = .ok text := by
  obtain ⟨depth, deep⟩ : ∃ depth, limits.recursionLimit = depth + 1 + 1 :=
    ⟨_, (Nat.sub_add_cancel nested).symm⟩
  have empty : listencodeObj limits.maxStrDigits floatRepr (depth + 1) (.list []) = .ok (pyStr "[]") := by
    rw [listencodeObj]
  obtain ⟨_, single⟩ : ∃ text,
      listencodeObj limits.maxStrDigits floatRepr (depth + 1) (.list [.str attr]) = .ok text := by
    rw [listencodeObj, listencodeItems_cons_ok (by rw [listencodeObj]) (by rw [listencodeItems])]
    exact ⟨_, rfl⟩
  rw [jsonDumps, deep, searchData, listencodeObj, listencodeMembers_cons_ok empty
    (listencodeMembers_cons_ok empty (listencodeMembers_cons_ok single (by rw [listencodeMembers])))]
  exact ⟨_, rfl⟩

theorem jsonDumps_metadataData (nested : 1 ≤ limits.recursionLimit) (draw : RecordDraw)
    (ref : Option PyStr) : ∃ text, jsonDumps limits floatRepr (metadataData draw ref) = .ok text := by
  obtain ⟨depth, deep⟩ : ∃ depth, limits.recursionLimit = depth + 1 :=
    ⟨_, (Nat.sub_add_cancel nested).symm⟩
  have manifest : ∃ text, listencodeObj limits.maxStrDigits floatRepr depth (manifestUriValue ref) =
      .ok text := by
    cases ref <;> exact ⟨_, by rw [manifestUriValue, listencodeObj]⟩
  obtain ⟨_, manifest⟩ := manifest
  unfold metadataData
  rw [jsonDumps, deep, listencodeObj,
    listencodeMembers_cons_ok (by rw [listencodeObj]) (listencodeMembers_cons_ok (by rw [listencodeObj])
      (listencodeMembers_cons_ok (by rw [listencodeObj]) (listencodeMembers_cons_ok (by rw [listencodeObj])
        (listencodeMembers_cons_ok manifest (by rw [listencodeMembers])))))]
  exact ⟨_, rfl⟩

theorem generateRecord_cases (nested : 2 ≤ limits.recursionLimit) (client : S3Client) (count i : Nat)
    (draw : RecordDraw) (store : ObjectStore) :
    (∃ record, (generateRecord limits floatRepr createNanoTdf kcUser client count i draw store).2.2 =
        .ok record) ∨
      ∃ plaintext e, jsonDumps limits floatRepr (vehicleData draw) = .ok plaintext ∧
        createNanoTdf (plaintext.map fun c => c.val.toUInt8) [classificationAttr (clsType i)] = .error e ∧
        (generateRecord limits floatRepr createNanoTdf kcUser client count i draw store).2.2 = .error e := by
  obtain ⟨plaintext, dumped, ascii⟩ := jsonDumps_vehicleData limits floatRepr (by omega) draw
  have encrypted : (jsonDumps limits floatRepr (vehicleData draw)).bind
      (encryptData createNanoTdf · [classificationAttr (clsType i)]) =
        createNanoTdf (plaintext.map fun c => c.val.toUInt8) [classificationAttr (clsType i)] := by
    rw [dumped]
    simp only [Except.bind, encryptData, utf8Encode, utf8EncodeFrom_ascii 0 ascii]
  obtain ⟨searchJsonb, searched⟩ := jsonDumps_searchData limits floatRepr nested (classificationAttr (clsType i))
  unfold generateRecord
  dsimp only
  rw [encrypted]
  cases created : createNanoTdf (plaintext.map fun c => c.val.toUInt8) [classificationAttr (clsType i)] with
  | error e => exact .inr ⟨plaintext, e, dumped, created, rfl⟩
  | ok tdfBlob =>
    obtain ⟨_, described⟩ := jsonDumps_metadataData limits floatRepr (by omega) draw
      (uploadToS4 (jsonDumps limits floatRepr) client (manifestKey draw.randomId) draw.manifest
        manifestAttributes).2.toOption
    rw [searched]
    dsimp only
    rw [described]
    exact .inl ⟨_, rfl⟩

theorem generateLoop_raises_only_from_encryption (nested : 2 ≤ limits.recursionLimit)
    (client : S3Client) (count : Nat) (draws : Nat → RecordDraw) (store : ObjectStore)
    (indices : List Nat) :
    (∃ records, (generateLoop limits floatRepr createNanoTdf kcUser client count draws store
        indices).2.2 = .ok records ∧ records.length = indices.length) ∨
      ∃ i ∈ indices, ∃ plaintext e, jsonDumps limits floatRepr (vehicleData (draws i)) = .ok plaintext ∧
        createNanoTdf (plaintext.map fun c => c.val.toUInt8) [classificationAttr (clsType i)] = .error e ∧
        (generateLoop limits floatRepr createNanoTdf kcUser client count draws store indices).2.2 =
          .error e := by
  induction indices generalizing store with
  | nil => exact .inl ⟨[], rfl, rfl⟩
  | cons i rest ih =>
    have cases := generateRecord_cases limits floatRepr createNanoTdf kcUser nested client count i
      (draws i) store
    rcases passed : generateRecord limits floatRepr createNanoTdf kcUser client count i (draws i) store with
      ⟨events, stored, _ | record⟩ <;> rw [passed] at cases <;> dsimp only at cases <;>
      simp only [generateLoop, passed]
    · rcases cases with ⟨_, raised⟩ | ⟨plaintext, e, dumped, created, raised⟩
      · cases raised
      · exact .inr ⟨i, List.mem_cons_self _ _, plaintext, e, dumped, created,
          congrArg Except.error (Except.error.inj raised)⟩
    · rcases ih stored with ⟨later, laterOk, length⟩ | ⟨j, member, plaintext, e, dumped, created, raised⟩
      · exact .inl ⟨record :: later, by rw [laterOk]; rfl, by simp [length]⟩
      · exact .inr ⟨j, List.mem_cons_of_mem _ member, plaintext, e, dumped, created, by rw [raised]; rfl⟩

/-- `generate_tdf_records` raises only what `sdk.create_nano_tdf` raises. -/
theorem generateTdfRecords_raises_only_from_encryption (nested : 2 ≤ limits.recursionLimit)
    (count : Nat) (draws : Nat → RecordDraw) (clientInit : List Event × Except PyException S3Client)
    (store : ObjectStore) :
    (∃ e, clientInit.2 = .error e ∧
        (generateTdfRecords limits floatRepr createNanoTdf kcUser count draws clientInit store).2.2 = .ok []) ∨
      (∃ records, (generateTdfRecords limits floatRepr createNanoTdf kcUser count draws clientInit
        store).2.2 = .ok records ∧ records.length = count) ∨
      ∃ i < count, ∃ plaintext e, jsonDumps limits floatRepr (vehicleData (draws i)) = .ok plaintext ∧
        createNanoTdf (plaintext.map fun c => c.val.toUInt8) [classificationAttr (clsType i)] = .error e ∧
        (generateTdfRecords limits floatRepr createNanoTdf kcUser count draws clientInit store).2.2 =
          .error e := by
  obtain ⟨printed, _ | client⟩ := clientInit
  · exact .inl ⟨_, rfl, rfl⟩
  · rcases generateLoop_raises_only_from_encryption limits floatRepr createNanoTdf kcUser nested client
      count draws store (List.range count) with ⟨records, generated, length⟩ | ⟨i, member, stopped⟩
    · exact .inr (.inl ⟨records, generated, by simpa using length⟩)
    · exact .inr (.inr ⟨i, List.mem_range.mp member, stopped⟩)

def SeededRecord (draws : Nat → RecordDraw) (i : Nat) (ref : Option PyStr) (record : SeedRecord) :
    Prop :=
  record.id = (draws i).randomId ∧ record.ts = (draws i).ts ∧ record.srcType = fixedSrcType ∧
    jsonDumps limits floatRepr (searchData (classificationAttr (clsType i))) = .ok record.search ∧
    jsonDumps limits floatRepr (metadataData (draws i) ref) = .ok record.metadata

theorem generateRecord_stores (client : S3Client) (count i : Nat) (draws : Nat → RecordDraw)
    (store : ObjectStore) :
    ((generateRecord limits floatRepr createNanoTdf kcUser client count i (draws i) store).2.1 = store ∧
        ∃ e, (generateRecord limits floatRepr createNanoTdf kcUser client count i (draws i)
          store).2.2 = .error e) ∨
      ((generateRecord limits floatRepr createNanoTdf kcUser client count i (draws i) store).2.1 =
          store.apply client (uploadToS4 (jsonDumps limits floatRepr) client
            (manifestKey (draws i).randomId) (draws i).manifest manifestAttributes).1 ∧
        ∀ record, (generateRecord limits floatRepr createNanoTdf kcUser client count i (draws i)
          store).2.2 = .ok record → SeededRecord limits floatRepr draws i
            (uploadToS4 (jsonDumps limits floatRepr) client (manifestKey (draws i).randomId)
              (draws i).manifest manifestAttributes).2.toOption record) := by
  unfold generateRecord
  dsimp only
  split
  · exact .inl ⟨rfl, _, rfl⟩
  · split
    · exact .inl ⟨rfl, _, rfl⟩
    · rename_i searched
      split
      · exact .inr ⟨rfl, fun _ raised => by cases raised⟩
      · rename_i described
        exact .inr ⟨rfl, fun _ appended => by cases appended; exact ⟨rfl, rfl, rfl, searched, described⟩⟩

/-- The loop of `generate_tdf_records` refines the upload loop `uploadManifests`. -/
theorem generateLoop_refines_uploadManifests (client : S3Client) (count : Nat)
    (draws : Nat → RecordDraw) (store : ObjectStore) (indices : List Nat) :
    ∃ k ≤ indices.length,
      (generateLoop limits floatRepr createNanoTdf kcUser client count draws store indices).2.1 =
          (uploadManifests (jsonDumps limits floatRepr) client store
            (manifestUploads draws (indices.take k))).2 ∧
        ∀ records, (generateLoop limits floatRepr createNanoTdf kcUser client count draws store
          indices).2.2 = .ok records → k = indices.length ∧
            List.Forall₂ (fun (entry : Nat × Option PyStr) record =>
                SeededRecord limits floatRepr draws entry.1 entry.2 record)
              (indices.zip (uploadManifests (jsonDumps limits floatRepr) client store
                (manifestUploads draws indices)).1) records := by
  induction indices generalizing store with
  | nil => exact ⟨0, le_refl 0, rfl, fun records generated => by cases generated; exact ⟨rfl, .nil⟩⟩
  | cons i rest ih =>
    have stores := generateRecord_stores limits floatRepr createNanoTdf kcUser client count i draws store
    rcases passed : generateRecord limits floatRepr createNanoTdf kcUser client count i (draws i) store with
      ⟨events, stored, _ | record⟩ <;> rw [passed] at stores <;> simp only [generateLoop, passed]
    · rcases stores with ⟨rfl, -⟩ | ⟨rfl, -⟩
      · exact ⟨0, Nat.zero_le _, rfl, fun _ raised => by cases raised⟩
      · exact ⟨1, by simp, rfl, fun _ raised => by cases raised⟩
    · rcases stores with ⟨-, _, raised⟩ | ⟨rfl, seeded⟩
      · cases raised
      · obtain ⟨k, bound, later, appended⟩ := ih _
        refine ⟨k + 1, by simpa using bound, later, fun records generated => ?_⟩
        obtain ⟨rest, restOk, rfl⟩ := Except.map_eq_ok generated
        obtain ⟨rfl, pairs⟩ := appended rest restOk
        exact ⟨rfl, .cons (seeded record rfl) pairs⟩

theorem generateTdfRecords_uploads (count : Nat) (draws : Nat → RecordDraw)
    (clientInit : List Event × Except PyException S3Client) (store : ObjectStore) :
    ∃ client k, (generateTdfRecords limits floatRepr createNanoTdf kcUser count draws clientInit
        store).2.1 = (uploadManifests (jsonDumps limits floatRepr) client store
          (manifestUploads draws ((List.range count).take k))).2 ∧
      ∀ records, (generateTdfRecords limits floatRepr createNanoTdf kcUser count draws clientInit
          store).2.2 = .ok records → records = [] ∨ (clientInit.2 = .ok client ∧ k = count ∧
        List.Forall₂ (fun (entry : Nat × Option PyStr) record =>
            SeededRecord limits floatRepr draws entry.1 entry.2 record)
          ((List.range count).zip (uploadManifests (jsonDumps limits floatRepr) client store
            (manifestUploads draws (List.range count))).1) records) := by
  obtain ⟨printed, e | client⟩ := clientInit
  · exact ⟨(ObjectStore.mk []).client fun _ => false, 0, rfl,
      fun records generated => .inl (by cases generated; rfl)⟩
  · obtain ⟨k, -, stored, refined⟩ := generateLoop_refines_uploadManifests limits floatRepr
      createNanoTdf kcUser client count draws store (List.range count)
    refine ⟨client, k, stored, fun records generated => .inr ?_⟩
    obtain ⟨whole, pairs⟩ := refined records generated
    exact ⟨rfl, by simpa using whole, pairs⟩

end Generator

theorem generateTdfRecords_raises_only_from_encryption_single :
    2 ≤ (⟨1000, 4300⟩ : JsonLimits).recursionLimit ∧
    ((∃ e, (([], .ok ((ObjectStore.mk []).client fun _ => true)) :
          List Event × Except PyException S3Client).2 = .error e ∧
        (generateTdfRecords ⟨1000, 4300⟩ (fun _ => []) (fun bytes _ => .ok bytes) [] 1
          (fun _ => ⟨[], ⟨[], [], [], []⟩, [], [], .none, [], 0, 0, 0, .none, [], .none⟩)
          ([], .ok ((ObjectStore.mk []).client fun _ => true)) ⟨[]⟩).2.2 =
          .ok []) ∨
      (∃ records, (generateTdfRecords ⟨1000, 4300⟩ (fun _ => []) (fun bytes _ => .ok bytes) [] 1
          (fun _ => ⟨[], ⟨[], [], [], []⟩, [], [], .none, [], 0, 0, 0, .none, [], .none⟩)
          ([], .ok ((ObjectStore.mk []).client fun _ => true)) ⟨[]⟩).2.2 =
          .ok records ∧ records.length = 1) ∨
      ∃ i < 1, ∃ plaintext e, jsonDumps ⟨1000, 4300⟩ (fun _ => [])
          (vehicleData ⟨[], ⟨[], [], [], []⟩, [], [], .none, [], 0, 0, 0, .none, [], .none⟩) = .ok plaintext ∧
        (fun bytes _ => .ok bytes : List UInt8 → List PyStr → Except PyException (List UInt8))
          (plaintext.map fun c => c.val.toUInt8) [classificationAttr (clsType i)] = .error e ∧
        (generateTdfRecords ⟨1000, 4300⟩ (fun _ => []) (fun bytes _ => .ok bytes) [] 1
          (fun _ => ⟨[], ⟨[], [], [], []⟩, [], [], .none, [], 0, 0, 0, .none, [], .none⟩)
          ([], .ok ((ObjectStore.mk []).client fun _ => true)) ⟨[]⟩).2.2 =
          .error e) :=
  ⟨by decide, generateTdfRecords_raises_only_from_encryption ⟨1000, 4300⟩ (fun _ => [])
    (fun bytes _ => .ok bytes) [] (by decide) 1
    (fun _ => ⟨[], ⟨[], [], [], []⟩, [], [], .none, [], 0, 0, 0, .none, [], .none⟩)
    ([], .ok ((ObjectStore.mk []).client fun _ => true)) ⟨[]⟩⟩

end S4Manifests
