import S4Manifests.Json.Scanner
import S4Manifests.Trace

/-!
`read_s4.py`'s `query_tdf_objects`: the rows of the query (`DbOutcome`) become record dicts,
their `metadata` and `search` columns parsed (`convertRow`), inside one `try` that logs any
exception as a database error and returns the records built so far.
-/

namespace S4Manifests

structure Row where
  id : PyVal
  ts : PyVal
  srcType : PyVal
  metadata : PyVal
  search : PyVal

inductive DbOutcome where
  | connectFailed (e : PyException)
  | cursorFailed (e : PyException)
  | queryFailed (e : PyException)
  | fetched (rows : List Row)

def jsonLoadsValue (limits : JsonLimits) : PyVal → Except PyException PyVal
  | .str s => (jsonLoads limits s).mapError LoadsError.toPy
  | other => .error (.typeError ("the JSON object must be str, bytes or bytearray, not " ++
      other.typeName))

def loadColumn (limits : JsonLimits) (value : PyVal) : Except PyException PyVal :=
  match value with
  | .dict _ => .ok value
  | other => jsonLoadsValue limits other

def convertRow (limits : JsonLimits) (row : Row) : Except PyException Row := do
  let metadata ← loadColumn limits row.metadata
  let search ← loadColumn limits row.search
  return { row with metadata, search }

def convertRows (limits : JsonLimits) : List Row → List Row × Option PyException
  | [] => ([], none)
  | row :: rest =>
    match convertRow limits row with
    | .error e => ([], some e)
    | .ok record =>
      let later := convertRows limits rest
      (record :: later.1, later.2)

def databaseError (e : PyException) : Event := .log .error [.text "Database error: ", .exception e]

def queryTdfObjects (limits : JsonLimits) : DbOutcome → List Event × Except PyException (List Row)
  | .connectFailed e => ([databaseError e], .ok [])
  | .cursorFailed e => ([databaseError e], .error (.unboundLocalError "cursor"))
  | .queryFailed e => ([databaseError e], .ok [])
  | .fetched rows =>
    match convertRows limits rows with
    | (records, none) =>
      ([.log .info [.text "Found ", .value (.int records.length), .text " records with manifest URIs"]],
        .ok records)
    | (records, some e) => ([databaseError e], .ok records)

theorem getObjectCalls_queryTdfObjects (limits : JsonLimits) (db : DbOutcome) :
    getObjectCalls (queryTdfObjects limits db).1 = [] := by
  cases db with
  | fetched rows =>
    simp only [queryTdfObjects]
    split <;> rfl
  | _ => rfl

theorem queryTdfObjects_fetched (limits : JsonLimits) (rows : List Row) :
    (queryTdfObjects limits (.fetched rows)).2 = .ok (convertRows limits rows).1 ∧
      ∀ e, (convertRows limits rows).2 = some e →
        (queryTdfObjects limits (.fetched rows)).1 = [databaseError e] := by
  rcases built : convertRows limits rows with ⟨records, _ | e⟩ <;> simp [queryTdfObjects, built]

def LoadableColumn (limits : JsonLimits) (value : PyVal) : Prop :=
  (∃ entries, value = .dict entries) ∨ ∃ s loaded, value = .str s ∧ jsonLoads limits s = .ok loaded

theorem loadColumn_ok_iff (limits : JsonLimits) (value : PyVal) :
    (∃ loaded, loadColumn limits value = .ok loaded) ↔ LoadableColumn limits value := by
  unfold LoadableColumn
  cases value with
  | dict entries => simp [loadColumn]
  | str s =>
    simp only [loadColumn, jsonLoadsValue, reduceCtorEq, exists_false, PyVal.str.injEq,
      exists_and_left, exists_eq_left', false_or]
    cases jsonLoads limits s <;> simp [Except.mapError]
  | _ => simp [loadColumn, jsonLoadsValue]

theorem convertRow_ok_iff (limits : JsonLimits) (row record : Row) :
    convertRow limits row = .ok record ↔
      loadColumn limits row.metadata = .ok record.metadata ∧
      loadColumn limits row.search = .ok record.search ∧
      record.id = row.id ∧ record.ts = row.ts ∧ record.srcType = row.srcType := by
  unfold convertRow
  cases loadedMetadata : loadColumn limits row.metadata with
  | error e => simp [bind, Except.bind]
  | ok metadata =>
    cases loadedSearch : loadColumn limits row.search with
    | error e => simp [bind, Except.bind]
    | ok search =>
      simp only [bind, Except.bind, pure, Except.pure, Except.ok.injEq]
      constructor
      · rintro rfl
        exact ⟨rfl, rfl, rfl, rfl, rfl⟩
      · obtain ⟨id, ts, srcType, metadata', search'⟩ := record
        rintro ⟨rfl, rfl, rfl, rfl, rfl⟩
        rfl

theorem convertRow_fails_iff (limits : JsonLimits) (row : Row) :
    (∃ e, convertRow limits row = .error e) ↔
      ¬ (LoadableColumn limits row.metadata ∧ LoadableColumn limits row.search) := by
  rw [← loadColumn_ok_iff, ← loadColumn_ok_iff]
  unfold convertRow
  cases loadColumn limits row.metadata <;> cases loadColumn limits row.search <;>
    simp [bind, Except.bind, pure, Except.pure]

/-- The loop keeps the records of the rows before the first that fails to convert. -/
theorem convertRows_prefix (limits : JsonLimits) (rows : List Row) :
    ∃ before after records, rows = before ++ after ∧
      List.Forall₂ (fun row record => convertRow limits row = .ok record) before records ∧
      (convertRows limits rows).1 = records ∧
      match after with
      | [] => (convertRows limits rows).2 = none
      | row :: _ => ∃ e, convertRow limits row = .error e ∧ (convertRows limits rows).2 = some e := by
  induction rows with
  | nil => exact ⟨[], [], [], rfl, .nil, rfl, rfl⟩
  | cons row rest ih =>
    cases converted : convertRow limits row with
    | error e => exact ⟨[], row :: rest, [], rfl, .nil, by simp [convertRows, converted], e,
        converted, by simp [convertRows, converted]⟩
    | ok record =>
      obtain ⟨before, after, records, split, kept, built, stopped⟩ := ih
      refine ⟨row :: before, after, record :: records, by rw [split]; rfl, .cons converted kept,
        by simp [convertRows, converted, built], ?_⟩
      cases after with
      | nil => simpa [convertRows, converted] using stopped
      | cons failing later =>
        obtain ⟨e, failed, reported⟩ := stopped
        exact ⟨e, failed, by simpa [convertRows, converted] using reported⟩

end S4Manifests
