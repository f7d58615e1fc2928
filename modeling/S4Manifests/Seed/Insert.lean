import S4Manifests.Seed.Generate

/-!
`seed_data.py`'s `insert_seed_data` and `__main__` against the `tdf_objects` table: an optional
`DELETE_SQL`, then `execute_batch` in pages of `BATCH_SIZE`, in one transaction. `DELETE_SQL`
has no placeholder, so psycopg2 sends it as it is and the `src_type` passed with it is unused.
-/

namespace S4Manifests

def numRecords : Nat := 50

def batchSize : Nat := 5

def paginateFrom {α : Type} (pageSize : Nat) (page : List α) : List α → List (List α)
  | [] => if page.isEmpty then [] else [page]
  | x :: rest =>
    if page.length + 1 < pageSize then paginateFrom pageSize (page ++ [x]) rest
    else (page ++ [x]) :: paginateFrom pageSize [] rest

def paginate {α : Type} (pageSize : Nat) (seq : List α) : List (List α) := paginateFrom pageSize [] seq

structure DbSession where
  connect : Option PyException
  cursor : Option PyException
  execute : Nat → Option PyException
  commit : Option (PyException × Bool)
  rollback : Option PyException

def executeBatch (execute : Nat → Option PyException) (n : Nat) (pending : List SeedRecord) :
    List (List SeedRecord) → Except PyException (List SeedRecord)
  | [] => .ok pending
  | page :: pages =>
    match execute n with
    | some e => .error e
    | none => executeBatch execute (n + 1) (pending ++ page) pages

def PyException.isOperationalError : PyException → Bool
  | .operationalError _ => true
  | _ => false

def insertionHandler (rollback : Option PyException) (connected : Bool) (e : PyException) :
    List Event × Option PyException :=
  let printed :=
    if e.isOperationalError then
      [Event.print [.text "CONNECTION ERROR: Could not connect to the database."],
        .print [.text "Details: ", .exception e]]
    else [.print [.text "An error occurred during insertion: ", .exception e]]
  (printed, if connected then rollback else none)

def deleteStep (session : DbSession) (shouldDelete : Bool) (table : List SeedRecord) :
    List Event × Except PyException (Nat × List SeedRecord) :=
  if shouldDelete then
    let cleaning := Event.print [.text "Flag --delete detected. Cleaning up records for src_type: ",
      .value (.str fixedSrcType)]
    match session.execute 0 with
    | some e => ([cleaning], .error e)
    | none => ([cleaning, .print [.text "Successfully deleted ", .value (.int table.length),
        .text " records."]], .ok (1, []))
  else ([], .ok (0, table))

def transactionStatements (session : DbSession) (shouldDelete : Bool) (records table : List SeedRecord) :
    List Event × Except PyException (List SeedRecord) :=
  let deleted := deleteStep session shouldDelete table
  (deleted.1, deleted.2.bind fun (n, pending) =>
    executeBatch session.execute n pending (paginate batchSize records))

def insertTransaction (session : DbSession) (shouldDelete : Bool) (records : List SeedRecord)
    (table : List SeedRecord) : List Event × List SeedRecord × Except PyException Unit :=
  match session.connect with
  | some e => ((insertionHandler session.rollback false e).1, table, .ok ())
  | none =>
    match session.cursor with
    | some e => ((insertionHandler session.rollback true e).1, table, .error (.unboundLocalError "cursor"))
    | none =>
      let statements := transactionStatements session shouldDelete records table
      let failed (e : PyException) : List Event × Except PyException Unit :=
        let handled := insertionHandler session.rollback true e
        (statements.1 ++ handled.1, match handled.2 with
          | some raised => .error raised
          | none => .ok ())
      match statements.2 with
      | .error e => ((failed e).1, table, (failed e).2)
      | .ok pending =>
        match session.commit with
        | some (e, committed) => ((failed e).1, if committed then pending else table, (failed e).2)
        | none =>
          (statements.1 ++ [.print [.text "Successfully inserted ", .value (.int numRecords),
            .text " records into the tdf_objects table."]], pending, .ok ())

section Seeder

variable (limits : JsonLimits) (floatRepr : PyFloat → PyStr)
  (createNanoTdf : List UInt8 → List PyStr → Except PyException (List UInt8)) (kcUser : PyStr)

def insertSeedData (draws : Nat → RecordDraw) (clientInit : List Event × Except PyException S3Client)
    (store : ObjectStore) (session : DbSession) (shouldDelete : Bool) (table : List SeedRecord) :
    List Event × ObjectStore × List SeedRecord × Except PyException Unit :=
  let generated := generateTdfRecords limits floatRepr createNanoTdf kcUser numRecords draws
    clientInit store
  match generated.2.2 with
  | .error e => (generated.1, generated.2.1, table, .error e)
  | .ok records =>
    if records.isEmpty then
      (generated.1 ++ [.print [.text "No records generated. Exiting."]], generated.2.1, table, .ok ())
    else
      let attempt := Event.print [.text "Attempting to insert ", .value (.int numRecords),
        .text " records in batches of ", .value (.int batchSize), .text "..."]
      let transaction := insertTransaction session shouldDelete records table
      (generated.1 ++ attempt :: transaction.1, generated.2.1, transaction.2.1, transaction.2.2)

def seedDataMain (draws : Nat → RecordDraw) (sdkInit : Option PyException)
    (clientInit : List Event × Except PyException S3Client)
    (store : ObjectStore) (session : DbSession) (shouldDelete : Bool) (table : List SeedRecord) :
    List Event × ObjectStore × List SeedRecord :=
  let opening := Event.print [.text "Initializing TDF SDK..."]
  match sdkInit with
  | some e => ([opening, .print [.text "An error occurred: ", .exception e]], store, table)
  | none =>
    let run := insertSeedData limits floatRepr createNanoTdf kcUser draws clientInit store session
      shouldDelete table
    match run.2.2.2 with
    | .error e => (opening :: run.1 ++ [.print [.text "An error occurred: ", .exception e]], run.2.1, run.2.2.1)
    | .ok () => (opening :: run.1, run.2.1, run.2.2.1)

end Seeder

theorem paginateFrom_flatten {α : Type} (pageSize : Nat) (page seq : List α) :
    (paginateFrom pageSize page seq).flatten = page ++ seq := by
  induction seq generalizing page with
  | nil => cases page <;> simp [paginateFrom]
  | cons x rest ih =>
    unfold paginateFrom
    split <;> simp [ih]

theorem paginate_flatten {α : Type} (pageSize : Nat) (seq : List α) :
    (paginate pageSize seq).flatten = seq :=
  paginateFrom_flatten pageSize [] seq

theorem executeBatch_ok {execute : Nat → Option PyException} {n : Nat} {pending after : List SeedRecord}
    {pages : List (List SeedRecord)} (inserted : executeBatch execute n pending pages = .ok after) :
    after = pending ++ pages.flatten := by
  induction pages generalizing n pending with
  | nil => cases inserted; simp
  | cons page pages ih =>
    unfold executeBatch at inserted
    split at inserted
    · cases inserted
    · rw [ih inserted, List.flatten_cons, List.append_assoc]

theorem executeBatch_succeeds {execute : Nat → Option PyException} (executed : ∀ n, execute n = none)
    (n : Nat) (pending : List SeedRecord) (pages : List (List SeedRecord)) :
    executeBatch execute n pending pages = .ok (pending ++ pages.flatten) := by
  induction pages generalizing n pending with
  | nil => simp [executeBatch]
  | cons page pages ih => rw [executeBatch, executed, ih, List.flatten_cons, List.append_assoc]

theorem transactionStatements_ok {session : DbSession} {shouldDelete : Bool}
    {records table pending : List SeedRecord}
    (sent : (transactionStatements session shouldDelete records table).2 = .ok pending) :
    pending = (if shouldDelete then [] else table) ++ records := by
  cases shouldDelete with
  | false =>
    change executeBatch session.execute 0 table (paginate batchSize records) = .ok pending at sent
    rw [executeBatch_ok sent, paginate_flatten, if_neg Bool.false_ne_true]
  | true =>
    simp only [transactionStatements, deleteStep, if_true] at sent
    split at sent
    · cases sent
    · rw [executeBatch_ok sent, paginate_flatten, if_pos rfl]

/-- The transaction commits the table as it was or with all the records appended. -/
theorem insertTransaction_atomic (session : DbSession) (shouldDelete : Bool)
    (records table : List SeedRecord) :
    (insertTransaction session shouldDelete records table).2.1 = table ∨
      (insertTransaction session shouldDelete records table).2.1 =
        (if shouldDelete then [] else table) ++ records := by
  unfold insertTransaction
  split
  · exact .inl rfl
  · split
    · exact .inl rfl
    · dsimp only
      split
      · exact .inl rfl
      · rename_i pending sent
        rw [transactionStatements_ok sent]
        split
        · split
          · exact .inr rfl
          · exact .inl rfl
        · exact .inr rfl

/-- `--delete` empties the whole table, whatever `src_type` its rows have. -/
theorem insertTransaction_delete_clears_every_src_type (session : DbSession)
    (records table : List SeedRecord) (connected : session.connect = none)
    (opened : session.cursor = none) (executed : ∀ n, session.execute n = none)
    (committed : session.commit = none) :
    (insertTransaction session true records table).2.1 = records ∧
      Event.print [.text "Flag --delete detected. Cleaning up records for src_type: ",
        .value (.str fixedSrcType)] ∈ (insertTransaction session true records table).1 ∧
      (insertTransaction session true records table).2.2 = .ok () := by
  have sent : (transactionStatements session true records table).2 = .ok records := by
    simp only [transactionStatements, deleteStep, if_true, executed]
    exact (executeBatch_succeeds executed 1 [] _).trans (by rw [paginate_flatten, List.nil_append])
  simp only [insertTransaction, connected, opened, sent, committed]
  simp [transactionStatements, deleteStep, executed]

section Atomic

variable (limits : JsonLimits) (floatRepr : PyFloat → PyStr)
  (createNanoTdf : List UInt8 → List PyStr → Except PyException (List UInt8)) (kcUser : PyStr)

theorem insertSeedData_atomic (draws : Nat → RecordDraw) (clientInit : List Event × Except PyException S3Client)
    (store : ObjectStore) (session : DbSession) (shouldDelete : Bool) (table : List SeedRecord) :
    (insertSeedData limits floatRepr createNanoTdf kcUser draws clientInit store session shouldDelete
        table).2.2.1 = table ∨
      ∃ records, (generateTdfRecords limits floatRepr createNanoTdf kcUser numRecords draws clientInit
          store).2.2 = .ok records ∧
        (insertSeedData limits floatRepr createNanoTdf kcUser draws clientInit store session
          shouldDelete table).2.2.1 = (if shouldDelete then [] else table) ++ records := by
  unfold insertSeedData
  dsimp only
  split
  · exact .inl rfl
  · rename_i records generated
    split
    · exact .inl rfl
    · rcases insertTransaction_atomic session shouldDelete records table with kept | committed
      · exact .inl kept
      · exact .inr ⟨records, generated, committed⟩

theorem insertSeedData_store (draws : Nat → RecordDraw) (clientInit : List Event × Except PyException S3Client)
    (store : ObjectStore) (session : DbSession) (shouldDelete : Bool) (table : List SeedRecord) :
    (insertSeedData limits floatRepr createNanoTdf kcUser draws clientInit store session shouldDelete
        table).2.1 =
      (generateTdfRecords limits floatRepr createNanoTdf kcUser numRecords draws clientInit store).2.1 := by
  unfold insertSeedData
  dsimp only
  split
  · rfl
  · split <;> rfl

theorem seedDataMain_state (draws : Nat → RecordDraw) (sdkInit : Option PyException)
    (clientInit : List Event × Except PyException S3Client)
    (store : ObjectStore) (session : DbSession) (shouldDelete : Bool) (table : List SeedRecord) :
    ((seedDataMain limits floatRepr createNanoTdf kcUser draws sdkInit clientInit store session
        shouldDelete table).2.1 = store ∧
      (seedDataMain limits floatRepr createNanoTdf kcUser draws sdkInit clientInit store session
        shouldDelete table).2.2 = table) ∨
    ((seedDataMain limits floatRepr createNanoTdf kcUser draws sdkInit clientInit store session
        shouldDelete table).2.1 =
      (generateTdfRecords limits floatRepr createNanoTdf kcUser numRecords draws clientInit store).2.1 ∧
      (seedDataMain limits floatRepr createNanoTdf kcUser draws sdkInit clientInit store session
        shouldDelete table).2.2 =
      (insertSeedData limits floatRepr createNanoTdf kcUser draws clientInit store session shouldDelete
        table).2.2.1) := by
  unfold seedDataMain
  split
  · exact .inl ⟨rfl, rfl⟩
  · dsimp only
    split <;> exact .inr ⟨insertSeedData_store limits floatRepr createNanoTdf kcUser draws clientInit
      store session shouldDelete table, rfl⟩

/-- A run of `seed_data.py` commits the generated records all together or not at all. -/
theorem seedDataMain_atomic (draws : Nat → RecordDraw) (sdkInit : Option PyException)
    (clientInit : List Event × Except PyException S3Client)
    (store : ObjectStore) (session : DbSession) (shouldDelete : Bool) (table : List SeedRecord) :
    (seedDataMain limits floatRepr createNanoTdf kcUser draws sdkInit clientInit store session
        shouldDelete table).2.2 = table ∨
      ∃ records, (generateTdfRecords limits floatRepr createNanoTdf kcUser numRecords draws clientInit
          store).2.2 = .ok records ∧
        (seedDataMain limits floatRepr createNanoTdf kcUser draws sdkInit clientInit store session
          shouldDelete table).2.2 = (if shouldDelete then [] else table) ++ records := by
  unfold seedDataMain
  split
  · exact .inl rfl
  · dsimp only
    split <;> exact insertSeedData_atomic limits floatRepr createNanoTdf kcUser draws clientInit store
      session shouldDelete table

end Atomic

end S4Manifests
