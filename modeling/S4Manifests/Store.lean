import S4Manifests.Trace

/-!
The S4 object store both scripts talk to: for each bucket and key, the body and the metadata of
the last `put_object` that went through. S4 binds the metadata's attribute tags to the object
and decrypts the body only for a reader entitled to all of them; which tags a reader holds is an
input here, S4's policy engine is not modelled.
-/

namespace S4Manifests

structure StoredObject where
  body : List UInt8
  metadata : PyDict PyStr

def StoredObject.tags (object : StoredObject) : List PyStr :=
  object.metadata.entries.map Prod.snd

structure ObjectStore where
  objects : List ((PyStr × PyStr) × StoredObject)

namespace ObjectStore

def find (store : ObjectStore) (bucket key : PyStr) : Option StoredObject :=
  store.objects.lookup (bucket, key)

def put (store : ObjectStore) (request : PutObjectRequest) : ObjectStore :=
  ⟨((request.bucket, request.key), ⟨request.body, request.metadata⟩) :: store.objects⟩

def apply (store : ObjectStore) (client : S3Client) (events : List Event) : ObjectStore :=
  (putObjectCalls events).foldl
    (fun store request => if (client.putObject request).isNone then store.put request else store) store

def read (store : ObjectStore) (holds : PyStr → Bool) (bucket key : PyStr) :
    Except PyException (List UInt8) :=
  match store.find bucket key with
  | some object =>
    if object.tags.all holds then .ok object.body
    else .error (.clientError (some (pyStr "AccessDenied")))
  | none => .error (.clientError (some (pyStr "NoSuchKey")))

def client (store : ObjectStore) (holds : PyStr → Bool) : S3Client :=
  ⟨store.read holds, fun _ => none⟩

@[simp] theorem client_getObject (store : ObjectStore) (holds : PyStr → Bool) :
    (store.client holds).getObject = store.read holds := rfl

theorem find_put (store : ObjectStore) (request : PutObjectRequest) (bucket key : PyStr) :
    (store.put request).find bucket key =
      if (bucket, key) = (request.bucket, request.key) then some ⟨request.body, request.metadata⟩
      else store.find bucket key := by
  by_cases same : (bucket, key) = (request.bucket, request.key)
  · simp [find, put, List.lookup_cons, same]
  · have differs : ((bucket, key) == (request.bucket, request.key)) = false := by simpa using same
    simp only [find, put, List.lookup_cons, differs, same, if_false]

theorem apply_putObject (store : ObjectStore) (client : S3Client) (request : PutObjectRequest) :
    store.apply client [.putObject request] =
      if (client.putObject request).isNone then store.put request else store := rfl

/-- Writes under other buckets or keys leave an object as it was. -/
theorem find_apply_untouched (store : ObjectStore) (client : S3Client) (events : List Event)
    (bucket key : PyStr)
    (untouched : ∀ request ∈ putObjectCalls events, (request.bucket, request.key) ≠ (bucket, key)) :
    (store.apply client events).find bucket key = store.find bucket key := by
  unfold apply
  generalize putObjectCalls events = requests at untouched
  induction requests generalizing store with
  | nil => rfl
  | cons request rest ih =>
    rw [List.foldl_cons, ih _ fun other member => untouched other (List.mem_cons_of_mem _ member)]
    split
    · rw [find_put, if_neg fun same => untouched request (List.mem_cons_self _ _) same.symm]
    · rfl

theorem read_of_find {store : ObjectStore} {holds : PyStr → Bool} {bucket key : PyStr}
    {object : StoredObject} (found : store.find bucket key = some object)
    (entitled : object.tags.all holds = true) : store.read holds bucket key = .ok object.body := by
  simp [read, found, entitled]

theorem read_of_find_denied {store : ObjectStore} {holds : PyStr → Bool} {bucket key : PyStr}
    {object : StoredObject} (found : store.find bucket key = some object)
    (lacking : object.tags.all holds = false) :
    store.read holds bucket key = .error (.clientError (some (pyStr "AccessDenied"))) := by
  simp [read, found, lacking]

end ObjectStore

end S4Manifests
