import S4Manifests.Python.Value

/-!
What a run of either script shows outside itself: the records it logs or prints, the requests it sends
to the S4 object store, and the answers the store can give to them.
-/

namespace S4Manifests

inductive Level where
  | info
  | error
  deriving DecidableEq, Repr

inductive LogPart where
  | text (s : String)
  | value (v : PyVal)
  | exception (e : PyException)

structure PutObjectRequest where
  bucket : PyStr
  key : PyStr
  body : List UInt8
  metadata : PyDict PyStr

inductive Event where
  | log (level : Level) (parts : List LogPart)
  | print (parts : List LogPart)
  | getObject (bucket key : PyStr)
  | putObject (request : PutObjectRequest)

def logInfo (text : String) : Event := .log .info [.text text]

structure S3Client where
  getObject : PyStr → PyStr → Except PyException (List UInt8)
  putObject : PutObjectRequest → Option PyException

def getObjectCalls : List Event → List (PyStr × PyStr)
  | [] => []
  | .getObject bucket key :: rest => (bucket, key) :: getObjectCalls rest
  | _ :: rest => getObjectCalls rest

def putObjectCalls : List Event → List PutObjectRequest
  | [] => []
  | .putObject request :: rest => request :: putObjectCalls rest
  | _ :: rest => putObjectCalls rest

@[simp] theorem getObjectCalls_log (level : Level) (parts : List LogPart) (rest : List Event) :
    getObjectCalls (.log level parts :: rest) = getObjectCalls rest := rfl

@[simp] theorem getObjectCalls_append (first second : List Event) :
    getObjectCalls (first ++ second) = getObjectCalls first ++ getObjectCalls second := by
  induction first with
  | nil => rfl
  | cons event rest ih => cases event <;> simp [getObjectCalls, ih]

@[simp] theorem putObjectCalls_append (first second : List Event) :
    putObjectCalls (first ++ second) = putObjectCalls first ++ putObjectCalls second := by
  induction first with
  | nil => rfl
  | cons event rest ih => cases event <;> simp [putObjectCalls, ih]

end S4Manifests
