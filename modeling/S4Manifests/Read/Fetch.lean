import S4Manifests.Json.Scanner
import S4Manifests.Trace

/-!
`read_s4.py`'s `parse_s3_uri` and `fetch_manifest_from_s4`. `getManifestObject` is the function's
`try` block (one `get_object`, a `ClientError` logged as `accessDenied` and answered with `None`)
and `loadsOrText` its inner `try` around `json.loads`.
-/

namespace S4Manifests

def slash : PyChar := PyChar.ofChar '/'

def parseS3Uri (s3Uri : PyVal) : Except PyException (Option PyStr × Option PyStr) :=
  if !s3Uri.truthy then .ok (none, none)
  else
    match s3Uri with
    | .str s =>
      if !startswith s (pyStr "s3://") then .ok (none, none)
      else
        match splitOnce (s.drop 5) slash with
        | [bucket, key] => .ok (some bucket, some key)
        | parts => .ok (parts.head?, none)
    | other => .error (.attributeError other.typeName "startswith")

def invalidS3Uri (s3Uri : PyVal) : Event := .log .error [.text "Invalid S3 URI: ", .value s3Uri]

def loadsOrText (limits : JsonLimits) (plaintext : PyStr) : Except PyException PyVal :=
  match jsonLoads limits plaintext with
  | .ok value => .ok value
  | .error (.decode _ _) => .ok (.str plaintext)
  | .error failure => .error failure.toPy

def accessDenied (s3Uri : PyVal) (code : Option PyStr) : Event :=
  .log .error [.text "❌ Access Denied or Decryption Failed for ", .value s3Uri, .text ": ",
    .value (.str (code.getD []))]

def getManifestObject (limits : JsonLimits) (client : S3Client) (s3Uri : PyVal)
    (bucket key : PyStr) : List Event × Except PyException PyVal :=
  let request := Event.getObject bucket key
  match client.getObject bucket key with
  | .error (.clientError code) => ([request, accessDenied s3Uri code], .ok .none)
  | .error e => ([request], .error e)
  | .ok body =>
    match utf8Decode body with
    | .error start => ([request], .error (.unicodeDecodeError start))
    | .ok plaintext => ([request], loadsOrText limits plaintext)

def fetchManifestFromS4 (limits : JsonLimits) (client : S3Client) (s3Uri : PyVal) :
    List Event × Except PyException PyVal :=
  match parseS3Uri s3Uri with
  | .error e => ([], .error e)
  | .ok (some bucket, some key) =>
    if bucket.isEmpty || key.isEmpty then ([invalidS3Uri s3Uri], .ok .none)
    else getManifestObject limits client s3Uri bucket key
  | .ok _ => ([invalidS3Uri s3Uri], .ok .none)

def Dispatched (u bucket key : PyStr) : Prop :=
  u = pyStr "s3://" ++ bucket ++ slash :: key ∧ bucket ≠ [] ∧ slash ∉ bucket ∧ key ≠ []

theorem parseS3Uri_scheme (path : PyStr) :
    parseS3Uri (.str (pyStr "s3://" ++ path)) =
      match splitOnce path slash with
      | [bucket, key] => .ok (some bucket, some key)
      | parts => .ok (parts.head?, none) := by
  have schemeLength : (pyStr "s3://").length = 5 := rfl
  simp only [parseS3Uri, PyVal.truthy, startswith_append, ← schemeLength, List.drop_left]
  rfl

theorem parseS3Uri_no_scheme {u : PyStr} (noScheme : startswith u (pyStr "s3://") = false) :
    parseS3Uri (.str u) = .ok (none, none) := by
  simp [parseS3Uri, noScheme]

theorem getObjectCalls_getManifestObject (limits : JsonLimits) (client : S3Client) (s3Uri : PyVal)
    (bucket key : PyStr) :
    getObjectCalls (getManifestObject limits client s3Uri bucket key).1 = [(bucket, key)] := by
  unfold getManifestObject
  split
  · rfl
  · rfl
  · split <;> rfl

theorem first_slash_unique {head rest bucket key : PyStr} (headClean : slash ∉ head)
    (bucketClean : slash ∉ bucket) (same : head ++ slash :: rest = bucket ++ slash :: key) :
    head = bucket ∧ rest = key := by
  have split := splitOnce_append headClean rest
  rw [same, splitOnce_append bucketClean] at split
  simp only [List.cons.injEq, and_true] at split
  exact ⟨split.1.symm, split.2.symm⟩

theorem fetchManifestFromS4_str (limits : JsonLimits) (client : S3Client) (u : PyStr) :
    (∃ bucket key, Dispatched u bucket key ∧
      fetchManifestFromS4 limits client (.str u) =
        getManifestObject limits client (.str u) bucket key) ∨
    ((∀ bucket key, ¬ Dispatched u bucket key) ∧
      fetchManifestFromS4 limits client (.str u) = ([invalidS3Uri (.str u)], .ok .none)) := by
  cases scheme : startswith u (pyStr "s3://") with
  | false =>
    refine .inr ⟨fun bucket key dispatched => ?_, by
      simp [fetchManifestFromS4, parseS3Uri_no_scheme scheme]⟩
    rw [dispatched.1, List.append_assoc, startswith_append] at scheme
    cases scheme
  | true =>
    obtain ⟨path, rfl⟩ := startswith_iff.mp scheme
    rcases splitOnce_cases path slash with ⟨head, rest, headClean, rfl, split⟩ | ⟨noSlash, split⟩
    · by_cases empty : head = [] ∨ rest = []
      · refine .inr ⟨fun bucket key dispatched => ?_, ?_⟩
        · obtain ⟨same, bucketFull, bucketClean, keyFull⟩ := dispatched
          rw [List.append_assoc, List.append_cancel_left_eq] at same
          obtain ⟨rfl, rfl⟩ := first_slash_unique headClean bucketClean same
          exact empty.elim bucketFull keyFull
        · have emptyBool : (head.isEmpty || rest.isEmpty) = true := by
            rcases empty with rfl | rfl <;> simp
          simp [fetchManifestFromS4, parseS3Uri_scheme, split, emptyBool]
      · simp only [not_or] at empty
        refine .inl ⟨head, rest, ⟨by simp, empty.1, headClean, empty.2⟩, ?_⟩
        simp [fetchManifestFromS4, parseS3Uri_scheme, split, List.isEmpty_iff, empty]
    · refine .inr ⟨fun bucket key dispatched => ?_, ?_⟩
      · have same := dispatched.1
        rw [List.append_assoc, List.append_cancel_left_eq] at same
        exact noSlash (by simp [same])
      · simp only [fetchManifestFromS4, parseS3Uri_scheme, split]
        split <;> simp_all

theorem Dispatched.unique {u bucket key bucket' key' : PyStr} (first : Dispatched u bucket key)
    (second : Dispatched u bucket' key') : bucket = bucket' ∧ key = key' := by
  have same := first.1.symm.trans second.1
  simp only [List.append_assoc, List.append_cancel_left_eq] at same
  exact first_slash_unique first.2.2.1 second.2.2.1 same

theorem getObjectCalls_fetchManifestFromS4_str (limits : JsonLimits) (client : S3Client)
    (u bucket key : PyStr) :
    getObjectCalls (fetchManifestFromS4 limits client (.str u)).1 = [(bucket, key)] ↔
      Dispatched u bucket key := by
  rcases fetchManifestFromS4_str limits client u with ⟨b, k, dispatched, fetched⟩ | ⟨never, fetched⟩
  · rw [fetched, getObjectCalls_getManifestObject]
    constructor
    · intro same
      simp only [List.cons.injEq, Prod.mk.injEq, and_true] at same
      rwa [← same.1, ← same.2]
    · intro asked
      obtain ⟨rfl, rfl⟩ := dispatched.unique asked
      rfl
  · rw [fetched]
    exact ⟨fun called => by simp [getObjectCalls, invalidS3Uri] at called, fun asked =>
      absurd asked (never bucket key)⟩

section Outcome

variable (limits : JsonLimits) (client : S3Client)

/-- Every reference raises in `parse_s3_uri`, is logged as invalid, or is dispatched. -/
theorem fetchManifestFromS4_cases (ref : PyVal) :
    (ref.truthy = true ∧ (∀ s, ref ≠ .str s) ∧
      fetchManifestFromS4 limits client ref = ([], .error (.attributeError ref.typeName "startswith"))) ∨
    ((ref.truthy = false ∨ ∃ u, ref = .str u) ∧
      (∀ u bucket key, ref = .str u → ¬ Dispatched u bucket key) ∧
      fetchManifestFromS4 limits client ref = ([invalidS3Uri ref], .ok .none)) ∨
    (∃ u bucket key, ref = .str u ∧ Dispatched u bucket key ∧
      fetchManifestFromS4 limits client ref = getManifestObject limits client ref bucket key) := by
  by_cases isStr : ∃ u, ref = .str u
  · obtain ⟨u, rfl⟩ := isStr
    rcases fetchManifestFromS4_str limits client u with ⟨b, k, dispatched, fetched⟩ | ⟨never, fetched⟩
    · exact .inr (.inr ⟨u, b, k, rfl, dispatched, fetched⟩)
    · exact .inr (.inl ⟨.inr ⟨u, rfl⟩, fun u' b k same => by cases same; exact never b k, fetched⟩)
  · have notStr : ∀ s, ref ≠ .str s := fun s same => isStr ⟨s, same⟩
    cases truthy : ref.truthy with
    | false =>
      exact .inr (.inl ⟨.inl rfl, fun u _ _ same => absurd same (notStr u), by
        simp [fetchManifestFromS4, parseS3Uri, truthy]⟩)
    | true =>
      refine .inl ⟨rfl, notStr, ?_⟩
      unfold fetchManifestFromS4 parseS3Uri
      simp only [truthy, Bool.not_true, Bool.false_eq_true, ↓reduceIte]

/-- What makes the `try` block of `fetch_manifest_from_s4` raise. -/
theorem getManifestObject_raises_iff (s3Uri : PyVal) (bucket key : PyStr) :
    (∃ e, (getManifestObject limits client s3Uri bucket key).2 = .error e) ↔
      (∃ e, client.getObject bucket key = .error e ∧ ∀ code, e ≠ .clientError code) ∨
      ∃ body, client.getObject bucket key = .ok body ∧
        ((∃ start, utf8Decode body = .error start) ∨
          ∃ text failure, utf8Decode body = .ok text ∧ jsonLoads limits text = .error failure ∧
            ∀ msg pos, failure ≠ .decode msg pos) := by
  unfold getManifestObject
  split
  · rename_i code answer
    simp [answer]
  · rename_i e notClient answer
    exact ⟨fun _ => .inl ⟨e, answer, notClient⟩, fun _ => ⟨e, rfl⟩⟩
  · rename_i body answer
    cases decoded : utf8Decode body with
    | error start => simp [answer, decoded]
    | ok text =>
      cases loaded : jsonLoads limits text with
      | ok value => simp [answer, decoded, loaded, loadsOrText]
      | error failure => cases failure <;> simp [answer, decoded, loaded, loadsOrText]

theorem getManifestObject_returns (s3Uri : PyVal) (bucket key : PyStr) (value : PyVal)
    (returned : (getManifestObject limits client s3Uri bucket key).2 = .ok value) :
    (∃ code, client.getObject bucket key = .error (.clientError code) ∧ value = .none) ∨
    ∃ body text, client.getObject bucket key = .ok body ∧ utf8Decode body = .ok text ∧
      (jsonLoads limits text = .ok value ∨
        (∃ msg pos, jsonLoads limits text = .error (.decode msg pos)) ∧ value = .str text) := by
  unfold getManifestObject at returned
  split at returned
  · rename_i code answer
    exact .inl ⟨code, answer, (Except.ok.inj returned).symm⟩
  · cases returned
  · rename_i body answer
    cases decoded : utf8Decode body with
    | error start => simp [decoded] at returned
    | ok text =>
      simp only [decoded, loadsOrText] at returned
      cases loaded : jsonLoads limits text with
      | ok loadedValue =>
        simp only [loaded, Except.ok.injEq] at returned
        exact .inr ⟨body, text, answer, decoded, .inl (returned ▸ loaded)⟩
      | error failure =>
        cases failure <;> simp only [loaded, Except.ok.injEq, reduceCtorEq] at returned
        exact .inr ⟨body, text, answer, decoded, .inr ⟨⟨_, _, loaded⟩, returned.symm⟩⟩

theorem fetchManifestFromS4_logs_errors (ref : PyVal) (parts : List LogPart) :
    .log .info parts ∉ (fetchManifestFromS4 limits client ref).1 := by
  rcases fetchManifestFromS4_cases limits client ref with
    ⟨-, -, fetched⟩ | ⟨-, -, fetched⟩ | ⟨u, bucket, key, -, -, fetched⟩ <;> rw [fetched]
  · simp
  · simp [invalidS3Uri]
  · unfold getManifestObject
    split
    · simp [accessDenied]
    · simp
    · split <;> simp

end Outcome

end S4Manifests
