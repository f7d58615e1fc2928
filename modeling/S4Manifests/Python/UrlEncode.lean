import S4Manifests.Python.Text

/-!
How requests writes the `data` dict of a `POST` as an `application/x-www-form-urlencoded` body
(`urllib.parse.urlencode` with `quote_plus`), and how the URL Standard (§5.1) reads such a body
back, which is how the token endpoint reads the password grant.
-/

namespace S4Manifests

def alwaysSafe (b : UInt8) : Bool :=
  (65 ≤ b.toNat && b.toNat ≤ 90) || (97 ≤ b.toNat && b.toNat ≤ 122) ||
    (48 ≤ b.toNat && b.toNat ≤ 57) || b.toNat = 95 || b.toNat = 46 || b.toNat = 45 ||
    b.toNat = 126

def hexUpper (n : Nat) : UInt8 := if n < 10 then (48 + n).toUInt8 else (55 + n).toUInt8

def quotePlusByte (b : UInt8) : List UInt8 :=
  if alwaysSafe b then [b]
  else if b = 32 then [43]
  else [37, hexUpper (b.toNat / 16), hexUpper (b.toNat % 16)]

def quotePlus (bytes : List UInt8) : List UInt8 := bytes.flatMap quotePlusByte

def urlencodeField (pair : List UInt8 × List UInt8) : List UInt8 :=
  quotePlus pair.1 ++ 61 :: quotePlus pair.2

def urlencode (pairs : List (List UInt8 × List UInt8)) : List UInt8 :=
  [38].intercalate (pairs.map urlencodeField)

def encodePair (pair : PyStr × PyStr) : Except PyException (List UInt8 × List UInt8) := do
  let key ← (utf8Encode pair.1).mapError PyException.unicodeEncodeError
  let value ← (utf8Encode pair.2).mapError PyException.unicodeEncodeError
  pure (key, value)

def encodeParams (data : List (PyStr × PyStr)) : Except PyException (List UInt8) :=
  (data.mapM encodePair).map urlencode

def hexDigitValue (b : UInt8) : Option Nat :=
  if 48 ≤ b.toNat ∧ b.toNat ≤ 57 then some (b.toNat - 48)
  else if 65 ≤ b.toNat ∧ b.toNat ≤ 70 then some (b.toNat - 55)
  else if 97 ≤ b.toNat ∧ b.toNat ≤ 102 then some (b.toNat - 87)
  else none

def percentDecode : List UInt8 → List UInt8
  | b :: h :: l :: more =>
    match b == 37, hexDigitValue h, hexDigitValue l with
    | true, some x, some y => (x * 16 + y).toUInt8 :: percentDecode more
    | _, _, _ => b :: percentDecode (h :: l :: more)
  | bytes => bytes
termination_by structural bytes => bytes

def plusToSpace (b : UInt8) : UInt8 := if b = 43 then 32 else b

def formComponent (bytes : List UInt8) : Option PyStr :=
  (utf8Decode (percentDecode (bytes.map plusToSpace))).toOption

def formField (field : List UInt8) : Option (PyStr × PyStr) :=
  match field.span (· ≠ 61) with
  | (name, _ :: value) => do pure (← formComponent name, ← formComponent value)
  | (name, []) => do pure (← formComponent name, [])

def formFields (body : List UInt8) : Option (List (PyStr × PyStr)) :=
  ((body.splitOn 38).filter (· ≠ [])).mapM formField

theorem hexDigitValue_hexUpper : ∀ n < 16, hexDigitValue (hexUpper n) = some n := by decide

theorem hexUpper_plain : ∀ n < 16, (hexUpper n).toNat ∉ [37, 38, 43, 61] := by decide

theorem quotePlusByte_cases (b : UInt8) :
    (alwaysSafe b ∧ quotePlusByte b = [b] ∧ b.toNat ∉ [37, 38, 43, 61]) ∨
      (b = 32 ∧ quotePlusByte b = [43]) ∨
      quotePlusByte b = [37, hexUpper (b.toNat / 16), hexUpper (b.toNat % 16)] := by
  unfold quotePlusByte
  split_ifs with safe space
  · refine .inl ⟨safe, rfl, ?_⟩
    simp only [alwaysSafe, Bool.or_eq_true, Bool.and_eq_true, decide_eq_true_eq] at safe
    simp only [List.mem_cons, List.mem_singleton, List.not_mem_nil, or_false]
    omega
  · exact .inr (.inl ⟨space, rfl⟩)
  · exact .inr (.inr rfl)

theorem percentDecode_cons {b : UInt8} (plain : b ≠ 37) (rest : List UInt8) :
    percentDecode (b :: rest) = b :: percentDecode rest := by
  have notPercent : (b == 37) = false := beq_false_of_ne plain
  match rest with
  | [] | [_] => rfl
  | _ :: _ :: _ => rw [percentDecode, notPercent]

theorem percentDecode_quotePlusByte (b : UInt8) (rest : List UInt8) :
    percentDecode ((quotePlusByte b).map plusToSpace ++ rest) = b :: percentDecode rest := by
  have small : b.toNat < 256 := b.toNat_lt_size
  rcases quotePlusByte_cases b with ⟨-, quoted, plain⟩ | ⟨rfl, quoted⟩ | quoted <;> rw [quoted]
  · have notPlus : b ≠ 43 := by rintro rfl; exact plain (by decide)
    have notPercent : b ≠ 37 := by rintro rfl; exact plain (by decide)
    rw [List.map_singleton, plusToSpace, if_neg notPlus]
    exact percentDecode_cons notPercent rest
  · exact percentDecode_cons (by decide) rest
  · have high := hexUpper_plain (b.toNat / 16) (by omega)
    have low := hexUpper_plain (b.toNat % 16) (by omega)
    have kept : ∀ {n}, (hexUpper n).toNat ∉ [37, 38, 43, 61] → plusToSpace (hexUpper n) = hexUpper n :=
      fun plain => if_neg fun same => plain (by rw [same]; decide)
    simp only [List.map_cons, List.map_nil, kept high, kept low, List.cons_append, List.nil_append]
    rw [plusToSpace, if_neg (by decide), percentDecode, hexDigitValue_hexUpper _ (by omega),
      hexDigitValue_hexUpper _ (by omega)]
    exact congrArg (· :: percentDecode rest) (toUInt8_eq (by omega))

theorem percentDecode_quotePlus (bytes rest : List UInt8) :
    percentDecode ((quotePlus bytes).map plusToSpace ++ rest) = bytes ++ percentDecode rest := by
  induction bytes with
  | nil => rfl
  | cons b more ih =>
    rw [quotePlus, List.flatMap_cons, List.map_append, List.append_assoc,
      percentDecode_quotePlusByte, ← quotePlus, ih, List.cons_append]

theorem formComponent_quotePlus {s : PyStr} {bytes : List UInt8} (encoded : utf8Encode s = .ok bytes) :
    formComponent (quotePlus bytes) = some s := by
  have read := percentDecode_quotePlus bytes []
  rw [show percentDecode [] = [] from rfl, List.append_nil, List.append_nil] at read
  rw [formComponent, read, utf8Decode_utf8Encode encoded]
  rfl

theorem quotePlus_separators {bytes : List UInt8} {x : UInt8} (member : x ∈ quotePlus bytes) :
    x.toNat ≠ 38 ∧ x.toNat ≠ 61 := by
  obtain ⟨b, -, written⟩ := List.mem_flatMap.mp member
  have small : b.toNat < 256 := b.toNat_lt_size
  rcases quotePlusByte_cases b with ⟨-, quoted, plain⟩ | ⟨-, quoted⟩ | quoted <;> rw [quoted] at written
  · rw [List.mem_singleton.mp written]
    simp only [List.mem_cons, List.not_mem_nil, or_false] at plain
    omega
  · rw [List.mem_singleton.mp written]
    decide
  · have high := hexUpper_plain (b.toNat / 16) (by omega)
    have low := hexUpper_plain (b.toNat % 16) (by omega)
    simp only [List.mem_cons, List.not_mem_nil, or_false] at written high low
    rcases written with rfl | rfl | rfl
    · decide
    · omega
    · omega

theorem encodePair_eq_ok {pair : PyStr × PyStr} {encoded : List UInt8 × List UInt8}
    (made : encodePair pair = .ok encoded) :
    utf8Encode pair.1 = .ok encoded.1 ∧ utf8Encode pair.2 = .ok encoded.2 := by
  rcases key : utf8Encode pair.1 with _ | key <;> rcases value : utf8Encode pair.2 with _ | value <;>
    rw [encodePair, key, value] at made <;> cases made
  exact ⟨rfl, rfl⟩

theorem formField_urlencodeField {pair : PyStr × PyStr} {encoded : List UInt8 × List UInt8}
    (made : encodePair pair = .ok encoded) : formField (urlencodeField encoded) = some pair := by
  obtain ⟨key, value⟩ := encodePair_eq_ok made
  have absent : (61 : UInt8) ∉ quotePlus encoded.1 := fun member => (quotePlus_separators member).2 rfl
  rw [formField, urlencodeField, span_ne_append absent]
  simp only [formComponent_quotePlus key, formComponent_quotePlus value, Option.bind_eq_bind,
    Option.some_bind]
  rfl

theorem mapM_formField {data : List (PyStr × PyStr)} {pairs : List (List UInt8 × List UInt8)}
    (made : data.mapM encodePair = .ok pairs) : (pairs.map urlencodeField).mapM formField = some data := by
  induction data generalizing pairs with
  | nil => cases made; rfl
  | cons pair rest ih =>
    rw [List.mapM_cons] at made
    obtain ⟨encoded, first, more⟩ := Except.bind_eq_ok.mp made
    obtain ⟨encodedRest, later, same⟩ := Except.bind_eq_ok.mp more
    cases same
    rw [List.map_cons, List.mapM_cons, formField_urlencodeField first, ih later]
    rfl

/-- The token endpoint reads back, in order, every item requests encoded into the body. -/
theorem formFields_encodeParams {data : List (PyStr × PyStr)} {body : List UInt8}
    (encoded : encodeParams data = .ok body) : formFields body = some data := by
  obtain ⟨pairs, made, rfl⟩ := Except.map_eq_ok encoded
  cases data with
  | nil => cases made; rfl
  | cons pair rest =>
    have split := made
    rw [List.mapM_cons] at split
    obtain ⟨first, -, more⟩ := Except.bind_eq_ok.mp split
    obtain ⟨others, -, same⟩ := Except.bind_eq_ok.mp more
    cases same
    have noAmpersand : ∀ field ∈ (first :: others).map urlencodeField, (38 : UInt8) ∉ field := by
      intro field listed member
      obtain ⟨⟨k, v⟩, -, rfl⟩ := List.mem_map.mp listed
      rcases List.mem_append.mp member with inKey | inValue
      · exact (quotePlus_separators inKey).1 rfl
      · rcases List.mem_cons.mp inValue with same | inValue
        · cases same
        · exact (quotePlus_separators inValue).1 rfl
    have nonempty : ∀ field ∈ (first :: others).map urlencodeField, decide (field ≠ []) = true := by
      intro field listed
      obtain ⟨⟨k, v⟩, -, rfl⟩ := List.mem_map.mp listed
      simp [urlencodeField]
    rw [formFields, urlencode, List.splitOn_intercalate _ 38 noAmpersand (by simp),
      List.filter_eq_self.mpr nonempty]
    exact mapM_formField made

end S4Manifests
