import S4Manifests.Json.Reload
import S4Manifests.Seed.Upload

/-!
`json.dumps` with its default `ensure_ascii=True` writes only ASCII: `py_encode_basestring_ascii`
turns every other character into `\u` escapes. So the `encode('utf-8')` of `upload_to_s4` never
raises, and the body it puts holds one byte per character of the JSON text.
-/

namespace S4Manifests

def Ascii (s : PyStr) : Prop := ∀ c ∈ s, c.val < 0x80

instance (s : PyStr) : Decidable (Ascii s) := inferInstanceAs (Decidable (∀ c ∈ s, c.val < 0x80))

@[simp] theorem ascii_nil : Ascii [] := fun _ member => absurd member (List.not_mem_nil _)

@[simp] theorem ascii_cons {c : PyChar} {s : PyStr} : Ascii (c :: s) ↔ c.val < 0x80 ∧ Ascii s :=
  List.forall_mem_cons

@[simp] theorem ascii_append {s t : PyStr} : Ascii (s ++ t) ↔ Ascii s ∧ Ascii t :=
  List.forall_mem_append

theorem ascii_pyStr {s : String} (ascii : ∀ c ∈ s.toList, c.toNat < 0x80) : Ascii (pyStr s) := by
  intro c member
  obtain ⟨d, found, rfl⟩ := List.mem_map.mp member
  exact ascii d found

theorem hexDigit_ascii : ∀ n < 0x10, (hexDigit n).val < 0x80 := by decide

theorem escapeUnit_ascii (unit : Nat) : Ascii (escapeUnit unit) := by
  have digit : ∀ n, (hexDigit (n % 0x10)).val < 0x80 :=
    fun n => hexDigit_ascii _ (Nat.mod_lt _ (by decide))
  simp only [escapeUnit, ascii_append, ascii_cons, ascii_nil, digit, and_true]
  exact ascii_pyStr (by decide)

theorem escapeChar_ascii (c : PyChar) : Ascii (escapeChar c) := by
  unfold escapeChar
  split
  · rename_i plain
    have printable := (sChar_iff.mp plain).1.1.2
    simp only [ascii_cons, ascii_nil, and_true]
    omega
  · unfold asciiEscapeUnichar
    split
    · rename_i code
      simp only [ascii_cons, ascii_nil, and_true, code]
      decide
    · rename_i code
      simp only [ascii_cons, ascii_nil, and_true, code]
      decide
    all_goals first
      | exact ascii_pyStr (by decide)
      | split
        · exact ascii_append.mpr ⟨escapeUnit_ascii _, escapeUnit_ascii _⟩
        · exact escapeUnit_ascii _

theorem encodeBasestringAscii_ascii (s : PyStr) : Ascii (encodeBasestringAscii s) := by
  have escaped : Ascii (s.map escapeChar).flatten := by
    intro c member
    obtain ⟨_, found, within⟩ := List.mem_flatten.mp member
    obtain ⟨d, -, rfl⟩ := List.mem_map.mp found
    exact escapeChar_ascii d c within
  simp only [encodeBasestringAscii, ascii_cons, ascii_append, ascii_nil, escaped, and_true]
  decide

theorem encodeFloat_ascii {floatRepr : PyFloat → PyStr} (floatAscii : ∀ x, Ascii (floatRepr x))
    (x : PyFloat) : Ascii (encodeFloat floatRepr x) := by
  unfold encodeFloat
  split <;> first | exact ascii_pyStr (by decide) | exact floatAscii _

theorem decimalStr_ascii (n : Nat) : Ascii (decimalStr n) := fun c member => by
  have digit := decimalStr_digits n c member
  simp only [isDigit, Bool.and_eq_true, decide_eq_true_eq] at digit
  exact Nat.lt_of_le_of_lt digit.2 (by decide)

theorem intRepr_ascii {maxStrDigits : Nat} {n : Int} {text : PyStr}
    (repr : intRepr maxStrDigits n = .ok text) : Ascii text := by
  rw [(intRepr_ok repr).1, ascii_append]
  exact ⟨by split <;> first | exact ascii_nil | exact ascii_pyStr (by decide), decimalStr_ascii _⟩

theorem unpaired_of_ascii {s : PyStr} (ascii : Ascii s) : unpaired s = true := by
  induction s with
  | nil => rfl
  | cons c rest ih =>
    rw [ascii_cons] at ascii
    cases rest with
    | nil => rfl
    | cons d more =>
      have notHigh : isHighSurrogate c = false := by
        simp only [isHighSurrogate, Bool.and_eq_false_iff, decide_eq_false_iff_not]
        omega
      rw [unpaired, notHigh, Bool.false_and, Bool.not_false, Bool.true_and, ih ascii.2]

section Encoded

variable {maxStrDigits : Nat} {floatRepr : PyFloat → PyStr}

mutual

/-- Whatever `json.dumps` writes is ASCII, when `float.__repr__` is. -/
theorem listencodeObj_ascii (floatAscii : ∀ x, Ascii (floatRepr x)) :
    ∀ (depth : Nat) (v : PyVal) {text : PyStr},
      listencodeObj maxStrDigits floatRepr depth v = .ok text → Ascii text
  | _, .none, _, encoded | _ + 1, .list [], _, encoded | _ + 1, .dict [], _, encoded => by
    rw [listencodeObj] at encoded
    cases encoded
    exact ascii_pyStr (by decide)
  | _, .bool _, _, encoded => by
    rw [listencodeObj] at encoded
    cases encoded
    split <;> exact ascii_pyStr (by decide)
  | _, .float x, _, encoded => by
    rw [listencodeObj] at encoded
    cases encoded
    exact encodeFloat_ascii floatAscii x
  | _, .str s, _, encoded => by
    rw [listencodeObj] at encoded
    cases encoded
    exact encodeBasestringAscii_ascii s
  | _, .int _, _, encoded => by
    rw [listencodeObj] at encoded
    exact intRepr_ascii encoded
  | 0, .list _, _, encoded | 0, .dict _, _, encoded | _, .other _, _, encoded => by
    rw [listencodeObj] at encoded
    cases encoded
  | depth + 1, .list (item :: items), _, encoded => by
    obtain ⟨body, inner, rfl⟩ := listencodeObj_list encoded
    have written := listencodeItems_ascii floatAscii depth true (item :: items) inner
    simp only [ascii_cons, ascii_append, ascii_nil, written, and_true]
    exact ⟨by decide, by decide⟩
  | depth + 1, .dict (entry :: entries), _, encoded => by
    obtain ⟨body, inner, rfl⟩ := listencodeObj_dict encoded
    have written := listencodeMembers_ascii floatAscii depth true (entry :: entries) inner
    simp only [ascii_cons, ascii_append, ascii_nil, written, and_true]
    exact ⟨by decide, by decide⟩
termination_by structural _ v => v

theorem listencodeItems_ascii (floatAscii : ∀ x, Ascii (floatRepr x)) :
    ∀ (depth : Nat) (first : Bool) (items : List PyVal) {text : PyStr},
      listencodeItems maxStrDigits floatRepr depth first items = .ok text → Ascii text
  | _, _, [], _, encoded => by
    rw [listencodeItems] at encoded
    cases encoded
    exact ascii_nil
  | depth, first, item :: items, _, encoded => by
    obtain ⟨head, tail, encodedHead, encodedTail, rfl⟩ := listencodeItems_cons encoded
    have written := listencodeObj_ascii floatAscii depth item encodedHead
    have later := listencodeItems_ascii floatAscii depth false items encodedTail
    simp only [ascii_append, written, later, and_true]
    split
    · exact ascii_nil
    · exact ascii_pyStr (by decide)
termination_by structural _ _ items => items

theorem listencodeMembers_ascii (floatAscii : ∀ x, Ascii (floatRepr x)) :
    ∀ (depth : Nat) (first : Bool) (members : List (PyStr × PyVal)) {text : PyStr},
      listencodeMembers maxStrDigits floatRepr depth first members = .ok text → Ascii text
  | _, _, [], _, encoded => by
    rw [listencodeMembers] at encoded
    cases encoded
    exact ascii_nil
  | depth, first, (key, value) :: members, _, encoded => by
    obtain ⟨head, tail, encodedHead, encodedTail, rfl⟩ := listencodeMembers_cons encoded
    have written := listencodeObj_ascii floatAscii depth value encodedHead
    have later := listencodeMembers_ascii floatAscii depth false members encodedTail
    simp only [ascii_append, written, later, encodeBasestringAscii_ascii, and_true]
    refine ⟨?_, ascii_pyStr (by decide)⟩
    split
    · exact ascii_nil
    · exact ascii_pyStr (by decide)
termination_by structural _ _ members => members

end

end Encoded

theorem utf8EncodeFrom_ascii (pos : Nat) {s : PyStr} (ascii : Ascii s) :
    utf8EncodeFrom pos s = .ok (s.map fun c => c.val.toUInt8) := by
  induction s generalizing pos with
  | nil => rfl
  | cons c rest ih =>
    rw [ascii_cons] at ascii
    rw [utf8EncodeFrom_cons (by omega) (ih (pos + 1) ascii.2), utf8EncodeChar, if_pos ascii.1]
    rfl

/-- With `json.dumps`, `upload_to_s4` puts the JSON text one byte per character. -/
theorem uploadToS4_jsonDumps (limits : JsonLimits) (floatRepr : PyFloat → PyStr)
    (floatAscii : ∀ x, Ascii (floatRepr x)) (client : S3Client) (filename : PyStr) (dataDict : PyVal)
    (attributes : List PyStr) (text : PyStr) (dumped : jsonDumps limits floatRepr dataDict = .ok text) :
    uploadToS4 (jsonDumps limits floatRepr) client filename dataDict attributes =
      ([.putObject ⟨s4Bucket, filename, text.map (fun c => c.val.toUInt8), attributeMetadata attributes⟩],
        match client.putObject ⟨s4Bucket, filename, text.map (fun c => c.val.toUInt8),
            attributeMetadata attributes⟩ with
        | some e => .error e
        | none => .ok (pyStr "s3://" ++ s4Bucket ++ pyStr "/" ++ filename)) := by
  have ascii := listencodeObj_ascii floatAscii _ _ dumped
  rw [uploadToS4, dumped]
  simp only [utf8Encode, utf8EncodeFrom_ascii 0 ascii]
  cases client.putObject ⟨s4Bucket, filename, text.map (fun c => c.val.toUInt8),
    attributeMetadata attributes⟩ <;> rfl

theorem uploadToS4_jsonDumps_nested :
    (∀ x : PyFloat, Ascii ((fun _ : PyFloat => pyStr "1.5") x)) ∧
    jsonDumps ⟨1000, 4300⟩ (fun _ => pyStr "1.5") (.dict [(pyStr "é", .list [.float (.dec false 15 (-1))])]) =
      .ok (pyStr "\x7b\"\\u00e9\": [1.5]\x7d") ∧
    uploadToS4 (jsonDumps ⟨1000, 4300⟩ (fun _ => pyStr "1.5")) ⟨fun _ _ => .error (.clientError none), fun _ => none⟩
        (pyStr "k") (.dict [(pyStr "é", .list [.float (.dec false 15 (-1))])]) [] =
      ([.putObject ⟨s4Bucket, pyStr "k",
          (pyStr "\x7b\"\\u00e9\": [1.5]\x7d").map (fun c => c.val.toUInt8), attributeMetadata []⟩],
        match (⟨fun _ _ => .error (.clientError none), fun _ => none⟩ : S3Client).putObject ⟨s4Bucket, pyStr "k",
            (pyStr "\x7b\"\\u00e9\": [1.5]\x7d").map (fun c => c.val.toUInt8), attributeMetadata []⟩ with
        | some e => .error e
        | none => .ok (pyStr "s3://" ++ s4Bucket ++ pyStr "/" ++ pyStr "k")) :=
  ⟨fun _ => ascii_pyStr (by decide), rfl,
    uploadToS4_jsonDumps ⟨1000, 4300⟩ (fun _ => pyStr "1.5") (fun _ => ascii_pyStr (by decide))
      ⟨fun _ _ => .error (.clientError none), fun _ => none⟩ (pyStr "k")
      (.dict [(pyStr "é", .list [.float (.dec false 15 (-1))])]) [] _ rfl⟩

end S4Manifests
