import S4Manifests.Python.Text

/-!
`base64.b64encode`, with which both scripts write the `Authorization` header of their token
request, and RFC 4648 §4's decoding, with which the token endpoint reads that header back.
-/

namespace S4Manifests

def base64Char (v : Nat) : UInt8 :=
  if v < 26 then (65 + v).toUInt8
  else if v < 52 then (97 + (v - 26)).toUInt8
  else if v < 62 then (48 + (v - 52)).toUInt8
  else if v = 62 then 43
  else 47

def base64Pad : UInt8 := 61

def b64encode : List UInt8 → List UInt8
  | [] => []
  | [a] => [base64Char (a.toNat / 4), base64Char (a.toNat % 4 * 16), base64Pad, base64Pad]
  | [a, b] =>
    [base64Char (a.toNat / 4), base64Char (a.toNat % 4 * 16 + b.toNat / 16),
      base64Char (b.toNat % 16 * 4), base64Pad]
  | a :: b :: c :: rest =>
    [base64Char (a.toNat / 4), base64Char (a.toNat % 4 * 16 + b.toNat / 16),
      base64Char (b.toNat % 16 * 4 + c.toNat / 64), base64Char (c.toNat % 64)] ++ b64encode rest

def base64Value (c : UInt8) : Option Nat :=
  if 65 ≤ c.toNat ∧ c.toNat ≤ 90 then some (c.toNat - 65)
  else if 97 ≤ c.toNat ∧ c.toNat ≤ 122 then some (c.toNat - 97 + 26)
  else if 48 ≤ c.toNat ∧ c.toNat ≤ 57 then some (c.toNat - 48 + 52)
  else if c = 43 then some 62
  else if c = 47 then some 63
  else none

def b64decode : List UInt8 → Option (List UInt8)
  | [] => some []
  | a :: b :: c :: d :: rest => do
    let x ← base64Value a
    let y ← base64Value b
    if c = base64Pad then
      if d = base64Pad ∧ rest = [] then some [(x * 4 + y / 16).toUInt8] else none
    else
      let z ← base64Value c
      if d = base64Pad then
        if rest = [] then some [(x * 4 + y / 16).toUInt8, (y % 16 * 16 + z / 4).toUInt8]
        else none
      else
        let w ← base64Value d
        ([(x * 4 + y / 16).toUInt8, (y % 16 * 16 + z / 4).toUInt8, (z % 4 * 64 + w).toUInt8] ++ ·) <$>
          b64decode rest
  | _ => none

theorem base64Value_base64Char : ∀ v < 64, base64Value (base64Char v) = some v := by decide

theorem base64Char_ne_pad : ∀ v < 64, base64Char v ≠ base64Pad := by decide

theorem base64Char_lt : ∀ v < 64, (base64Char v).toNat < 0x80 := by decide

/-- Decoding undoes `b64encode`, on every byte string. -/
theorem b64decode_b64encode (bytes : List UInt8) : b64decode (b64encode bytes) = some bytes := by
  induction bytes using b64encode.induct with
  | case1 => rfl
  | case2 a =>
    have small : a.toNat < 256 := a.toNat_lt_size
    simp (disch := omega) only [b64encode, b64decode, base64Value_base64Char, ↓reduceIte, and_self,
      Option.bind_eq_bind, Option.some_bind, Option.some.injEq, List.cons.injEq, and_true]
    exact toUInt8_eq (by omega)
  | case3 a b =>
    have small : a.toNat < 256 := a.toNat_lt_size
    have small' : b.toNat < 256 := b.toNat_lt_size
    simp (disch := omega) only [b64encode, b64decode, base64Value_base64Char, base64Char_ne_pad,
      ↓reduceIte, and_self, not_false_eq_true, Option.bind_eq_bind, Option.some_bind,
      Option.some.injEq, List.cons.injEq, and_true]
    exact ⟨toUInt8_eq (by omega), toUInt8_eq (by omega)⟩
  | case4 a b c rest ih =>
    have small : a.toNat < 256 := a.toNat_lt_size
    have small1 : b.toNat < 256 := b.toNat_lt_size
    have small2 : c.toNat < 256 := c.toNat_lt_size
    simp (disch := omega) only [b64encode, b64decode, List.cons_append, List.nil_append, List.append_eq,
      base64Value_base64Char, base64Char_ne_pad, ↓reduceIte, not_false_eq_true, Option.bind_eq_bind,
      Option.some_bind, ih, Option.map_eq_map, Option.map_some', Option.some.injEq, List.cons.injEq,
      and_true]
    exact ⟨toUInt8_eq (by omega), toUInt8_eq (by omega), toUInt8_eq (by omega)⟩

def byteChar (b : UInt8) : PyChar := ⟨b.toNat, Nat.lt_trans b.toNat_lt_size (by decide)⟩

@[simp] theorem byteChar_val (b : UInt8) : (byteChar b).val = b.toNat := rfl

theorem utf8DecodeFrom_ascii (pos : Nat) {bytes : List UInt8} (ascii : ∀ b ∈ bytes, b.toNat < 0x80) :
    utf8DecodeFrom pos bytes = .ok (bytes.map byteChar) := by
  induction bytes generalizing pos with
  | nil => rfl
  | cons b rest ih =>
    rw [List.forall_mem_cons] at ascii
    rw [utf8DecodeFrom, ih (pos + 1) ascii.2]
    · rfl
    · exact if_pos ascii.1

theorem base64Pad_lt : base64Pad.toNat < 0x80 := by decide

theorem b64encode_ascii (bytes : List UInt8) : ∀ b ∈ b64encode bytes, b.toNat < 0x80 := by
  induction bytes using b64encode.induct with
  | case1 => exact fun _ => False.elim ∘ List.not_mem_nil _
  | case2 a =>
    have small : a.toNat < 256 := a.toNat_lt_size
    simp (disch := omega) only [b64encode, List.forall_mem_cons, base64Char_lt, base64Pad_lt,
      List.not_mem_nil, false_implies, implies_true, and_self]
  | case3 a b =>
    have small : a.toNat < 256 := a.toNat_lt_size
    have small' : b.toNat < 256 := b.toNat_lt_size
    simp (disch := omega) only [b64encode, List.forall_mem_cons, base64Char_lt, base64Pad_lt,
      List.not_mem_nil, false_implies, implies_true, and_self]
  | case4 a b c rest ih =>
    have small : a.toNat < 256 := a.toNat_lt_size
    have small1 : b.toNat < 256 := b.toNat_lt_size
    have small2 : c.toNat < 256 := c.toNat_lt_size
    simp (disch := omega) only [b64encode, List.cons_append, List.nil_append, List.append_eq,
      List.forall_mem_cons, base64Char_lt, true_and]
    exact ih

theorem utf8Decode_b64encode (bytes : List UInt8) :
    utf8Decode (b64encode bytes) = .ok ((b64encode bytes).map byteChar) :=
  utf8DecodeFrom_ascii 0 (b64encode_ascii bytes)

end S4Manifests
