import Mathlib.Data.Nat.Digits
import S4Manifests.Python.Value

/-!
The `str` and `bytes` operations the scripts call: `startswith`, `split(sep, 1)`, `str` of an
index, and the strict UTF-8 codec behind `bytes.decode('utf-8')` and `str.encode('utf-8')`.
-/

namespace S4Manifests

def startswith (s pre : PyStr) : Bool := pre.isPrefixOf s

theorem startswith_iff {s pre : PyStr} : startswith s pre = true ↔ ∃ rest, s = pre ++ rest := by
  simp only [startswith, List.isPrefixOf_iff_prefix, List.prefix_iff_eq_append]
  exact ⟨fun found => ⟨_, found.symm⟩, fun ⟨rest, split⟩ => by simp [split]⟩

@[simp] theorem startswith_append (pre rest : PyStr) : startswith (pre ++ rest) pre = true :=
  startswith_iff.mpr ⟨rest, rfl⟩

def splitOnce (s : PyStr) (sep : PyChar) : List PyStr :=
  match s.span (· ≠ sep) with
  | (head, _ :: rest) => [head, rest]
  | (head, []) => [head]

theorem span_ne_append {α : Type} [DecidableEq α] {sep : α} {head : List α} (absent : sep ∉ head)
    (rest : List α) :
    (head ++ sep :: rest).span (· ≠ sep) = (head, sep :: rest) := by
  induction head with
  | nil => simp
  | cons c cs ih =>
    simp only [List.mem_cons, not_or] at absent
    have keep : decide (c ≠ sep) = true := decide_eq_true (Ne.symm absent.1)
    simp only [List.span_eq_take_drop, Prod.mk.injEq] at ih ⊢
    obtain ⟨taken, dropped⟩ := ih absent.2
    simp only [List.cons_append, List.takeWhile_cons, List.dropWhile_cons, keep, ↓reduceIte,
      taken, dropped, and_self]

theorem splitOnce_append {sep : PyChar} {head : PyStr} (absent : sep ∉ head) (rest : PyStr) :
    splitOnce (head ++ sep :: rest) sep = [head, rest] := by
  simp only [splitOnce, span_ne_append absent]

theorem splitOnce_cases (s : PyStr) (sep : PyChar) :
    (∃ head rest, sep ∉ head ∧ s = head ++ sep :: rest ∧ splitOnce s sep = [head, rest]) ∨
      (sep ∉ s ∧ splitOnce s sep = [s]) := by
  have whole := List.takeWhile_append_dropWhile (fun c => decide (c ≠ sep)) s
  have before : sep ∉ s.takeWhile (fun c => decide (c ≠ sep)) := fun member => by
    simpa using List.mem_takeWhile_imp member
  cases after : s.dropWhile (fun c => decide (c ≠ sep)) with
  | nil =>
    rw [after, List.append_nil] at whole
    refine .inr ⟨whole ▸ before, ?_⟩
    simp only [splitOnce, List.span_eq_take_drop, after, whole]
  | cons c rest =>
    have first : c = sep := by
      have stops := List.head?_dropWhile_not (fun c => decide (c ≠ sep)) s
      rw [after] at stops
      simpa using stops
    subst first
    rw [after] at whole
    exact .inl ⟨_, rest, before, whole.symm, by simp only [splitOnce, List.span_eq_take_drop, after]⟩

def decimalStr (n : Nat) : PyStr := (Nat.toDigits 10 n).map PyChar.ofChar

def decimalValue (s : PyStr) : Nat := s.foldl (fun value c => 10 * value + (c.val - 48)) 0

theorem digitChar_value : ∀ d, d < 10 → (Nat.digitChar d).toNat - 48 = d := by decide

theorem foldl_toDigitsCore : ∀ (fuel n : Nat) (acc : List Char), n < fuel →
    (Nat.toDigitsCore 10 fuel n acc).foldl (fun value c => 10 * value + (c.toNat - 48)) 0 =
      acc.foldl (fun value c => 10 * value + (c.toNat - 48)) n
  | 0, n, _, bound => absurd bound (Nat.not_lt_zero n)
  | fuel + 1, n, acc, bound => by
    have last := digitChar_value (n % 10) (Nat.mod_lt n (by decide))
    simp only [Nat.toDigitsCore]
    split
    · simp only [List.foldl_cons, last]
      congr 1
      omega
    · rw [foldl_toDigitsCore fuel (n / 10) _ (by omega)]
      simp only [List.foldl_cons, last]
      congr 1
      omega

theorem decimalValue_decimalStr (n : Nat) : decimalValue (decimalStr n) = n := by
  simp only [decimalValue, decimalStr, List.foldl_map]
  exact foldl_toDigitsCore (n + 1) n [] (Nat.lt_succ_self n)

theorem decimalStr_injective : Function.Injective decimalStr := fun a b same => by
  rw [← decimalValue_decimalStr a, same, decimalValue_decimalStr]

def sequenceLength (b0 : Nat) : Nat :=
  if b0 < 0x80 then 1
  else if b0 < 0xC2 then 0
  else if b0 < 0xE0 then 2
  else if b0 < 0xF0 then 3
  else if b0 < 0xF5 then 4
  else 0

def secondLow (lead : Nat) : Nat := if lead = 0xE0 then 0xA0 else if lead = 0xF0 then 0x90 else 0x80

def secondHigh (lead : Nat) : Nat :=
  if lead = 0xED then 0x9F else if lead = 0xF4 then 0x8F else 0xBF

def isContinuation (b : UInt8) : Bool := 0x80 ≤ b.toNat && b.toNat ≤ 0xBF

def fourByteChar (b0 b1 b2 b3 : UInt8) : PyChar :=
  ⟨(b0.toNat % 0x8 * 0x40000 + b1.toNat % 0x40 * 0x1000 + b2.toNat % 0x40 * 0x40 +
    b3.toNat % 0x40) % 0x110000, Nat.mod_lt _ (by decide)⟩

def utf8DecodeFrom (pos : Nat) : List UInt8 → Except Nat PyStr
  | [] => .ok []
  | b0 :: rest =>
    match sequenceLength b0.toNat, rest with
    | 1, rest =>
      (utf8DecodeFrom (pos + 1) rest).map (⟨b0.toNat, Nat.lt_trans b0.toNat_lt_size (by decide)⟩ :: ·)
    | 2, b1 :: more =>
      if isContinuation b1 then
        (utf8DecodeFrom (pos + 2) more).map
          (⟨b0.toNat % 0x20 * 0x40 + b1.toNat % 0x40, by omega⟩ :: ·)
      else .error pos
    | 3, b1 :: b2 :: more =>
      if secondLow b0.toNat ≤ b1.toNat ∧ b1.toNat ≤ secondHigh b0.toNat ∧ isContinuation b2 then
        (utf8DecodeFrom (pos + 3) more).map
          (⟨b0.toNat % 0x10 * 0x1000 + b1.toNat % 0x40 * 0x40 + b2.toNat % 0x40, by omega⟩ :: ·)
      else .error pos
    | 4, b1 :: b2 :: b3 :: more =>
      if secondLow b0.toNat ≤ b1.toNat ∧ b1.toNat ≤ secondHigh b0.toNat ∧ isContinuation b2 ∧
          isContinuation b3 then
        (utf8DecodeFrom (pos + 4) more).map (fourByteChar b0 b1 b2 b3 :: ·)
      else .error pos
    | _, _ => .error pos

def utf8Decode (bytes : List UInt8) : Except Nat PyStr := utf8DecodeFrom 0 bytes

def utf8EncodeChar (c : Nat) : List UInt8 :=
  if c < 0x80 then [c.toUInt8]
  else if c < 0x800 then [(0xC0 + c / 0x40).toUInt8, (0x80 + c % 0x40).toUInt8]
  else if c < 0x10000 then
    [(0xE0 + c / 0x1000).toUInt8, (0x80 + c / 0x40 % 0x40).toUInt8, (0x80 + c % 0x40).toUInt8]
  else
    [(0xF0 + c / 0x40000).toUInt8, (0x80 + c / 0x1000 % 0x40).toUInt8,
      (0x80 + c / 0x40 % 0x40).toUInt8, (0x80 + c % 0x40).toUInt8]

def utf8EncodeFrom (pos : Nat) : PyStr → Except Nat (List UInt8)
  | [] => .ok []
  | c :: rest =>
    if 0xD800 ≤ c.val ∧ c.val ≤ 0xDFFF then .error pos
    else (utf8EncodeFrom (pos + 1) rest).map (utf8EncodeChar c.val ++ ·)

def utf8Encode (s : PyStr) : Except Nat (List UInt8) := utf8EncodeFrom 0 s

theorem toNat_toUInt8 {n : Nat} (small : n < 0x100) : n.toUInt8.toNat = n :=
  UInt8.toNat_ofNat_of_lt small

theorem sequenceLength_eq {b : Nat} :
    (sequenceLength b = 1 ↔ b < 0x80) ∧ (sequenceLength b = 2 ↔ 0xC2 ≤ b ∧ b < 0xE0) ∧
      (sequenceLength b = 3 ↔ 0xE0 ≤ b ∧ b < 0xF0) ∧ (sequenceLength b = 4 ↔ 0xF0 ≤ b ∧ b < 0xF5) := by
  unfold sequenceLength
  split_ifs <;> simp only [false_iff, true_iff, not_and, not_lt] <;> omega

theorem secondLow_le_iff {lead b : Nat} :
    secondLow lead ≤ b ↔ (lead = 0xE0 → 0xA0 ≤ b) ∧ (lead = 0xF0 → 0x90 ≤ b) ∧ 0x80 ≤ b := by
  unfold secondLow
  split_ifs <;> omega

theorem le_secondHigh_iff {lead b : Nat} :
    b ≤ secondHigh lead ↔ (lead = 0xED → b ≤ 0x9F) ∧ (lead = 0xF4 → b ≤ 0x8F) ∧ b ≤ 0xBF := by
  unfold secondHigh
  split_ifs <;> omega

theorem isContinuation_iff {b : UInt8} :
    isContinuation b = true ↔ 0x80 ≤ b.toNat ∧ b.toNat ≤ 0xBF := by
  simp [isContinuation]

theorem isContinuation_of_lt {n : Nat} (small : n < 0x40) : isContinuation (0x80 + n).toUInt8 := by
  simp only [isContinuation, toNat_toUInt8 (show 0x80 + n < 0x100 by omega), Bool.and_eq_true,
    decide_eq_true_eq]
  omega

theorem continuationBits (x : Nat) : (0x80 + x % 0x40) % 0x40 = x % 0x40 := by omega

theorem twoByte_bits {c : Nat} (high : c < 0x800) :
    (0xC0 + c / 0x40) % 0x20 * 0x40 + (0x80 + c % 0x40) % 0x40 = c := by
  rw [continuationBits]
  omega

theorem threeByte_bits {c : Nat} (high : c < 0x10000) :
    (0xE0 + c / 0x1000) % 0x10 * 0x1000 + (0x80 + c / 0x40 % 0x40) % 0x40 * 0x40 +
      (0x80 + c % 0x40) % 0x40 = c := by
  rw [continuationBits, continuationBits]
  omega

theorem fourByte_bits {c : Nat} (high : c < 0x110000) :
    (0xF0 + c / 0x40000) % 0x8 * 0x40000 + (0x80 + c / 0x1000 % 0x40) % 0x40 * 0x1000 +
      (0x80 + c / 0x40 % 0x40) % 0x40 * 0x40 + (0x80 + c % 0x40) % 0x40 = c := by
  rw [continuationBits, continuationBits, continuationBits]
  omega

theorem utf8DecodeFrom_encodeChar (pos : Nat) (c : PyChar) (rest : List UInt8)
    (notSurrogate : ¬ (0xD800 ≤ c.val ∧ c.val ≤ 0xDFFF)) :
    utf8DecodeFrom pos (utf8EncodeChar c.val ++ rest) =
      (utf8DecodeFrom (pos + (utf8EncodeChar c.val).length) rest).map (c :: ·) := by
  obtain ⟨c, bound⟩ := c
  simp only at notSurrogate ⊢
  unfold utf8EncodeChar
  split_ifs with one two three
  · have b0 : c.toUInt8.toNat = c := toNat_toUInt8 (by omega)
    have lead : sequenceLength c.toUInt8.toNat = 1 := by
      rw [b0]
      exact sequenceLength_eq.1.mpr one
    rw [List.singleton_append, utf8DecodeFrom.eq_2 _ _ _ lead]
    simp only [b0, List.length_singleton]
  · have b0 : (0xC0 + c / 0x40).toUInt8.toNat = 0xC0 + c / 0x40 := toNat_toUInt8 (by omega)
    have b1 : (0x80 + c % 0x40).toUInt8.toNat = 0x80 + c % 0x40 := toNat_toUInt8 (by omega)
    have lead : sequenceLength (0xC0 + c / 0x40).toUInt8.toNat = 2 := by
      rw [b0]
      exact sequenceLength_eq.2.1.mpr ⟨by omega, by omega⟩
    rw [List.cons_append, List.cons_append, List.nil_append, utf8DecodeFrom.eq_3 _ _ _ _ lead,
      if_pos (isContinuation_of_lt (by omega))]
    simp only [b0, b1, twoByte_bits two, List.length_cons, List.length_nil]
  · have b0 : (0xE0 + c / 0x1000).toUInt8.toNat = 0xE0 + c / 0x1000 := toNat_toUInt8 (by omega)
    have b1 : (0x80 + c / 0x40 % 0x40).toUInt8.toNat = 0x80 + c / 0x40 % 0x40 :=
      toNat_toUInt8 (by omega)
    have b2 : (0x80 + c % 0x40).toUInt8.toNat = 0x80 + c % 0x40 := toNat_toUInt8 (by omega)
    have lead : sequenceLength (0xE0 + c / 0x1000).toUInt8.toNat = 3 := by
      rw [b0]
      exact sequenceLength_eq.2.2.1.mpr ⟨by omega, by omega⟩
    have checked : secondLow (0xE0 + c / 0x1000).toUInt8.toNat ≤ (0x80 + c / 0x40 % 0x40).toUInt8.toNat ∧
        (0x80 + c / 0x40 % 0x40).toUInt8.toNat ≤ secondHigh (0xE0 + c / 0x1000).toUInt8.toNat ∧
        isContinuation (0x80 + c % 0x40).toUInt8 = true := by
      rw [b0, b1]
      exact ⟨secondLow_le_iff.mpr ⟨by omega, by omega, by omega⟩,
        le_secondHigh_iff.mpr ⟨by omega, by omega, by omega⟩, isContinuation_of_lt (by omega)⟩
    rw [List.cons_append, List.cons_append, List.cons_append, List.nil_append,
      utf8DecodeFrom.eq_4 _ _ _ _ _ lead, if_pos checked]
    simp only [b0, b1, b2, threeByte_bits three, List.length_cons, List.length_nil]
  · have b0 : (0xF0 + c / 0x40000).toUInt8.toNat = 0xF0 + c / 0x40000 := toNat_toUInt8 (by omega)
    have b1 : (0x80 + c / 0x1000 % 0x40).toUInt8.toNat = 0x80 + c / 0x1000 % 0x40 :=
      toNat_toUInt8 (by omega)
    have b2 : (0x80 + c / 0x40 % 0x40).toUInt8.toNat = 0x80 + c / 0x40 % 0x40 :=
      toNat_toUInt8 (by omega)
    have b3 : (0x80 + c % 0x40).toUInt8.toNat = 0x80 + c % 0x40 := toNat_toUInt8 (by omega)
    have lead : sequenceLength (0xF0 + c / 0x40000).toUInt8.toNat = 4 := by
      rw [b0]
      exact sequenceLength_eq.2.2.2.mpr ⟨by omega, by omega⟩
    have checked :
        secondLow (0xF0 + c / 0x40000).toUInt8.toNat ≤ (0x80 + c / 0x1000 % 0x40).toUInt8.toNat ∧
        (0x80 + c / 0x1000 % 0x40).toUInt8.toNat ≤ secondHigh (0xF0 + c / 0x40000).toUInt8.toNat ∧
        isContinuation (0x80 + c / 0x40 % 0x40).toUInt8 = true ∧
        isContinuation (0x80 + c % 0x40).toUInt8 = true := by
      rw [b0, b1]
      exact ⟨secondLow_le_iff.mpr ⟨by omega, by omega, by omega⟩,
        le_secondHigh_iff.mpr ⟨by omega, by omega, by omega⟩, isContinuation_of_lt (by omega),
        isContinuation_of_lt (by omega)⟩
    rw [List.cons_append, List.cons_append, List.cons_append, List.cons_append, List.nil_append,
      utf8DecodeFrom.eq_5 _ _ _ _ _ _ lead, if_pos checked]
    have value : fourByteChar (0xF0 + c / 0x40000).toUInt8 (0x80 + c / 0x1000 % 0x40).toUInt8
        (0x80 + c / 0x40 % 0x40).toUInt8 (0x80 + c % 0x40).toUInt8 = ⟨c, bound⟩ := by
      simp only [fourByteChar, b0, b1, b2, b3, fourByte_bits bound, Fin.mk.injEq]
      exact Nat.mod_eq_of_lt bound
    simp only [value, List.length_cons, List.length_nil]

theorem utf8DecodeFrom_utf8EncodeFrom (s : PyStr) (pos start : Nat) (bytes : List UInt8)
    (encoded : utf8EncodeFrom pos s = .ok bytes) : utf8DecodeFrom start bytes = .ok s := by
  induction s generalizing pos start bytes with
  | nil =>
    cases encoded
    rfl
  | cons c rest ih =>
    simp only [utf8EncodeFrom] at encoded
    split_ifs at encoded with surrogate
    cases restEncoded : utf8EncodeFrom (pos + 1) rest with
    | error e => simp [restEncoded, Except.map] at encoded
    | ok restBytes =>
      simp only [restEncoded, Except.map, Except.ok.injEq] at encoded
      subst encoded
      rw [utf8DecodeFrom_encodeChar _ _ _ surrogate, ih _ _ _ restEncoded]
      rfl

theorem utf8Decode_utf8Encode {s : PyStr} {bytes : List UInt8} (encoded : utf8Encode s = .ok bytes) :
    utf8Decode bytes = .ok s :=
  utf8DecodeFrom_utf8EncodeFrom s 0 0 bytes encoded

example : utf8Decode [0x61, 0xC3, 0xA9, 0xE2, 0x82, 0xAC, 0xF0, 0x9F, 0x98, 0x80] = .ok (pyStr "aé€😀") :=
  utf8Decode_utf8Encode rfl

theorem toUInt8_eq {n : Nat} {b : UInt8} (same : n = b.toNat) : n.toUInt8 = b :=
  UInt8.toNat.inj (by rw [toNat_toUInt8 (same ▸ b.toNat_lt_size)]; exact same)

theorem utf8EncodeChar_one {b0 : UInt8} (ascii : b0.toNat < 0x80) : utf8EncodeChar b0.toNat = [b0] := by
  rw [utf8EncodeChar, if_pos ascii, toUInt8_eq rfl]

theorem utf8EncodeChar_two {b0 b1 : UInt8} (lead : 0xC2 ≤ b0.toNat ∧ b0.toNat < 0xE0)
    (second : 0x80 ≤ b1.toNat ∧ b1.toNat ≤ 0xBF) :
    utf8EncodeChar (b0.toNat % 0x20 * 0x40 + b1.toNat % 0x40) = [b0, b1] := by
  rw [utf8EncodeChar, if_neg (by omega), if_pos (by omega), toUInt8_eq (b := b0) (by omega),
    toUInt8_eq (b := b1) (by omega)]

theorem utf8EncodeChar_digits3 {x0 x1 x2 : Nat} (x1Small : x1 < 0x40) (x2Small : x2 < 0x40)
    (large : 0x800 ≤ x0 * 0x1000 + x1 * 0x40 + x2) (high : x0 < 0x10) :
    utf8EncodeChar (x0 * 0x1000 + x1 * 0x40 + x2) =
      [(0xE0 + x0).toUInt8, (0x80 + x1).toUInt8, (0x80 + x2).toUInt8] := by
  have digits : (x0 * 0x1000 + x1 * 0x40 + x2) / 0x1000 = x0 ∧
      (x0 * 0x1000 + x1 * 0x40 + x2) / 0x40 % 0x40 = x1 ∧ (x0 * 0x1000 + x1 * 0x40 + x2) % 0x40 = x2 := by
    omega
  rw [utf8EncodeChar, if_neg (Nat.not_lt.mpr (le_trans (by decide) large)),
    if_neg (Nat.not_lt.mpr large), if_pos (by omega), digits.1, digits.2.1, digits.2.2]

theorem utf8EncodeChar_digits4 {x0 x1 x2 x3 : Nat} (x1Small : x1 < 0x40) (x2Small : x2 < 0x40)
    (x3Small : x3 < 0x40) (large : 0x10000 ≤ x0 * 0x40000 + x1 * 0x1000 + x2 * 0x40 + x3) :
    utf8EncodeChar (x0 * 0x40000 + x1 * 0x1000 + x2 * 0x40 + x3) =
      [(0xF0 + x0).toUInt8, (0x80 + x1).toUInt8, (0x80 + x2).toUInt8, (0x80 + x3).toUInt8] := by
  have digits : (x0 * 0x40000 + x1 * 0x1000 + x2 * 0x40 + x3) / 0x40000 = x0 ∧
      (x0 * 0x40000 + x1 * 0x1000 + x2 * 0x40 + x3) / 0x1000 % 0x40 = x1 ∧
      (x0 * 0x40000 + x1 * 0x1000 + x2 * 0x40 + x3) / 0x40 % 0x40 = x2 ∧
      (x0 * 0x40000 + x1 * 0x1000 + x2 * 0x40 + x3) % 0x40 = x3 := by
    omega
  rw [utf8EncodeChar, if_neg (Nat.not_lt.mpr (le_trans (by decide) large)),
    if_neg (Nat.not_lt.mpr (le_trans (by decide) large)), if_neg (Nat.not_lt.mpr large), digits.1,
    digits.2.1, digits.2.2.1, digits.2.2.2]

theorem utf8EncodeChar_three {b0 b1 b2 : UInt8} (lead : 0xE0 ≤ b0.toNat ∧ b0.toNat < 0xF0)
    (second : secondLow b0.toNat ≤ b1.toNat ∧ b1.toNat ≤ secondHigh b0.toNat)
    (third : 0x80 ≤ b2.toNat ∧ b2.toNat ≤ 0xBF) :
    utf8EncodeChar (b0.toNat % 0x10 * 0x1000 + b1.toNat % 0x40 * 0x40 + b2.toNat % 0x40) =
      [b0, b1, b2] := by
  have low := (secondLow_le_iff.mp second.1).2.2
  have high := (le_secondHigh_iff.mp second.2).2.2
  have bytes : (0xE0 + b0.toNat % 0x10).toUInt8 = b0 ∧ (0x80 + b1.toNat % 0x40).toUInt8 = b1 ∧
      (0x80 + b2.toNat % 0x40).toUInt8 = b2 :=
    ⟨toUInt8_eq (by omega), toUInt8_eq (by omega), toUInt8_eq (by omega)⟩
  have large : 0x800 ≤ b0.toNat % 0x10 * 0x1000 + b1.toNat % 0x40 * 0x40 + b2.toNat % 0x40 := by
    have afterE0 := (secondLow_le_iff.mp second.1).1
    omega
  rw [utf8EncodeChar_digits3 (Nat.mod_lt _ (by decide)) (Nat.mod_lt _ (by decide)) large
    (Nat.mod_lt _ (by decide)), bytes.1, bytes.2.1, bytes.2.2]

theorem fourByteChar_val {b0 b1 : UInt8} (b2 b3 : UInt8) (lead : 0xF0 ≤ b0.toNat ∧ b0.toNat < 0xF5)
    (second : secondLow b0.toNat ≤ b1.toNat ∧ b1.toNat ≤ secondHigh b0.toNat) :
    (fourByteChar b0 b1 b2 b3).val = b0.toNat % 0x8 * 0x40000 + b1.toNat % 0x40 * 0x1000 +
      b2.toNat % 0x40 * 0x40 + b3.toNat % 0x40 ∧ 0x10000 ≤ (fourByteChar b0 b1 b2 b3).val := by
  have afterF0 := (secondLow_le_iff.mp second.1).2.1
  have afterF4 := (le_secondHigh_iff.mp second.2).2.1
  have low := (secondLow_le_iff.mp second.1).2.2
  have high := (le_secondHigh_iff.mp second.2).2.2
  have small : b0.toNat % 0x8 * 0x40000 + b1.toNat % 0x40 * 0x1000 + b2.toNat % 0x40 * 0x40 +
      b3.toNat % 0x40 < 0x110000 := by omega
  rw [fourByteChar, Fin.val_mk, Nat.mod_eq_of_lt small]
  omega

theorem utf8EncodeChar_four {b0 b1 b2 b3 : UInt8} (lead : 0xF0 ≤ b0.toNat ∧ b0.toNat < 0xF5)
    (second : secondLow b0.toNat ≤ b1.toNat ∧ b1.toNat ≤ secondHigh b0.toNat)
    (third : 0x80 ≤ b2.toNat ∧ b2.toNat ≤ 0xBF) (fourth : 0x80 ≤ b3.toNat ∧ b3.toNat ≤ 0xBF) :
    utf8EncodeChar (fourByteChar b0 b1 b2 b3).val = [b0, b1, b2, b3] := by
  have low := (secondLow_le_iff.mp second.1).2.2
  have high := (le_secondHigh_iff.mp second.2).2.2
  have bytes : (0xF0 + b0.toNat % 0x8).toUInt8 = b0 ∧ (0x80 + b1.toNat % 0x40).toUInt8 = b1 ∧
      (0x80 + b2.toNat % 0x40).toUInt8 = b2 ∧ (0x80 + b3.toNat % 0x40).toUInt8 = b3 :=
    ⟨toUInt8_eq (by omega), toUInt8_eq (by omega), toUInt8_eq (by omega), toUInt8_eq (by omega)⟩
  obtain ⟨value, large⟩ := fourByteChar_val b2 b3 lead second
  rw [value] at large ⊢
  rw [utf8EncodeChar_digits4 (Nat.mod_lt _ (by decide)) (Nat.mod_lt _ (by decide))
    (Nat.mod_lt _ (by decide)) large, bytes.1, bytes.2.1, bytes.2.2.1, bytes.2.2.2]

theorem utf8EncodeFrom_cons {start : Nat} {c : PyChar} {t : PyStr} {bytes : List UInt8}
    (notSurrogate : ¬ (0xD800 ≤ c.val ∧ c.val ≤ 0xDFFF)) (rest : utf8EncodeFrom (start + 1) t = .ok bytes) :
    utf8EncodeFrom start (c :: t) = .ok (utf8EncodeChar c.val ++ bytes) := by
  rw [utf8EncodeFrom, if_neg notSurrogate, rest]
  rfl

theorem utf8EncodeFrom_utf8DecodeFrom (pos : Nat) (bytes : List UInt8) (start : Nat) (s : PyStr)
    (decoded : utf8DecodeFrom pos bytes = .ok s) : utf8EncodeFrom start s = .ok bytes := by
  induction pos, bytes using utf8DecodeFrom.induct generalizing start s with
  | case1 pos =>
    cases decoded
    rfl
  | case2 pos b0 rest lead ih =>
    rw [utf8DecodeFrom.eq_2 _ _ _ lead] at decoded
    obtain ⟨t, restDecoded, rfl⟩ := Except.map_eq_ok decoded
    have ascii := sequenceLength_eq.1.mp lead
    rw [utf8EncodeFrom_cons (by dsimp only; omega) (ih _ _ restDecoded), utf8EncodeChar_one ascii]
    rfl
  | case3 pos b0 b1 more lead second ih =>
    rw [utf8DecodeFrom.eq_3 _ _ _ _ lead, if_pos second] at decoded
    obtain ⟨t, restDecoded, rfl⟩ := Except.map_eq_ok decoded
    have range := sequenceLength_eq.2.1.mp lead
    rw [utf8EncodeFrom_cons (by dsimp only; omega) (ih _ _ restDecoded),
      utf8EncodeChar_two range (isContinuation_iff.mp second)]
    rfl
  | case4 pos b0 b1 more lead notSecond =>
    rw [utf8DecodeFrom.eq_3 _ _ _ _ lead, if_neg notSecond] at decoded
    cases decoded
  | case5 pos b0 b1 b2 more lead checked ih =>
    rw [utf8DecodeFrom.eq_4 _ _ _ _ _ lead, if_pos checked] at decoded
    obtain ⟨t, restDecoded, rfl⟩ := Except.map_eq_ok decoded
    have range := sequenceLength_eq.2.2.1.mp lead
    have notSurrogate := (le_secondHigh_iff.mp checked.2.1).1
    have low := (secondLow_le_iff.mp checked.1).2.2
    rw [utf8EncodeFrom_cons (by dsimp only; omega) (ih _ _ restDecoded),
      utf8EncodeChar_three range ⟨checked.1, checked.2.1⟩ (isContinuation_iff.mp checked.2.2)]
    rfl
  | case6 pos b0 b1 b2 more lead notChecked =>
    rw [utf8DecodeFrom.eq_4 _ _ _ _ _ lead, if_neg notChecked] at decoded
    cases decoded
  | case7 pos b0 b1 b2 b3 more lead checked ih =>
    rw [utf8DecodeFrom.eq_5 _ _ _ _ _ _ lead, if_pos checked] at decoded
    obtain ⟨t, restDecoded, rfl⟩ := Except.map_eq_ok decoded
    have range := sequenceLength_eq.2.2.2.mp lead
    have large := (fourByteChar_val b2 b3 range ⟨checked.1, checked.2.1⟩).2
    rw [utf8EncodeFrom_cons (by omega) (ih _ _ restDecoded), utf8EncodeChar_four range
      ⟨checked.1, checked.2.1⟩ (isContinuation_iff.mp checked.2.2.1) (isContinuation_iff.mp checked.2.2.2)]
    rfl
  | case8 pos b0 b1 b2 b3 more lead notChecked =>
    rw [utf8DecodeFrom.eq_5 _ _ _ _ _ _ lead, if_neg notChecked] at decoded
    cases decoded
  | case9 pos b0 rest notOne notTwo notThree notFour =>
    rw [utf8DecodeFrom.eq_6 _ _ _ notOne notTwo notThree notFour] at decoded
    cases decoded

/-- `bytes.decode('utf-8')` accepts exactly what `str.encode('utf-8')` writes. -/
theorem utf8Decode_eq_ok_iff (bytes : List UInt8) (s : PyStr) :
    utf8Decode bytes = .ok s ↔ utf8Encode s = .ok bytes :=
  ⟨utf8EncodeFrom_utf8DecodeFrom 0 bytes 0 s, utf8Decode_utf8Encode⟩

end S4Manifests
