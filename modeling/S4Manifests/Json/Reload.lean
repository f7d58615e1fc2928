import S4Manifests.Json.Encoder

/-!
`json.loads` reads back what `json.dumps` wrote: the scanner of `Json.Scanner`, run on the text
the encoder of `Json.Encoder` writes, rebuilds the value constructor by constructor.
-/

namespace S4Manifests

theorem hexValue_hexDigit : ∀ n (small : n < 0x10), hexValue (hexDigit n) = some ⟨n, small⟩ := by
  decide

def hexDigits (unit : Nat) : PyStr :=
  [hexDigit (unit / 0x1000 % 0x10), hexDigit (unit / 0x100 % 0x10), hexDigit (unit / 0x10 % 0x10),
    hexDigit (unit % 0x10)]

theorem escapeUnit_eq (unit : Nat) :
    escapeUnit unit = PyChar.ofChar '\\' :: PyChar.ofChar 'u' :: hexDigits unit := rfl

theorem hex4_hexDigits {unit : Nat} (small : unit < 0x10000) :
    hex4 (hexDigit (unit / 0x1000 % 0x10)) (hexDigit (unit / 0x100 % 0x10))
      (hexDigit (unit / 0x10 % 0x10)) (hexDigit (unit % 0x10)) = some ⟨unit, by omega⟩ := by
  simp only [hex4, hexValue_hexDigit _ (Nat.mod_lt _ (by decide : 0 < 0x10))]
  simp only [bind, Option.bind, pure, Option.some.injEq, Fin.mk.injEq]
  omega

def FollowsHigh (after : PyStr) : Prop :=
  ∀ l1 l2 l3 l4 rest, after = PyChar.ofChar '\\' :: PyChar.ofChar 'u' :: l1 :: l2 :: l3 :: l4 :: rest →
    ∃ low, hex4 l1 l2 l3 l4 = some low ∧ isLowSurrogate low = false

theorem is_iff {c : PyChar} {d : Char} : c.is d = true ↔ c = PyChar.ofChar d := by
  simp only [PyChar.is, beq_iff_eq, Fin.ext_iff]
  rfl

@[simp] theorem is_ofChar (d : Char) : (PyChar.ofChar d).is d = true := by
  simp [PyChar.is, PyChar.ofChar]

theorem unicodeEscape_unit {unit : Nat} (small : unit < 0x10000) (m : PyChar) (ms : PyStr)
    (follows : isHighSurrogate ⟨unit, by omega⟩ = true → FollowsHigh (m :: ms)) :
    unicodeEscape (hexDigits unit ++ m :: ms) = .ok (⟨unit, by omega⟩, m :: ms) := by
  rw [hexDigits, List.cons_append, List.cons_append, List.cons_append, List.cons_append,
    List.nil_append, unicodeEscape.eq_3 _ _ _ _ _ _ _ (hex4_hexDigits small)]
  split
  · rename_i high
    split
    · rename_i u l1 l2 l3 l4 t tail
      split
      · rename_i escape
        simp only [Bool.and_eq_true, is_iff] at escape
        obtain ⟨low, found, notLow⟩ := follows high l1 l2 l3 l4 (t :: tail)
          (by rw [escape.1, escape.2])
        simp only [found, notLow, Bool.false_eq_true, dite_false]
      · rfl
    · rfl
  · rfl

theorem unicodeEscape_pair {c : PyChar} (large : 0x10000 ≤ c.val) (t : PyChar) (tail : PyStr) :
    unicodeEscape (hexDigits (0xD800 - 0x40 + c.val / 0x400) ++
      escapeUnit (0xDC00 + c.val % 0x400) ++ t :: tail) = .ok (c, t :: tail) := by
  have bound := c.isLt
  rw [escapeUnit_eq, hexDigits, hexDigits]
  simp only [List.cons_append, List.nil_append]
  rw [unicodeEscape.eq_3 _ _ _ _ _ _ _ (hex4_hexDigits (by omega)),
    dif_pos (by simp only [isHighSurrogate, Bool.and_eq_true, decide_eq_true_eq]; omega)]
  simp only [is_ofChar, Bool.and_self, if_true]
  rw [hex4_hexDigits (by omega)]
  dsimp only
  rw [dif_pos (by simp only [isLowSurrogate, Bool.and_eq_true, decide_eq_true_eq]; omega)]
  simp only [joinSurrogates, Except.ok.injEq, Prod.mk.injEq, and_true]
  ext
  simp only
  omega

theorem sChar_iff {c : PyChar} :
    sChar c = true ↔ ((0x20 ≤ c.val ∧ c.val ≤ 0x7E) ∧ c.val ≠ 0x5C) ∧ c.val ≠ 0x22 := by
  simp only [sChar, PyChar.is, Bool.and_eq_true, decide_eq_true_eq, Bool.not_eq_true',
    beq_eq_false_iff_ne]
  exact Iff.rfl

theorem stringChar_simpleEscape (begin : Nat) {e c : PyChar} (after : PyStr) (notU : e.is 'u' = false)
    (escaped : simpleEscape e = some c) :
    stringChar begin (PyChar.ofChar '\\' :: e :: after) = .ok (c, after) := by
  rw [stringChar.eq_3, if_pos (is_ofChar '\\'), if_neg (by rw [notU]; decide), escaped]

theorem simpleEscape_of_val {e c : PyChar} {code : Nat} (same : c.val = code)
    (escaped : simpleEscape e = some ⟨code, same ▸ c.isLt⟩) : simpleEscape e = some c := by
  rw [escaped]
  exact congrArg some (Fin.ext same.symm)

theorem escapeChar_cases (c : PyChar) :
    (sChar c = true ∧ escapeChar c = [c]) ∨
    (∃ e, escapeChar c = [PyChar.ofChar '\\', e] ∧ e.val ≠ 0x75 ∧ simpleEscape e = some c) ∨
    (0x10000 ≤ c.val ∧ escapeChar c =
      escapeUnit (0xD800 - 0x40 + c.val / 0x400) ++ escapeUnit (0xDC00 + c.val % 0x400)) ∨
    (c.val < 0x10000 ∧ escapeChar c = escapeUnit c.val) := by
  unfold escapeChar
  by_cases plain : sChar c = true
  · exact .inl ⟨plain, if_pos plain⟩
  rw [if_neg plain]
  refine .inr ?_
  unfold asciiEscapeUnichar
  split
  · rename_i code
    have same : c = PyChar.ofChar '\\' := Fin.ext code
    subst same
    exact .inl ⟨_, rfl, by decide, rfl⟩
  · rename_i code
    have same : c = PyChar.ofChar '"' := Fin.ext code
    subst same
    exact .inl ⟨_, rfl, by decide, rfl⟩
  · exact .inl ⟨_, rfl, by decide, simpleEscape_of_val (by assumption) rfl⟩
  · exact .inl ⟨_, rfl, by decide, simpleEscape_of_val (by assumption) rfl⟩
  · exact .inl ⟨_, rfl, by decide, simpleEscape_of_val (by assumption) rfl⟩
  · exact .inl ⟨_, rfl, by decide, simpleEscape_of_val (by assumption) rfl⟩
  · exact .inl ⟨_, rfl, by decide, simpleEscape_of_val (by assumption) rfl⟩
  · split
    · exact .inr (.inl ⟨by omega, rfl⟩)
    · exact .inr (.inr ⟨by omega, rfl⟩)

theorem stringChar_escapeChar (begin : Nat) (c m : PyChar) (ms : PyStr)
    (follows : isHighSurrogate c = true → FollowsHigh (m :: ms)) :
    stringChar begin (escapeChar c ++ m :: ms) = .ok (c, m :: ms) := by
  rcases escapeChar_cases c with ⟨plain, shape⟩ | ⟨e, shape, notU, escaped⟩ | ⟨large, shape⟩ |
    ⟨small, shape⟩ <;> rw [shape]
  · rw [sChar_iff] at plain
    have notBackslash : c.is '\\' = false := by simpa [PyChar.is] using plain.1.2
    rw [List.singleton_append, stringChar.eq_3, if_neg (by rw [notBackslash]; decide),
      if_neg (by omega)]
  · exact stringChar_simpleEscape _ _ (by simpa [PyChar.is] using notU) escaped
  · rw [escapeUnit_eq]
    simp only [List.cons_append]
    rw [stringChar.eq_3, if_pos (is_ofChar '\\'), if_pos (is_ofChar 'u'), unicodeEscape_pair large]
  · rw [escapeUnit_eq, List.cons_append, List.cons_append, stringChar.eq_3,
      if_pos (is_ofChar '\\'), if_pos (is_ofChar 'u'), unicodeEscape_unit small _ _ follows]

theorem followsHigh_cons {c : PyChar} (notEscape : c.val ≠ 0x5C) (after : PyStr) :
    FollowsHigh (c :: after) := by
  intro l1 l2 l3 l4 rest same
  exact absurd (congrArg Fin.val (List.cons.inj same).1) notEscape

theorem followsHigh_escape {e : PyChar} (notU : e.val ≠ 0x75) (after : PyStr) :
    FollowsHigh (PyChar.ofChar '\\' :: e :: after) := by
  intro l1 l2 l3 l4 rest same
  exact absurd (congrArg Fin.val (List.cons.inj (List.cons.inj same).2).1) notU

theorem followsHigh_escapeUnit {unit : Nat} (small : unit < 0x10000)
    (notLow : ¬ (0xDC00 ≤ unit ∧ unit ≤ 0xDFFF)) (after : PyStr) :
    FollowsHigh (escapeUnit unit ++ after) := by
  intro l1 l2 l3 l4 rest same
  simp only [escapeUnit_eq, hexDigits, List.cons_append, List.nil_append, List.cons.injEq] at same
  obtain ⟨-, -, rfl, rfl, rfl, rfl, -⟩ := same
  refine ⟨_, hex4_hexDigits small, ?_⟩
  simp only [isLowSurrogate, Bool.and_eq_false_iff, decide_eq_false_iff_not]
  omega

theorem followsHigh_escapeChar {d : PyChar} (notLow : isLowSurrogate d = false) (after : PyStr) :
    FollowsHigh (escapeChar d ++ after) := by
  have bound := d.isLt
  simp only [isLowSurrogate, Bool.and_eq_false_iff, decide_eq_false_iff_not] at notLow
  rcases escapeChar_cases d with ⟨plain, shape⟩ | ⟨e, shape, notU, -⟩ | ⟨large, shape⟩ |
    ⟨small, shape⟩ <;> rw [shape]
  · exact followsHigh_cons (sChar_iff.mp plain).1.2 _
  · exact followsHigh_escape notU _
  · rw [List.append_assoc]
    exact followsHigh_escapeUnit (by omega) (by omega) _
  · exact followsHigh_escapeUnit small (by omega) _

theorem escapeChar_head (c : PyChar) :
    ∃ c0 rest, escapeChar c = c0 :: rest ∧ c0.is '"' = false := by
  rcases escapeChar_cases c with ⟨plain, shape⟩ | ⟨e, shape, -⟩ | ⟨-, shape⟩ | ⟨-, shape⟩ <;>
    rw [shape]
  · exact ⟨c, [], rfl, by simpa [PyChar.is] using (sChar_iff.mp plain).2⟩
  all_goals exact ⟨_, _, rfl, rfl⟩

theorem scanString_of_stringChar {begin : Nat} {acc : PyStr} {c : PyChar} {rest after : PyStr}
    {d : PyChar} (notQuote : c.is '"' = false) (read : stringChar begin (c :: rest) = .ok (d, after)) :
    scanString begin acc (c :: rest) = scanString begin (acc ++ [d]) after := by
  rw [scanString.eq_2, if_neg (by rw [notQuote]; decide)]
  split
  · rename_i failed
    rw [read] at failed
    cases failed
  · rename_i found
    rw [read] at found
    cases found
    rfl

def unpaired : PyStr → Bool
  | c :: d :: rest => !(isHighSurrogate c && isLowSurrogate d) && unpaired (d :: rest)
  | _ => true

theorem scanString_escaped (begin : Nat) (s : PyStr) (kept : unpaired s = true) (acc rest : PyStr) :
    scanString begin acc ((s.map escapeChar).flatten ++ PyChar.ofChar '"' :: rest) =
      .ok (acc ++ s, rest) := by
  induction s generalizing acc with
  | nil =>
    rw [List.map_nil, List.flatten_nil, List.nil_append, scanString.eq_2, if_pos (is_ofChar '"'),
      List.append_nil]
  | cons c more ih =>
    have follows : isHighSurrogate c = true →
        FollowsHigh ((more.map escapeChar).flatten ++ PyChar.ofChar '"' :: rest) := by
      intro high
      cases more with
      | nil => exact followsHigh_cons (by decide) _
      | cons d tail =>
        simp only [unpaired, high, Bool.true_and, Bool.and_eq_true, Bool.not_eq_true'] at kept
        rw [List.map_cons, List.flatten_cons, List.append_assoc]
        exact followsHigh_escapeChar kept.1 _
    have restKept : unpaired more = true := by
      cases more with
      | nil => rfl
      | cons d tail =>
        simp only [unpaired, Bool.and_eq_true] at kept
        exact kept.2
    obtain ⟨m, ms, nonempty⟩ := List.exists_cons_of_ne_nil
      (show (more.map escapeChar).flatten ++ PyChar.ofChar '"' :: rest ≠ [] by simp)
    obtain ⟨c0, rest0, shape, notQuote⟩ := escapeChar_head c
    have read := stringChar_escapeChar begin c m ms (nonempty ▸ follows)
    rw [shape, List.cons_append] at read
    rw [List.map_cons, List.flatten_cons, List.append_assoc, nonempty, shape, List.cons_append,
      scanString_of_stringChar notQuote read, ← nonempty, ih restKept, List.append_assoc,
      List.singleton_append]

theorem toDigitsCore_mem : ∀ (fuel n : Nat) (acc : List Char),
    (∀ c ∈ acc, ∃ d < 10, c = Nat.digitChar d) →
      ∀ c ∈ Nat.toDigitsCore 10 fuel n acc, ∃ d < 10, c = Nat.digitChar d
  | 0, _, _, digits => digits
  | fuel + 1, n, acc, digits => by
    have last : ∀ c ∈ Nat.digitChar (n % 10) :: acc, ∃ d < 10, c = Nat.digitChar d := by
      simp only [List.mem_cons, forall_eq_or_imp]
      exact ⟨⟨n % 10, Nat.mod_lt _ (by decide), rfl⟩, digits⟩
    simp only [Nat.toDigitsCore]
    split
    · exact last
    · exact toDigitsCore_mem fuel (n / 10) _ last

theorem toDigitsCore_head : ∀ (fuel n : Nat) (acc : List Char), n < fuel →
    ∃ d rest, Nat.toDigitsCore 10 fuel n acc = Nat.digitChar d :: rest ∧ d < 10 ∧ (0 < n → 0 < d)
  | 0, _, _, bound => absurd bound (Nat.not_lt_zero _)
  | fuel + 1, n, acc, bound => by
    simp only [Nat.toDigitsCore]
    split
    · exact ⟨n % 10, acc, rfl, Nat.mod_lt _ (by decide), by omega⟩
    · obtain ⟨d, rest, shape, small, leading⟩ := toDigitsCore_head fuel (n / 10) _ (by omega)
      exact ⟨d, rest, shape, small, fun _ => leading (by omega)⟩

theorem digitChar_isDigit : ∀ d < 10, isDigit (PyChar.ofChar (Nat.digitChar d)) = true := by decide

theorem digitChar_not_zero : ∀ d < 10, 0 < d → (PyChar.ofChar (Nat.digitChar d)).is '0' = false := by
  decide

theorem decimalStr_digits (n : Nat) : ∀ c ∈ decimalStr n, isDigit c = true := by
  intro c member
  simp only [decimalStr, Nat.toDigits, List.mem_map] at member
  obtain ⟨c, found, rfl⟩ := member
  obtain ⟨d, small, rfl⟩ := toDigitsCore_mem _ n [] (by simp) c found
  exact digitChar_isDigit d small

theorem decimalStr_head (n : Nat) :
    ∃ c rest, decimalStr n = c :: rest ∧ (0 < n → c.is '0' = false) := by
  obtain ⟨d, rest, shape, small, leading⟩ := toDigitsCore_head (n + 1) n [] (Nat.lt_succ_self n)
  exact ⟨_, _, by rw [decimalStr, Nat.toDigits, shape, List.map_cons],
    fun positive => digitChar_not_zero d small (leading positive)⟩

def valueEnd : PyStr → Bool
  | [] => true
  | c :: _ => c.is ',' || c.is ']' || c.is '\x7d'

def digitsEnd : PyStr → Bool
  | [] => true
  | c :: _ => !isDigit c && !c.is '.' && !c.is 'e' && !c.is 'E'

theorem digitsEnd_of_valueEnd : ∀ {rest : PyStr}, valueEnd rest = true → digitsEnd rest = true
  | [], _ => rfl
  | c :: _, stop => by
    simp only [valueEnd, Bool.or_eq_true, is_iff] at stop
    rcases stop with (rfl | rfl) | rfl <;> rfl

theorem spanDigits_append {digits : PyStr} (allDigits : ∀ c ∈ digits, isDigit c = true)
    {rest : PyStr} (stop : digitsEnd rest = true) : spanDigits (digits ++ rest) = (digits, rest) := by
  induction digits with
  | nil =>
    cases rest with
    | nil => rfl
    | cons c more =>
      simp only [digitsEnd, Bool.and_eq_true, Bool.not_eq_true'] at stop
      simp [spanDigits, List.span, List.span.loop, stop.1.1.1]
  | cons c more ih =>
    simp only [List.mem_cons, forall_eq_or_imp] at allDigits
    have inner := ih allDigits.2
    simp only [spanDigits, List.span_eq_take_drop] at inner ⊢
    simp only [List.cons_append, List.takeWhile_cons, allDigits.1, List.dropWhile_cons, if_true,
      Prod.mk.injEq] at inner ⊢
    exact ⟨by rw [inner.1], inner.2⟩

theorem matchConstant_digit {c : PyChar} (digit : isDigit c = true) (more : PyStr) :
    matchConstant (c :: more) = none := by
  have range : 48 ≤ c.val ∧ c.val ≤ 57 := by simpa [isDigit] using digit
  simp [matchConstant, jsonConstants, startswith, pyStr, List.isPrefixOf, PyChar.ofChar, Fin.ext_iff]
  omega

theorem matchConstant_minus_digit {c : PyChar} (digit : isDigit c = true) (more : PyStr) :
    matchConstant (PyChar.ofChar '-' :: c :: more) = none := by
  have range : 48 ≤ c.val ∧ c.val ≤ 57 := by simpa [isDigit] using digit
  simp [matchConstant, jsonConstants, startswith, pyStr, List.isPrefixOf, PyChar.ofChar, Fin.ext_iff]
  omega

theorem matchInteger_decimalStr (n : Nat) {rest : PyStr} (stop : digitsEnd rest = true) :
    matchInteger (decimalStr n ++ rest) = some (decimalStr n, rest) := by
  by_cases zero : n = 0
  · subst zero
    rfl
  obtain ⟨c, more, shape, leading⟩ := decimalStr_head n
  have digits := decimalStr_digits n
  rw [shape] at digits ⊢
  simp only [List.mem_cons, forall_eq_or_imp] at digits
  rw [List.cons_append, matchInteger, if_neg (by rw [leading (by omega)]; decide), if_pos digits.1,
    spanDigits_append digits.2 stop]

theorem matchFraction_of_digitsEnd {rest : PyStr} (stop : digitsEnd rest = true) :
    matchFraction rest = none := by
  match rest with
  | [] => rfl
  | [_] => rfl
  | dot :: _ :: _ =>
    simp only [digitsEnd, Bool.and_eq_true, Bool.not_eq_true'] at stop
    simp [matchFraction, stop.1.1.2]

theorem matchExponent_of_digitsEnd {rest : PyStr} (stop : digitsEnd rest = true) :
    matchExponent rest = none := by
  match rest with
  | [] => rfl
  | e :: _ =>
    simp only [digitsEnd, Bool.and_eq_true, Bool.not_eq_true'] at stop
    simp [matchExponent, stop.2, stop.1.2]

theorem intRepr_ok {maxStrDigits : Nat} {n : Int} {text : PyStr}
    (repr : intRepr maxStrDigits n = .ok text) :
    text = (if n < 0 then pyStr "-" else []) ++ decimalStr n.natAbs ∧
      ¬ (640 < (decimalStr n.natAbs).length ∧ 0 < maxStrDigits ∧
        maxStrDigits < (decimalStr n.natAbs).length) := by
  unfold intRepr at repr
  generalize written : (if n < 0 then pyStr "-" else []) ++ decimalStr n.natAbs = full at repr ⊢
  have longer : (decimalStr n.natAbs).length ≤ full.length := by
    rw [← written, List.length_append]
    omega
  dsimp only at repr
  split at repr
  · cases repr
  · rename_i tooLong
    cases repr
    refine ⟨rfl, ?_⟩
    simp only [Bool.and_eq_true, decide_eq_true_eq] at tooLong
    omega

theorem matchNumber_intRepr {maxStrDigits : Nat} {n : Int} {text : PyStr}
    (repr : intRepr maxStrDigits n = .ok text) {rest : PyStr} (stop : valueEnd rest = true) :
    matchNumber maxStrDigits (text ++ rest) = .ok (.int n, rest) := by
  have ends := digitsEnd_of_valueEnd stop
  obtain ⟨rfl, notLong⟩ := intRepr_ok repr
  obtain ⟨c, more, shape, -⟩ := decimalStr_head n.natAbs
  have first := decimalStr_digits n.natAbs c (by rw [shape]; exact List.mem_cons_self _ _)
  have sign : numberSign ((if n < 0 then pyStr "-" else []) ++ decimalStr n.natAbs ++ rest) =
      decide (n < 0) := by
    by_cases negative : n < 0
    · rw [if_pos negative, decide_eq_true negative]
      rfl
    · rw [if_neg negative, decide_eq_false negative, List.nil_append, shape, List.cons_append]
      simp [numberSign, PyChar.is, isDigit] at first ⊢
      omega
  have unsigned : (if decide (n < 0) then ((if n < 0 then pyStr "-" else []) ++
      decimalStr n.natAbs ++ rest).drop 1 else (if n < 0 then pyStr "-" else []) ++
      decimalStr n.natAbs ++ rest) = decimalStr n.natAbs ++ rest := by
    by_cases negative : n < 0
    · rw [if_pos (decide_eq_true negative), if_pos negative]
      rfl
    · rw [if_neg (by simpa using negative), if_neg negative, List.nil_append]
  simp only [matchNumber, sign]
  rw [unsigned, matchInteger_decimalStr _ ends]
  simp only [matchFraction_of_digitsEnd ends, Option.getD_none, matchExponent_of_digitsEnd ends,
    List.isEmpty_nil, if_true]
  rw [if_neg (by simpa using notLong), decimalValue_decimalStr]
  congr
  simp only [signed, decide_eq_true_eq]
  split_ifs <;> omega

theorem matchConstant_jsonConstants (rest : PyStr) :
    matchConstant (pyStr "null" ++ rest) = some (.none, rest) ∧
    matchConstant (pyStr "true" ++ rest) = some (.bool true, rest) ∧
    matchConstant (pyStr "false" ++ rest) = some (.bool false, rest) ∧
    matchConstant (pyStr "NaN" ++ rest) = some (.float .nan, rest) ∧
    matchConstant (pyStr "Infinity" ++ rest) = some (.float (.inf false), rest) ∧
    matchConstant (pyStr "-Infinity" ++ rest) = some (.float (.inf true), rest) := by
  simp [matchConstant, jsonConstants, startswith, pyStr, List.isPrefixOf, PyChar.ofChar]

theorem scanOnce_scalar (maxStrDigits depth : Nat) {c : PyChar} (rest : PyStr)
    (quote : c.is '"' = false) (brace : c.is '\x7b' = false) (bracket : c.is '[' = false) :
    scanOnce maxStrDigits depth (c :: rest) =
      match matchConstant (c :: rest) with
      | some found => .ok found
      | none => matchNumber maxStrDigits (c :: rest) := by
  rw [scanOnce.eq_def]
  simp only [quote, brace, bracket, Bool.false_eq_true, if_false]
  -- the two sides differ at most in the matcher each `match` was compiled to
  try rfl

theorem scanOnce_constant (maxStrDigits depth : Nat) {word rest : PyStr} {value : PyVal}
    (found : matchConstant (word ++ rest) = some (value, rest)) (start : ∃ c more, word = c :: more ∧
      c.is '"' = false ∧ c.is '\x7b' = false ∧ c.is '[' = false) :
    scanOnce maxStrDigits depth (word ++ rest) = .ok (value, rest) := by
  obtain ⟨c, more, rfl, quote, brace, bracket⟩ := start
  rw [List.cons_append, scanOnce_scalar _ _ _ quote brace bracket, ← List.cons_append, found]

theorem scanOnce_intRepr (maxStrDigits depth : Nat) {n : Int} {text : PyStr}
    (repr : intRepr maxStrDigits n = .ok text) {rest : PyStr} (stop : valueEnd rest = true) :
    scanOnce maxStrDigits depth (text ++ rest) = .ok (.int n, rest) := by
  obtain ⟨rfl, -⟩ := intRepr_ok repr
  obtain ⟨c, more, shape, -⟩ := decimalStr_head n.natAbs
  have first := decimalStr_digits n.natAbs c (by rw [shape]; exact List.mem_cons_self _ _)
  have range : 48 ≤ c.val ∧ c.val ≤ 57 := by simpa [isDigit] using first
  have number := matchNumber_intRepr repr stop
  rw [shape] at number ⊢
  by_cases negative : n < 0
  · simp only [negative, if_true] at number ⊢
    rw [show pyStr "-" ++ c :: more ++ rest = PyChar.ofChar '-' :: c :: (more ++ rest) from rfl,
      scanOnce_scalar _ _ (c := PyChar.ofChar '-') _ rfl rfl rfl, matchConstant_minus_digit first]
    exact number
  · simp only [negative, if_false, List.nil_append, List.cons_append] at number ⊢
    rw [scanOnce_scalar _ _ _ (by simp [PyChar.is]; omega) (by simp [PyChar.is]; omega)
      (by simp [PyChar.is]; omega), matchConstant_digit first]
    exact number

theorem spanDigits_cons_digit {c : PyChar} (digit : isDigit c = true) (s : PyStr) :
    spanDigits (c :: s) = (c :: (spanDigits s).1, (spanDigits s).2) := by
  simp [spanDigits, List.span_eq_take_drop, List.takeWhile_cons, List.dropWhile_cons, digit]

theorem spanDigits_cons_stop {c : PyChar} (digit : isDigit c = false) (s : PyStr) :
    spanDigits (c :: s) = ([], c :: s) := by
  simp [spanDigits, List.span_eq_take_drop, List.takeWhile_cons, List.dropWhile_cons, digit]

theorem valueEnd_cons {c : PyChar} {more : PyStr} (stop : valueEnd (c :: more) = true) :
    isDigit c = false ∧ c.is '0' = false ∧ c.is '.' = false ∧ c.is 'e' = false ∧ c.is 'E' = false ∧
      c.is '-' = false ∧ c.is '+' = false := by
  simp only [valueEnd, Bool.or_eq_true, is_iff] at stop
  rcases stop with (rfl | rfl) | rfl <;> decide

theorem spanDigits_append_valueEnd {rest : PyStr} (stop : valueEnd rest = true) :
    ∀ s : PyStr, spanDigits (s ++ rest) = ((spanDigits s).1, (spanDigits s).2 ++ rest)
  | [] => by
    cases rest with
    | nil => rfl
    | cons c more => rw [List.nil_append, spanDigits_cons_stop (valueEnd_cons stop).1]; rfl
  | c :: s => by
    cases digit : isDigit c with
    | true =>
      rw [List.cons_append, spanDigits_cons_digit digit, spanDigits_cons_digit digit,
        spanDigits_append_valueEnd stop s]
    | false => rw [List.cons_append, spanDigits_cons_stop digit, spanDigits_cons_stop digit]; rfl

theorem matchInteger_append {rest : PyStr} (stop : valueEnd rest = true) (s : PyStr) :
    matchInteger (s ++ rest) = (matchInteger s).map fun (int, after) => (int, after ++ rest) := by
  match s, rest with
  | [], [] => rfl
  | [], c :: more =>
    obtain ⟨digit, zero, -⟩ := valueEnd_cons stop
    simp [matchInteger, digit, zero]
  | c :: s, _ =>
    simp only [List.cons_append, matchInteger]
    split_ifs <;> simp [spanDigits_append_valueEnd stop]

theorem matchFraction_append {rest : PyStr} (stop : valueEnd rest = true) (s : PyStr) :
    matchFraction (s ++ rest) = (matchFraction s).map fun (frac, after) => (frac, after ++ rest) := by
  match s, rest with
  | [], [] | [], [_] | [_], [] => rfl
  | [], dot :: _ :: _ =>
    simp [matchFraction, (valueEnd_cons stop).2.2.1]
  | [dot], d :: more =>
    simp [matchFraction, (valueEnd_cons stop).1]
  | dot :: d :: s, _ =>
    simp only [List.cons_append, matchFraction]
    split_ifs <;> simp [spanDigits_append_valueEnd stop]

theorem exponentSign_valueEnd {rest : PyStr} (stop : valueEnd rest = true) :
    exponentSign rest = (false, rest) := by
  match rest with
  | [] | [_] => rfl
  | c :: _ :: _ =>
    obtain ⟨-, -, -, -, -, minus, plus⟩ := valueEnd_cons stop
    simp [exponentSign, minus, plus]

theorem exponentSign_sign {x c : PyChar} {more : PyStr} :
    exponentSign (x :: c :: more) =
      if x.is '-' then (true, c :: more) else if x.is '+' then (false, c :: more)
      else (false, x :: c :: more) := rfl

theorem exponentSign_append {rest : PyStr} (stop : valueEnd rest = true) :
    ∀ r : PyStr, (∀ x, r = [x] → x.is '-' = false ∧ x.is '+' = false) →
      exponentSign (r ++ rest) = ((exponentSign r).1, (exponentSign r).2 ++ rest)
  | [], _ => exponentSign_valueEnd stop
  | [x], unsigned => by
    obtain ⟨minus, plus⟩ := unsigned x rfl
    cases rest with
    | nil => rfl
    | cons c more => simp [exponentSign, minus, plus]
  | x :: y :: t, _ => by
    simp only [List.cons_append, exponentSign_sign]
    split_ifs <;> rfl

theorem matchExponent_append {rest : PyStr} (stop : valueEnd rest = true) (s : PyStr) :
    matchExponent (s ++ rest) =
      (matchExponent s).map fun (negative, digits, after) => (negative, digits, after ++ rest) := by
  rcases rest with _ | ⟨c, more⟩
  · simp
  obtain ⟨digit, -, -, e, bigE, -, -⟩ := valueEnd_cons stop
  cases s with
  | nil => simp [matchExponent, e, bigE]
  | cons e r =>
    simp only [List.cons_append, matchExponent]
    split_ifs
    · by_cases signOnly : ∃ x, r = [x] ∧ (x.is '-' = true ∨ x.is '+' = true)
      · obtain ⟨x, rfl, sign⟩ := signOnly
        -- A lone sign before the text after the value takes no digits, with or without it.
        have notDigit : isDigit x = false ∧ (exponentSign ([x] ++ c :: more)).2 = c :: more := by
          rcases sign with sign | sign <;> rw [is_iff] at sign <;> subst sign <;> exact ⟨rfl, rfl⟩
        rw [notDigit.2, spanDigits_cons_stop digit, show exponentSign [x] = (false, [x]) from rfl,
          spanDigits_cons_stop notDigit.1]
        rfl
      · push_neg at signOnly
        rw [exponentSign_append stop r fun x same => by simpa using signOnly x same,
          spanDigits_append_valueEnd stop]
        rcases spanDigits (exponentSign r).2 with ⟨_ | ⟨d, ds⟩, after⟩ <;> rfl
    · rfl

theorem matchFraction_getD_append {rest : PyStr} (stop : valueEnd rest = true) (s : PyStr) :
    (matchFraction (s ++ rest)).getD ([], s ++ rest) =
      (((matchFraction s).getD ([], s)).1, ((matchFraction s).getD ([], s)).2 ++ rest) := by
  rw [matchFraction_append stop]
  cases matchFraction s <;> rfl

theorem matchNumber_append {maxStrDigits : Nat} {s rest after : PyStr} {v : PyVal}
    (stop : valueEnd rest = true) (read : matchNumber maxStrDigits s = .ok (v, after)) :
    matchNumber maxStrDigits (s ++ rest) = .ok (v, after ++ rest) := by
  cases s with
  | nil => simp [matchNumber, numberSign, matchInteger] at read
  | cons c s =>
    have unsigned : (if numberSign (c :: s) then (c :: s ++ rest).drop 1 else c :: s ++ rest) =
        (if numberSign (c :: s) then (c :: s).drop 1 else c :: s) ++ rest := by
      split <;> rfl
    simp only [matchNumber, show numberSign (c :: s ++ rest) = numberSign (c :: s) from rfl] at read ⊢
    rw [unsigned, matchInteger_append stop]
    generalize matchInteger (if numberSign (c :: s) then (c :: s).drop 1 else c :: s) = int at read ⊢
    rcases int with _ | ⟨intPart, afterInt⟩
    · cases read
    simp only [Option.map_some'] at read ⊢
    rw [matchFraction_getD_append stop]
    generalize (matchFraction afterInt).getD ([], afterInt) = frac at read ⊢
    obtain ⟨fracPart, afterFrac⟩ := frac
    dsimp only at read ⊢
    rw [matchExponent_append stop]
    generalize matchExponent afterFrac = exp at read ⊢
    rcases exp with _ | ⟨negative, digits, afterExp⟩
    · simp only [Option.map_none'] at read ⊢
      split_ifs at read ⊢ <;> cases read <;> rfl
    · cases read
      rfl

theorem matchInteger_head {s : PyStr} {found : PyStr × PyStr} (matched : matchInteger s = some found) :
    ∃ c more, s = c :: more ∧ isDigit c = true := by
  match s with
  | [] => cases matched
  | c :: more =>
    refine ⟨c, more, rfl, ?_⟩
    simp only [matchInteger] at matched
    split_ifs at matched with zero digit
    · rw [is_iff] at zero
      subst zero
      rfl
    · exact digit

theorem matchNumber_head {maxStrDigits : Nat} {s : PyStr} {read : PyVal × PyStr}
    (matched : matchNumber maxStrDigits s = .ok read) :
    ∃ c more, s = c :: more ∧ (isDigit c = true ∨
      c = PyChar.ofChar '-' ∧ ∃ d after, more = d :: after ∧ isDigit d = true) := by
  cases s with
  | nil => simp [matchNumber, numberSign, matchInteger] at matched
  | cons c more =>
    refine ⟨c, more, rfl, ?_⟩
    simp only [matchNumber] at matched
    generalize integer : matchInteger (if numberSign (c :: more) then (c :: more).drop 1
      else c :: more) = int at matched
    rcases int with _ | found
    · cases matched
    cases minus : numberSign (c :: more)
    · rw [minus, if_neg Bool.false_ne_true] at integer
      obtain ⟨d, after, same, digit⟩ := matchInteger_head integer
      cases same
      exact .inl digit
    · rw [minus, if_pos rfl] at integer
      obtain ⟨d, after, same, digit⟩ := matchInteger_head integer
      exact .inr ⟨is_iff.mp minus, d, after, same, digit⟩

theorem scanOnce_number (maxStrDigits depth : Nat) {text rest : PyStr} {v : PyVal}
    (read : matchNumber maxStrDigits text = .ok (v, [])) (stop : valueEnd rest = true) :
    scanOnce maxStrDigits depth (text ++ rest) = .ok (v, rest) := by
  have number := matchNumber_append stop read
  rw [List.nil_append] at number
  obtain ⟨c, more, rfl, start⟩ := matchNumber_head read
  rcases start with digit | ⟨rfl, d, after, rfl, digit⟩
  · have range : 48 ≤ c.val ∧ c.val ≤ 57 := by simpa [isDigit] using digit
    rw [List.cons_append, scanOnce_scalar _ _ _ (by simp [PyChar.is]; omega)
      (by simp [PyChar.is]; omega) (by simp [PyChar.is]; omega), matchConstant_digit digit]
    exact number
  · rw [List.cons_append, List.cons_append, scanOnce_scalar _ _ (c := PyChar.ofChar '-') _ rfl rfl rfl,
      matchConstant_minus_digit digit]
    exact number

theorem scanOnce_encodeBasestringAscii (maxStrDigits depth : Nat) {s : PyStr} (kept : unpaired s = true)
    (rest : PyStr) :
    scanOnce maxStrDigits depth (encodeBasestringAscii s ++ rest) = .ok (.str s, rest) := by
  rw [encodeBasestringAscii, List.append_assoc, List.cons_append, List.singleton_append,
    scanOnce.eq_def]
  simp only [is_ofChar, if_true, scanString_escaped _ s kept, List.nil_append]
  rfl

theorem scanOnce_array (maxStrDigits depth : Nat) (rest : PyStr) :
    scanOnce maxStrDigits (depth + 1) (PyChar.ofChar '[' :: rest) =
      parseArray (scanOnce maxStrDigits depth) rest := by
  rw [scanOnce.eq_def]
  rfl

theorem scanOnce_object (maxStrDigits depth : Nat) (rest : PyStr) :
    scanOnce maxStrDigits (depth + 1) (PyChar.ofChar '\x7b' :: rest) =
      parseObject (scanOnce maxStrDigits depth) rest := by
  rw [scanOnce.eq_def]
  rfl

theorem skipWhitespace_cons {c : PyChar} (solid : isJsonWhitespace c = false) (rest : PyStr) :
    skipWhitespace (c :: rest) = c :: rest := by
  simp [skipWhitespace, List.dropWhile_cons, solid]

theorem skipWhitespace_space (rest : PyStr) :
    skipWhitespace (PyChar.ofChar ' ' :: rest) = skipWhitespace rest := by
  simp only [skipWhitespace, List.dropWhile_cons]
  rfl

def floatReadsBack (maxStrDigits : Nat) (floatRepr : PyFloat → PyStr) (x : PyFloat) : Bool :=
  match matchNumber maxStrDigits (floatRepr x) with
  | .ok (.float y, []) => y == x
  | _ => false

theorem matchNumber_of_floatReadsBack {maxStrDigits : Nat} {floatRepr : PyFloat → PyStr} {x : PyFloat}
    (reads : floatReadsBack maxStrDigits floatRepr x = true) :
    matchNumber maxStrDigits (floatRepr x) = .ok (.float x, []) := by
  unfold floatReadsBack at reads
  split at reads
  · rename_i y read
    rw [beq_iff_eq] at reads
    rw [read, reads]
  · cases reads

mutual

def PyVal.reloads (maxStrDigits : Nat) (floatRepr : PyFloat → PyStr) : PyVal → Bool
  | .float (.dec negative digits exp10) =>
    floatReadsBack maxStrDigits floatRepr (.dec negative digits exp10)
  | .str s => unpaired s
  | .list items => itemsReload maxStrDigits floatRepr items
  | .dict entries =>
    membersReload maxStrDigits floatRepr entries && decide (entries.map Prod.fst).Nodup
  | _ => true

def itemsReload (maxStrDigits : Nat) (floatRepr : PyFloat → PyStr) : List PyVal → Bool
  | [] => true
  | item :: items => item.reloads maxStrDigits floatRepr && itemsReload maxStrDigits floatRepr items

def membersReload (maxStrDigits : Nat) (floatRepr : PyFloat → PyStr) : List (PyStr × PyVal) → Bool
  | [] => true
  | (key, value) :: members =>
    unpaired key && value.reloads maxStrDigits floatRepr && membersReload maxStrDigits floatRepr members

end

section Encoded

variable {maxStrDigits : Nat} {floatRepr : PyFloat → PyStr}

theorem listencodeItems_cons {depth : Nat} {first : Bool} {item : PyVal} {items : List PyVal}
    {text : PyStr} (encoded : listencodeItems maxStrDigits floatRepr depth first (item :: items) = .ok text) :
    ∃ head tail, listencodeObj maxStrDigits floatRepr depth item = .ok head ∧
      listencodeItems maxStrDigits floatRepr depth false items = .ok tail ∧
      text = (if first then [] else pyStr ", ") ++ head ++ tail := by
  rw [listencodeItems] at encoded
  cases encodedHead : listencodeObj maxStrDigits floatRepr depth item with
  | error e => simp [encodedHead, bind, Except.bind] at encoded
  | ok head =>
    cases encodedTail : listencodeItems maxStrDigits floatRepr depth false items with
    | error e => simp [encodedHead, encodedTail, bind, Except.bind] at encoded
    | ok tail =>
      simp only [encodedHead, encodedTail, bind, Except.bind, pure, Except.pure, Except.ok.injEq] at encoded
      exact ⟨head, tail, rfl, rfl, encoded.symm⟩

theorem listencodeMembers_cons {depth : Nat} {first : Bool} {key : PyStr} {value : PyVal}
    {members : List (PyStr × PyVal)} {text : PyStr}
    (encoded : listencodeMembers maxStrDigits floatRepr depth first ((key, value) :: members) = .ok text) :
    ∃ head tail, listencodeObj maxStrDigits floatRepr depth value = .ok head ∧
      listencodeMembers maxStrDigits floatRepr depth false members = .ok tail ∧
      text = (if first then [] else pyStr ", ") ++ encodeBasestringAscii key ++ pyStr ": " ++ head ++
        tail := by
  rw [listencodeMembers] at encoded
  cases encodedHead : listencodeObj maxStrDigits floatRepr depth value with
  | error e => simp [encodedHead, bind, Except.bind] at encoded
  | ok head =>
    cases encodedTail : listencodeMembers maxStrDigits floatRepr depth false members with
    | error e => simp [encodedHead, encodedTail, bind, Except.bind] at encoded
    | ok tail =>
      simp only [encodedHead, encodedTail, bind, Except.bind, pure, Except.pure, Except.ok.injEq] at encoded
      exact ⟨head, tail, rfl, rfl, encoded.symm⟩

theorem listencodeItems_separated {depth : Nat} {items : List PyVal} {tail : PyStr}
    (encoded : listencodeItems maxStrDigits floatRepr depth false items = .ok tail) :
    (items = [] ∧ tail = []) ∨ ∃ text, items ≠ [] ∧ tail = pyStr ", " ++ text ∧
      listencodeItems maxStrDigits floatRepr depth true items = .ok text := by
  cases items with
  | nil =>
    rw [listencodeItems] at encoded
    exact .inl ⟨rfl, (Except.ok.inj encoded).symm⟩
  | cons item items =>
    obtain ⟨head, rest, encodedHead, encodedRest, rfl⟩ := listencodeItems_cons encoded
    refine .inr ⟨head ++ rest, List.cons_ne_nil _ _, by simp, ?_⟩
    simp [listencodeItems, encodedHead, encodedRest, bind, Except.bind, pure, Except.pure]

theorem listencodeMembers_separated {depth : Nat} {members : List (PyStr × PyVal)} {tail : PyStr}
    (encoded : listencodeMembers maxStrDigits floatRepr depth false members = .ok tail) :
    (members = [] ∧ tail = []) ∨ ∃ text, members ≠ [] ∧ tail = pyStr ", " ++ text ∧
      listencodeMembers maxStrDigits floatRepr depth true members = .ok text := by
  match members with
  | [] =>
    rw [listencodeMembers] at encoded
    exact .inl ⟨rfl, (Except.ok.inj encoded).symm⟩
  | (key, value) :: members =>
    obtain ⟨head, rest, encodedHead, encodedRest, rfl⟩ := listencodeMembers_cons encoded
    refine .inr ⟨encodeBasestringAscii key ++ pyStr ": " ++ head ++ rest, List.cons_ne_nil _ _,
      by simp, ?_⟩
    simp [listencodeMembers, encodedHead, encodedRest, bind, Except.bind, pure, Except.pure]

theorem listencodeItems_length : ∀ {depth : Nat} {first : Bool} {items : List PyVal} {text : PyStr},
    listencodeItems maxStrDigits floatRepr depth first items = .ok text →
      items.length ≤ text.length + (if first then 1 else 0)
  | _, _, [], _, _ => Nat.zero_le _
  | _, first, _ :: _, _, encoded => by
    obtain ⟨head, tail, -, encodedTail, rfl⟩ := listencodeItems_cons encoded
    have later := listencodeItems_length encodedTail
    have separator : (pyStr ", ").length = 2 := rfl
    cases first <;> simp only [List.length_append, if_true, if_false, Bool.false_eq_true,
      separator, List.length_nil, List.length_cons] at later ⊢ <;> omega

theorem listencodeMembers_length : ∀ {depth : Nat} {first : Bool} {members : List (PyStr × PyVal)}
    {text : PyStr}, listencodeMembers maxStrDigits floatRepr depth first members = .ok text →
      members.length ≤ text.length
  | _, _, [], _, _ => Nat.zero_le _
  | _, _, (_, _) :: _, _, encoded => by
    obtain ⟨head, tail, -, encodedTail, rfl⟩ := listencodeMembers_cons encoded
    have later := listencodeMembers_length encodedTail
    simp only [encodeBasestringAscii, List.length_append, List.length_cons]
    omega

theorem listencodeObj_list {depth : Nat} {item : PyVal} {items : List PyVal} {text : PyStr}
    (encoded : listencodeObj maxStrDigits floatRepr (depth + 1) (.list (item :: items)) = .ok text) :
    ∃ body, listencodeItems maxStrDigits floatRepr depth true (item :: items) = .ok body ∧
      text = PyChar.ofChar '[' :: (body ++ [PyChar.ofChar ']']) := by
  rw [listencodeObj] at encoded
  obtain ⟨body, inner, rfl⟩ := Except.map_eq_ok encoded
  exact ⟨body, inner, rfl⟩

theorem listencodeObj_dict {depth : Nat} {entry : PyStr × PyVal} {entries : List (PyStr × PyVal)}
    {text : PyStr}
    (encoded : listencodeObj maxStrDigits floatRepr (depth + 1) (.dict (entry :: entries)) = .ok text) :
    ∃ body, listencodeMembers maxStrDigits floatRepr depth true (entry :: entries) = .ok body ∧
      text = PyChar.ofChar '\x7b' :: (body ++ [PyChar.ofChar '\x7d']) := by
  rw [listencodeObj] at encoded
  obtain ⟨body, inner, rfl⟩ := Except.map_eq_ok encoded
  exact ⟨body, inner, rfl⟩

theorem listencodeObj_head {depth : Nat} {v : PyVal} {text : PyStr} (reloads : v.reloads maxStrDigits floatRepr = true)
    (encoded : listencodeObj maxStrDigits floatRepr depth v = .ok text) :
    ∃ c more, text = c :: more ∧ isJsonWhitespace c = false ∧ c.is ']' = false ∧ c.val < 0x80 := by
  match v, depth with
  | .none, _ | .bool true, _ | .bool false, _ | .str _, _ | .float .nan, _ | .float (.inf true), _
  | .float (.inf false), _ | .list [], _ + 1 | .dict [], _ + 1 =>
    rw [listencodeObj] at encoded
    cases encoded
    exact ⟨_, _, rfl, rfl, rfl, by decide⟩
  | .list (_ :: _), _ + 1 =>
    obtain ⟨body, -, rfl⟩ := listencodeObj_list encoded
    exact ⟨_, _, rfl, rfl, rfl, by decide⟩
  | .dict (_ :: _), _ + 1 =>
    obtain ⟨body, -, rfl⟩ := listencodeObj_dict encoded
    exact ⟨_, _, rfl, rfl, rfl, by decide⟩
  | .int n, _ =>
    rw [listencodeObj] at encoded
    obtain ⟨rfl, -⟩ := intRepr_ok encoded
    obtain ⟨c, more, shape, -⟩ := decimalStr_head n.natAbs
    have first := decimalStr_digits n.natAbs c (by rw [shape]; exact List.mem_cons_self _ _)
    have range : 48 ≤ c.val ∧ c.val ≤ 57 := by simpa [isDigit] using first
    rw [shape]
    by_cases negative : n < 0
    · exact ⟨PyChar.ofChar '-', c :: more, by rw [if_pos negative]; rfl, rfl, rfl, by decide⟩
    · rw [if_neg negative, List.nil_append]
      refine ⟨c, more, rfl, ?_, ?_, by omega⟩ <;> simp [isJsonWhitespace, PyChar.is] <;> omega
  | .float (.dec negative digits exp10), _ =>
    rw [listencodeObj] at encoded
    cases encoded
    obtain ⟨c, more, shape, start⟩ := matchNumber_head (matchNumber_of_floatReadsBack reloads)
    refine ⟨c, more, shape, ?_⟩
    rcases start with digit | ⟨rfl, -⟩
    · have range : 48 ≤ c.val ∧ c.val ≤ 57 := by simpa [isDigit] using digit
      refine ⟨?_, ?_, by omega⟩ <;> simp [isJsonWhitespace, PyChar.is] <;> omega
    · exact ⟨rfl, rfl, by decide⟩
  | .list _, 0 | .dict _, 0 | .other _, _ =>
    rw [listencodeObj] at encoded
    cases encoded

end Encoded

theorem commaSpace : pyStr ", " = [PyChar.ofChar ',', PyChar.ofChar ' '] := rfl

theorem colonSpace : pyStr ": " = [PyChar.ofChar ':', PyChar.ofChar ' '] := rfl

section Loops

variable {scan : PyStr → Except ScanError (PyVal × PyStr)}

theorem parseArray_close (rest : PyStr) :
    parseArray scan (PyChar.ofChar ']' :: rest) = .ok (.list [], rest) := by
  rw [parseArray, skipWhitespace_cons (c := PyChar.ofChar ']') rfl]
  rfl

theorem parseArray_open {c : PyChar} (solid : isJsonWhitespace c = false) (notClose : c.is ']' = false)
    (rest : PyStr) : parseArray scan (c :: rest) = parseArrayItems scan (rest.length + 2) [] (c :: rest) := by
  rw [parseArray, skipWhitespace_cons solid]
  simp only [notClose, Bool.false_eq_true, if_false]

theorem parseArrayItems_last {fuel : Nat} {items : List PyVal} {s rest : PyStr} {item : PyVal}
    (read : scan s = .ok (item, PyChar.ofChar ']' :: rest)) :
    parseArrayItems scan (fuel + 1) items s = .ok (.list (items ++ [item]), rest) := by
  simp only [parseArrayItems, read, skipWhitespace_cons (show isJsonWhitespace (PyChar.ofChar ']') = false from rfl),
    is_ofChar, if_true]

theorem parseArrayItems_next {fuel : Nat} {items : List PyVal} {s more : PyStr} {item : PyVal}
    (read : scan s = .ok (item, pyStr ", " ++ more)) (solid : skipWhitespace more = more) :
    parseArrayItems scan (fuel + 1) items s = parseArrayItems scan fuel (items ++ [item]) more := by
  rw [commaSpace] at read
  simp only [parseArrayItems, read, List.cons_append, List.nil_append,
    skipWhitespace_cons (show isJsonWhitespace (PyChar.ofChar ',') = false from rfl),
    skipWhitespace_space, solid]
  rfl

theorem parseObject_close (rest : PyStr) :
    parseObject scan (PyChar.ofChar '\x7d' :: rest) = .ok (.dict [], rest) := by
  rw [parseObject, skipWhitespace_cons (c := PyChar.ofChar '\x7d') rfl]
  rfl

theorem parseObject_open (key rest : PyStr) :
    parseObject scan (encodeBasestringAscii key ++ rest) =
      parseObjectItems scan ((encodeBasestringAscii key ++ rest).length + 1) PyDict.empty
        (encodeBasestringAscii key ++ rest) := by
  rw [encodeBasestringAscii, List.append_assoc, List.cons_append, parseObject,
    skipWhitespace_cons (c := PyChar.ofChar '"') rfl]
  rfl

theorem parseObjectItems_member {fuel : Nat} {members : PyDict PyVal} {key : PyStr}
    (kept : unpaired key = true) {valueText after : PyStr} {value : PyVal}
    (solid : skipWhitespace (valueText ++ after) = valueText ++ after)
    (read : scan (valueText ++ after) = .ok (value, after)) :
    parseObjectItems scan (fuel + 1) members (encodeBasestringAscii key ++ (pyStr ": " ++ (valueText ++ after))) =
      match skipWhitespace after with
      | c :: rest =>
        if c.is '\x7d' then .ok (.dict (members.setItem key value).entries, rest)
        else if c.is ',' then parseObjectItems scan fuel (members.setItem key value) (skipWhitespace rest)
        else .error (.decode "Expecting ',' delimiter" (rest.length + 1))
      | [] => .error (.decode "Expecting ',' delimiter" 0) := by
  rw [encodeBasestringAscii, colonSpace]
  simp only [List.append_assoc, List.cons_append, List.singleton_append, List.nil_append]
  simp only [parseObjectItems, is_ofChar, if_true, scanString_escaped _ key kept, List.nil_append,
    skipWhitespace_cons (show isJsonWhitespace (PyChar.ofChar ':') = false from rfl),
    skipWhitespace_space, solid, read]
  -- the two sides differ at most in the matcher each `match` was compiled to
  try rfl

end Loops

theorem valueEnd_separator (after : PyStr) : valueEnd (pyStr ", " ++ after) = true := by
  rw [commaSpace]
  rfl

section Encoded'

variable {maxStrDigits : Nat} {floatRepr : PyFloat → PyStr}

theorem skipWhitespace_encoded {depth : Nat} {v : PyVal} {text : PyStr} (reloads : v.reloads maxStrDigits floatRepr = true)
    (encoded : listencodeObj maxStrDigits floatRepr depth v = .ok text) (after : PyStr) :
    skipWhitespace (text ++ after) = text ++ after := by
  obtain ⟨c, more, rfl, solid, -, -⟩ := listencodeObj_head reloads encoded
  rw [List.cons_append, skipWhitespace_cons solid]

theorem listencodeItems_first {depth : Nat} {item : PyVal} {items : List PyVal} {text : PyStr}
    (encoded : listencodeItems maxStrDigits floatRepr depth true (item :: items) = .ok text) :
    ∃ head tail, listencodeObj maxStrDigits floatRepr depth item = .ok head ∧
      listencodeItems maxStrDigits floatRepr depth false items = .ok tail ∧ text = head ++ tail := by
  obtain ⟨head, tail, encodedHead, encodedTail, rfl⟩ := listencodeItems_cons encoded
  exact ⟨head, tail, encodedHead, encodedTail, by rw [if_pos rfl, List.nil_append]⟩

theorem listencodeItems_solid {depth : Nat} {items : List PyVal} {text : PyStr}
    (reloads : itemsReload maxStrDigits floatRepr items = true) (nonempty : items ≠ [])
    (encoded : listencodeItems maxStrDigits floatRepr depth true items = .ok text) (after : PyStr) :
    skipWhitespace (text ++ after) = text ++ after := by
  obtain ⟨item, items, rfl⟩ := List.exists_cons_of_ne_nil nonempty
  obtain ⟨head, tail, encodedHead, -, rfl⟩ := listencodeItems_first encoded
  simp only [itemsReload, Bool.and_eq_true] at reloads
  rw [List.append_assoc, skipWhitespace_encoded reloads.1 encodedHead]

theorem listencodeMembers_quote {depth : Nat} {members : List (PyStr × PyVal)} {text : PyStr}
    (nonempty : members ≠ [])
    (encoded : listencodeMembers maxStrDigits floatRepr depth true members = .ok text) :
    ∃ more, text = PyChar.ofChar '"' :: more := by
  obtain ⟨⟨key, value⟩, members, rfl⟩ := List.exists_cons_of_ne_nil nonempty
  obtain ⟨head, tail, -, -, rfl⟩ := listencodeMembers_cons encoded
  rw [if_pos rfl, List.nil_append, encodeBasestringAscii]
  simp only [List.cons_append]
  exact ⟨_, rfl⟩

end Encoded'

section Reload

variable {maxStrDigits : Nat} {floatRepr : PyFloat → PyStr}

mutual

/-- `scan_once_unicode` reads back what `json.dumps` wrote, whatever follows it. -/
theorem scanOnce_listencodeObj : ∀ (v : PyVal) (depth : Nat) (text rest : PyStr),
    v.reloads maxStrDigits floatRepr = true → listencodeObj maxStrDigits floatRepr depth v = .ok text →
      valueEnd rest = true → scanOnce maxStrDigits depth (text ++ rest) = .ok (v, rest)
  | .none, _, _, rest, _, encoded, _ => by
    rw [listencodeObj] at encoded
    cases encoded
    exact scanOnce_constant _ _ (matchConstant_jsonConstants rest).1 ⟨_, _, rfl, rfl, rfl, rfl⟩
  | .bool true, _, _, rest, _, encoded, _ => by
    rw [listencodeObj] at encoded
    cases encoded
    exact scanOnce_constant _ _ (matchConstant_jsonConstants rest).2.1 ⟨_, _, rfl, rfl, rfl, rfl⟩
  | .bool false, _, _, rest, _, encoded, _ => by
    rw [listencodeObj] at encoded
    cases encoded
    exact scanOnce_constant _ _ (matchConstant_jsonConstants rest).2.2.1 ⟨_, _, rfl, rfl, rfl, rfl⟩
  | .float .nan, _, _, rest, _, encoded, _ => by
    rw [listencodeObj] at encoded
    cases encoded
    exact scanOnce_constant _ _ (matchConstant_jsonConstants rest).2.2.2.1 ⟨_, _, rfl, rfl, rfl, rfl⟩
  | .float (.inf false), _, _, rest, _, encoded, _ => by
    rw [listencodeObj] at encoded
    cases encoded
    exact scanOnce_constant _ _ (matchConstant_jsonConstants rest).2.2.2.2.1
      ⟨_, _, rfl, rfl, rfl, rfl⟩
  | .float (.inf true), _, _, rest, _, encoded, _ => by
    rw [listencodeObj] at encoded
    cases encoded
    exact scanOnce_constant _ _ (matchConstant_jsonConstants rest).2.2.2.2.2
      ⟨_, _, rfl, rfl, rfl, rfl⟩
  | .float (.dec _ _ _), depth, _, _, reloads, encoded, stop => by
    rw [listencodeObj] at encoded
    cases encoded
    exact scanOnce_number _ depth (matchNumber_of_floatReadsBack reloads) stop
  | .int _, depth, _, _, _, encoded, stop => by
    rw [listencodeObj] at encoded
    exact scanOnce_intRepr _ depth encoded stop
  | .str _, _, _, rest, reloads, encoded, _ => by
    rw [listencodeObj] at encoded
    cases encoded
    exact scanOnce_encodeBasestringAscii _ _ reloads rest
  | .list _, 0, _, _, _, encoded, _ | .dict _, 0, _, _, _, encoded, _
  | .other _, _, _, _, _, encoded, _ => by
    rw [listencodeObj] at encoded
    cases encoded
  | .list [], depth + 1, _, rest, _, encoded, _ => by
    rw [listencodeObj] at encoded
    cases encoded
    rw [show pyStr "[]" ++ rest = PyChar.ofChar '[' :: PyChar.ofChar ']' :: rest from rfl,
      scanOnce_array, parseArray_close]
  | .list (item :: items), depth + 1, _, rest, reloads, encoded, _ => by
    obtain ⟨body, inner, rfl⟩ := listencodeObj_list encoded
    have itemsLoad : itemsReload maxStrDigits floatRepr (item :: items) = true := reloads
    obtain ⟨head, tail, encodedHead, -, rfl⟩ := listencodeItems_first inner
    simp only [itemsReload, Bool.and_eq_true] at itemsLoad
    obtain ⟨c, more, shape, solid, notClose, -⟩ := listencodeObj_head itemsLoad.1 encodedHead
    have bound := listencodeItems_length inner
    subst shape
    have reshaped : PyChar.ofChar '[' :: (c :: more ++ tail ++ [PyChar.ofChar ']']) ++ rest =
        PyChar.ofChar '[' :: (c :: (more ++ (tail ++ PyChar.ofChar ']' :: rest))) := by simp
    rw [reshaped, scanOnce_array, parseArray_open solid notClose,
      show c :: (more ++ (tail ++ PyChar.ofChar ']' :: rest)) = (c :: more ++ tail) ++ PyChar.ofChar ']' :: rest
        by simp]
    exact parseArrayItems_listencodeItems (item :: items) depth _ [] _ rest reloads
      (List.cons_ne_nil _ _) (by simp only [List.length_append, List.length_cons, if_true] at bound ⊢; omega)
      inner
  | .dict [], depth + 1, _, rest, _, encoded, _ => by
    rw [listencodeObj] at encoded
    cases encoded
    rw [show pyStr "\x7b\x7d" ++ rest = PyChar.ofChar '\x7b' :: PyChar.ofChar '\x7d' :: rest from rfl,
      scanOnce_object, parseObject_close]
  | .dict ((key, value) :: entries), depth + 1, _, rest, reloads, encoded, _ => by
    obtain ⟨body, inner, rfl⟩ := listencodeObj_dict encoded
    simp only [PyVal.reloads, Bool.and_eq_true, decide_eq_true_eq] at reloads
    have bound := listencodeMembers_length inner
    obtain ⟨head, tail, -, -, rfl⟩ := listencodeMembers_cons inner
    simp only [if_true, List.nil_append] at inner bound ⊢
    have reshaped : PyChar.ofChar '\x7b' :: (encodeBasestringAscii key ++ pyStr ": " ++ head ++ tail ++
        [PyChar.ofChar '\x7d']) ++ rest = PyChar.ofChar '\x7b' :: (encodeBasestringAscii key ++
          (pyStr ": " ++ head ++ tail ++ PyChar.ofChar '\x7d' :: rest)) := by simp
    rw [reshaped, scanOnce_object, parseObject_open,
      show encodeBasestringAscii key ++ (pyStr ": " ++ head ++ tail ++ PyChar.ofChar '\x7d' :: rest) =
        (encodeBasestringAscii key ++ pyStr ": " ++ head ++ tail) ++ PyChar.ofChar '\x7d' :: rest by simp]
    exact parseObjectItems_listencodeMembers ((key, value) :: entries) depth _ PyDict.empty _ rest
      reloads.1 (by simpa [PyDict.empty] using reloads.2) (List.cons_ne_nil _ _)
      (by simp only [List.length_append, List.length_cons] at bound ⊢; omega) inner
termination_by structural v => v

theorem parseArrayItems_listencodeItems : ∀ (items : List PyVal) (depth fuel : Nat)
    (acc : List PyVal) (text rest : PyStr), itemsReload maxStrDigits floatRepr items = true → items ≠ [] →
      items.length ≤ fuel → listencodeItems maxStrDigits floatRepr depth true items = .ok text →
        parseArrayItems (scanOnce maxStrDigits depth) fuel acc (text ++ PyChar.ofChar ']' :: rest) =
          .ok (.list (acc ++ items), rest)
  | [], _, _, _, _, _, _, nonempty, _, _ => absurd rfl nonempty
  | _ :: _, _, 0, _, _, _, _, _, bound, _ => absurd bound (by simp)
  | item :: items, depth, fuel + 1, acc, _, rest, reloads, _, bound, encoded => by
    simp only [itemsReload, Bool.and_eq_true] at reloads
    obtain ⟨head, tail, encodedHead, encodedTail, rfl⟩ := listencodeItems_first encoded
    rcases listencodeItems_separated encodedTail with ⟨rfl, rfl⟩ |
      ⟨later, nonempty, rfl, encodedLater⟩
    · rw [List.append_nil,
        parseArrayItems_last (scanOnce_listencodeObj item depth head _ reloads.1 encodedHead rfl)]
    · have read := scanOnce_listencodeObj item depth head _ reloads.1 encodedHead
        (valueEnd_separator (later ++ PyChar.ofChar ']' :: rest))
      rw [List.append_assoc, List.append_assoc,
        parseArrayItems_next read (listencodeItems_solid reloads.2 nonempty encodedLater _),
        parseArrayItems_listencodeItems items depth fuel (acc ++ [item]) later rest reloads.2 nonempty
          (by simpa using bound) encodedLater]
      simp
termination_by structural items => items

theorem parseObjectItems_listencodeMembers : ∀ (members : List (PyStr × PyVal)) (depth fuel : Nat)
    (acc : PyDict PyVal) (text rest : PyStr), membersReload maxStrDigits floatRepr members = true →
      (acc.entries.map Prod.fst ++ members.map Prod.fst).Nodup → members ≠ [] →
      members.length ≤ fuel → listencodeMembers maxStrDigits floatRepr depth true members = .ok text →
        parseObjectItems (scanOnce maxStrDigits depth) fuel acc (text ++ PyChar.ofChar '\x7d' :: rest) =
          .ok (.dict (acc.entries ++ members), rest)
  | [], _, _, _, _, _, _, _, nonempty, _, _ => absurd rfl nonempty
  | _ :: _, _, 0, _, _, _, _, _, _, bound, _ => absurd bound (by simp)
  | (key, value) :: members, depth, fuel + 1, acc, _, rest, reloads, distinct, _, bound, encoded => by
    simp only [membersReload, Bool.and_eq_true] at reloads
    obtain ⟨head, tail, encodedHead, encodedTail, rfl⟩ := listencodeMembers_cons encoded
    have fresh : key ∉ acc.entries.map Prod.fst := by
      simp only [List.map_cons, List.nodup_append, List.disjoint_cons_right] at distinct
      exact distinct.2.2.1
    have added := PyDict.setItem_fresh acc value fresh
    rcases listencodeMembers_separated encodedTail with ⟨rfl, rfl⟩ |
      ⟨later, nonempty, rfl, encodedLater⟩
    · have read := scanOnce_listencodeObj value depth head _ reloads.1.2 encodedHead
        (show valueEnd (PyChar.ofChar '\x7d' :: rest) = true from rfl)
      simp only [if_true, List.nil_append, List.append_nil, List.append_assoc]
      rw [parseObjectItems_member reloads.1.1 (skipWhitespace_encoded reloads.1.2 encodedHead _) read,
        skipWhitespace_cons (c := PyChar.ofChar '\x7d') rfl]
      simp [added]
    · have read := scanOnce_listencodeObj value depth head _ reloads.1.2 encodedHead
        (valueEnd_separator (later ++ PyChar.ofChar '\x7d' :: rest))
      obtain ⟨more, laterText⟩ := listencodeMembers_quote nonempty encodedLater
      have loop := parseObjectItems_listencodeMembers members depth fuel (acc.setItem key value) later
        rest reloads.2 (by simpa [added] using distinct) nonempty (by simpa using bound) encodedLater
      simp only [if_true, List.nil_append, List.append_assoc]
      have laterSolid : skipWhitespace (later ++ PyChar.ofChar '\x7d' :: rest) =
          later ++ PyChar.ofChar '\x7d' :: rest := by
        rw [laterText, List.cons_append]
        exact skipWhitespace_cons (c := PyChar.ofChar '"') rfl _
      rw [parseObjectItems_member reloads.1.1 (skipWhitespace_encoded reloads.1.2 encodedHead _) read,
        commaSpace, List.cons_append, List.cons_append, List.nil_append,
        skipWhitespace_cons (c := PyChar.ofChar ',') rfl]
      dsimp only
      rw [if_neg (by decide), if_pos (is_ofChar ','), skipWhitespace_space, laterSolid, loop, added,
        List.append_assoc]
      rfl
termination_by structural members => members
end

theorem jsonLoads_of_scanOnce {limits : JsonLimits} {c : PyChar} {more : PyStr} {v : PyVal}
    (solid : isJsonWhitespace c = false) (ascii : c.val < 0x80)
    (read : scanOnce limits.maxStrDigits limits.recursionLimit (c :: more) = .ok (v, [])) :
    jsonLoads limits (c :: more) = .ok v := by
  have notMark : startswith (c :: more) [⟨0xFEFF, by decide⟩] = false := by
    simp [startswith, List.isPrefixOf, Fin.ext_iff]
    omega
  rw [jsonLoads, if_neg (by rw [notMark]; decide), skipWhitespace_cons solid, read]
  rfl

theorem scanOnce_jsonDumps {limits : JsonLimits} {floatRepr : PyFloat → PyStr} {v : PyVal}
    {text : PyStr} (reloads : v.reloads limits.maxStrDigits floatRepr = true)
    (dumped : jsonDumps limits floatRepr v = .ok text) :
    scanOnce limits.maxStrDigits limits.recursionLimit text = .ok (v, []) := by
  simpa using scanOnce_listencodeObj v limits.recursionLimit text [] reloads dumped rfl

/-- `json.loads` reads back what `json.dumps` wrote, for every value it rebuilds as it is. -/
theorem jsonLoads_jsonDumps (limits : JsonLimits) (floatRepr : PyFloat → PyStr) (v : PyVal)
    (text : PyStr) (reloads : v.reloads limits.maxStrDigits floatRepr = true)
    (dumped : jsonDumps limits floatRepr v = .ok text) : jsonLoads limits text = .ok v := by
  obtain ⟨c, more, rfl, solid, -, ascii⟩ := listencodeObj_head reloads dumped
  exact jsonLoads_of_scanOnce solid ascii (scanOnce_jsonDumps reloads dumped)

theorem jsonLoads_jsonDumps_nested :
    (PyVal.dict [(pyStr "a", .list [.int (-12), .str (pyStr "é😀"), .float .nan,
      .float (.dec false 15 (-1)), .bool true, .none])]).reloads 4300 (fun _ => pyStr "1.5") = true ∧
    jsonDumps ⟨1000, 4300⟩ (fun _ => pyStr "1.5") (.dict [(pyStr "a", .list [.int (-12),
        .str (pyStr "é😀"), .float .nan, .float (.dec false 15 (-1)), .bool true, .none])]) =
      .ok (pyStr "\x7b\"a\": [-12, \"\\u00e9\\ud83d\\ude00\", NaN, 1.5, true, null]\x7d") ∧
    jsonLoads ⟨1000, 4300⟩
        (pyStr "\x7b\"a\": [-12, \"\\u00e9\\ud83d\\ude00\", NaN, 1.5, true, null]\x7d") =
      .ok (.dict [(pyStr "a", .list [.int (-12), .str (pyStr "é😀"), .float .nan,
        .float (.dec false 15 (-1)), .bool true, .none])]) :=
  ⟨rfl, rfl, jsonLoads_jsonDumps ⟨1000, 4300⟩ (fun _ => pyStr "1.5") _ _ rfl rfl⟩

end Reload

end S4Manifests
