import S4Manifests.Python.Text

/-!
`json.loads` on a `str`, as CPython 3.12 runs it: `JSONDecoder.decode` around the C scanner of
`Modules/_json.c` (`scanOnce` is `scan_once_unicode`, `scanString` is `scanstring_unicode`,
`matchNumber` is `_match_number_unicode`). `JsonLimits` holds the recursion limit and
`sys.get_int_max_str_digits()`, where `0` means no limit.
-/

namespace S4Manifests

structure JsonLimits where
  recursionLimit : Nat
  maxStrDigits : Nat

inductive ScanError where
  | stop (left : Nat)
  | decode (msg : String) (left : Nat)
  | intTooLong (limit digits : Nat)
  | recursion

def PyChar.is (c : PyChar) (d : Char) : Bool := c.val == d.toNat

def isJsonWhitespace (c : PyChar) : Bool := c.is ' ' || c.is '\t' || c.is '\n' || c.is '\r'

def skipWhitespace (s : PyStr) : PyStr := s.dropWhile isJsonWhitespace

def isDigit (c : PyChar) : Bool := '0'.toNat ≤ c.val && c.val ≤ '9'.toNat

def hexValue (c : PyChar) : Option (Fin 16) :=
  if isDigit c then some (Fin.ofNat (c.val - '0'.toNat))
  else if 'a'.toNat ≤ c.val && c.val ≤ 'f'.toNat then some (Fin.ofNat (c.val - 'a'.toNat + 10))
  else if 'A'.toNat ≤ c.val && c.val ≤ 'F'.toNat then some (Fin.ofNat (c.val - 'A'.toNat + 10))
  else none

def hex4 (a b c d : PyChar) : Option PyChar := do
  let (a, b, c, d) := (← hexValue a, ← hexValue b, ← hexValue c, ← hexValue d)
  return ⟨a.val * 0x1000 + b.val * 0x100 + c.val * 0x10 + d.val, by omega⟩

def isHighSurrogate (c : PyChar) : Bool := 0xD800 ≤ c.val && c.val ≤ 0xDBFF

def isLowSurrogate (c : PyChar) : Bool := 0xDC00 ≤ c.val && c.val ≤ 0xDFFF

def joinSurrogates (high low : PyChar) (isHigh : isHighSurrogate high) (isLow : isLowSurrogate low) :
    PyChar :=
  ⟨0x10000 + (high.val - 0xD800) * 0x400 + (low.val - 0xDC00), by
    simp only [isHighSurrogate, isLowSurrogate, Bool.and_eq_true, decide_eq_true_eq] at isHigh isLow
    omega⟩

def simpleEscape (c : PyChar) : Option PyChar :=
  if c.is '"' || c.is '\\' || c.is '/' then some c
  else if c.is 'b' then some ⟨8, by decide⟩
  else if c.is 'f' then some ⟨12, by decide⟩
  else if c.is 'n' then some ⟨10, by decide⟩
  else if c.is 'r' then some ⟨13, by decide⟩
  else if c.is 't' then some ⟨9, by decide⟩
  else none

def unicodeEscape (after : PyStr) : Except ScanError (PyChar × PyStr) :=
  match after with
  | h1 :: h2 :: h3 :: h4 :: more =>
    match more, hex4 h1 h2 h3 h4 with
    | [], _ => .error (.decode "Invalid \\uXXXX escape" (after.length + 1))
    | _ :: _, none => .error (.decode "Invalid \\uXXXX escape" (after.length + 1))
    | m :: ms, some unit =>
      if isHigh : isHighSurrogate unit then
        match ms with
        | u :: l1 :: l2 :: l3 :: l4 :: t :: tail =>
          if m.is '\\' && u.is 'u' then
            match hex4 l1 l2 l3 l4 with
            | none => .error (.decode "Invalid \\uXXXX escape" (tail.length + 6))
            | some low =>
              if isLow : isLowSurrogate low then .ok (joinSurrogates unit low isHigh isLow, t :: tail)
              else .ok (unit, m :: u :: l1 :: l2 :: l3 :: l4 :: t :: tail)
          else .ok (unit, m :: u :: l1 :: l2 :: l3 :: l4 :: t :: tail)
        | other => .ok (unit, m :: other)
      else .ok (unit, m :: ms)
  | _ => .error (.decode "Invalid \\uXXXX escape" (after.length + 1))

def stringChar (begin : Nat) : PyStr → Except ScanError (PyChar × PyStr)
  | [] => .error (.decode "Unterminated string starting at" begin)
  | c :: rest =>
    if c.is '\\' then
      match rest with
      | [] => .error (.decode "Unterminated string starting at" begin)
      | e :: after =>
        if e.is 'u' then unicodeEscape after
        else
          match simpleEscape e with
          | some d => .ok (d, after)
          | none => .error (.decode "Invalid \\escape" (rest.length + 1))
    else if c.val ≤ 0x1F then .error (.decode "Invalid control character at" (rest.length + 1))
    else .ok (c, rest)

theorem unicodeEscape_shorter {after rest : PyStr} {d : PyChar}
    (read : unicodeEscape after = .ok (d, rest)) : rest.length < after.length := by
  unfold unicodeEscape at read
  repeat' split at read
  all_goals simp only [Except.ok.injEq, Prod.mk.injEq, reduceCtorEq] at read
  all_goals
    obtain ⟨-, rfl⟩ := read
    simp only [List.length_cons]
    omega

theorem stringChar_shorter {begin : Nat} {s rest : PyStr} {d : PyChar}
    (read : stringChar begin s = .ok (d, rest)) : rest.length < s.length := by
  unfold stringChar at read
  repeat' split at read
  all_goals try simp only [Except.ok.injEq, Prod.mk.injEq, reduceCtorEq] at read
  all_goals first
    | have escaped := unicodeEscape_shorter read
      simp only [List.length_cons]
      omega
    | obtain ⟨-, rfl⟩ := read
      simp only [List.length_cons]
      omega

def scanString (begin : Nat) (acc s : PyStr) : Except ScanError (PyStr × PyStr) :=
  match s with
  | [] => .error (.decode "Unterminated string starting at" begin)
  | c :: rest =>
    if c.is '"' then .ok (acc, rest)
    else
      match read : stringChar begin (c :: rest) with
      | .error e => .error e
      | .ok (d, after) => scanString begin (acc ++ [d]) after
termination_by s.length
decreasing_by exact stringChar_shorter read

def spanDigits (s : PyStr) : PyStr × PyStr := s.span isDigit

def matchInteger : PyStr → Option (PyStr × PyStr)
  | c :: rest =>
    if c.is '0' then some ([c], rest)
    else if isDigit c then some (c :: (spanDigits rest).1, (spanDigits rest).2)
    else none
  | [] => none

def matchFraction : PyStr → Option (PyStr × PyStr)
  | dot :: d :: rest =>
    if dot.is '.' && isDigit d then some (d :: (spanDigits rest).1, (spanDigits rest).2) else none
  | _ => none

def exponentSign : PyStr → Bool × PyStr
  | sign :: more@(_ :: _) =>
    if sign.is '-' then (true, more) else if sign.is '+' then (false, more) else (false, sign :: more)
  | rest => (false, rest)

def matchExponent : PyStr → Option (Bool × PyStr × PyStr)
  | e :: rest =>
    if e.is 'e' || e.is 'E' then
      match spanDigits (exponentSign rest).2 with
      | ([], _) => none
      | (digits, after) => some ((exponentSign rest).1, digits, after)
    else none
  | [] => none

def signed (negative : Bool) (n : Nat) : Int := if negative then -(n : Int) else n

def numberSign : PyStr → Bool
  | c :: _ => c.is '-'
  | [] => false

def matchNumber (maxStrDigits : Nat) (s : PyStr) : Except ScanError (PyVal × PyStr) :=
  let negative := numberSign s
  let unsigned := if negative then s.drop 1 else s
  match matchInteger unsigned with
  | none => .error (.stop s.length)
  | some (intPart, afterInt) =>
    let (fracPart, afterFrac) := (matchFraction afterInt).getD ([], afterInt)
    match matchExponent afterFrac with
    | some (expNegative, expDigits, after) =>
      .ok (.float (.dec negative (decimalValue (intPart ++ fracPart))
        (signed expNegative (decimalValue expDigits) - fracPart.length)), after)
    | none =>
      if fracPart.isEmpty then
        if 640 < intPart.length && 0 < maxStrDigits && maxStrDigits < intPart.length then
          .error (.intTooLong maxStrDigits intPart.length)
        else .ok (.int (signed negative (decimalValue intPart)), afterInt)
      else
        .ok (.float (.dec negative (decimalValue (intPart ++ fracPart)) (-fracPart.length)),
          afterFrac)

def jsonConstants : List (PyStr × PyVal) :=
  [(pyStr "null", .none), (pyStr "true", .bool true), (pyStr "false", .bool false),
    (pyStr "NaN", .float .nan), (pyStr "Infinity", .float (.inf false)),
    (pyStr "-Infinity", .float (.inf true))]

def matchConstant (s : PyStr) : Option (PyVal × PyStr) :=
  jsonConstants.findSome? fun (word, value) =>
    if startswith s word then some (value, s.drop word.length) else none

section Containers

variable (scan : PyStr → Except ScanError (PyVal × PyStr))

def parseArrayItems : Nat → List PyVal → PyStr → Except ScanError (PyVal × PyStr)
  | 0, _, s => .error (.stop s.length)
  | fuel + 1, items, s =>
    match scan s with
    | .error e => .error e
    | .ok (item, after) =>
      match skipWhitespace after with
      | c :: rest =>
        if c.is ']' then .ok (.list (items ++ [item]), rest)
        else if c.is ',' then parseArrayItems fuel (items ++ [item]) (skipWhitespace rest)
        else .error (.decode "Expecting ',' delimiter" (rest.length + 1))
      | [] => .error (.decode "Expecting ',' delimiter" 0)

def parseArray (s : PyStr) : Except ScanError (PyVal × PyStr) :=
  match skipWhitespace s with
  | c :: rest =>
    if c.is ']' then .ok (.list [], rest) else parseArrayItems scan (rest.length + 2) [] (c :: rest)
  | [] => parseArrayItems scan 1 [] []

def parseObjectItems : Nat → PyDict PyVal → PyStr → Except ScanError (PyVal × PyStr)
  | 0, _, s => .error (.stop s.length)
  | fuel + 1, members, s =>
    match s with
    | q :: afterQuote =>
      if q.is '"' then
        match scanString (afterQuote.length + 1) [] afterQuote with
        | .error e => .error e
        | .ok (key, afterKey) =>
          match skipWhitespace afterKey with
          | colon :: afterColon =>
            if colon.is ':' then
              match scan (skipWhitespace afterColon) with
              | .error e => .error e
              | .ok (value, afterValue) =>
                let members := members.setItem key value
                match skipWhitespace afterValue with
                | c :: rest =>
                  if c.is '}' then .ok (.dict members.entries, rest)
                  else if c.is ',' then parseObjectItems fuel members (skipWhitespace rest)
                  else .error (.decode "Expecting ',' delimiter" (rest.length + 1))
                | [] => .error (.decode "Expecting ',' delimiter" 0)
            else .error (.decode "Expecting ':' delimiter" (afterColon.length + 1))
          | [] => .error (.decode "Expecting ':' delimiter" 0)
      else
        .error (.decode "Expecting property name enclosed in double quotes" (afterQuote.length + 1))
    | [] => .error (.decode "Expecting property name enclosed in double quotes" 0)

def parseObject (s : PyStr) : Except ScanError (PyVal × PyStr) :=
  match skipWhitespace s with
  | c :: rest =>
    if c.is '}' then .ok (.dict [], rest)
    else parseObjectItems scan (rest.length + 2) PyDict.empty (c :: rest)
  | [] => parseObjectItems scan 1 PyDict.empty []

end Containers

def scanOnce (maxStrDigits : Nat) : Nat → PyStr → Except ScanError (PyVal × PyStr)
  | _, [] => .error (.stop 0)
  | depth, c :: rest =>
    if c.is '"' then (scanString (rest.length + 1) [] rest).map fun (text, after) => (.str text, after)
    else if c.is '{' then
      match depth with
      | 0 => .error .recursion
      | depth + 1 => parseObject (scanOnce maxStrDigits depth) rest
    else if c.is '[' then
      match depth with
      | 0 => .error .recursion
      | depth + 1 => parseArray (scanOnce maxStrDigits depth) rest
    else
      match matchConstant (c :: rest) with
      | some found => .ok found
      | none => matchNumber maxStrDigits (c :: rest)

inductive LoadsError where
  | decode (msg : String) (pos : Nat)
  | intTooLong (limit digits : Nat)
  | recursion

def LoadsError.toPy : LoadsError → PyException
  | .decode msg pos => .jsonDecodeError msg pos
  | .intTooLong limit digits => .valueError limit digits
  | .recursion => .recursionError

def ScanError.toLoads (length : Nat) : ScanError → LoadsError
  | .stop left => .decode "Expecting value" (length - left)
  | .decode msg left => .decode msg (length - left)
  | .intTooLong limit digits => .intTooLong limit digits
  | .recursion => .recursion

def jsonLoads (limits : JsonLimits) (s : PyStr) : Except LoadsError PyVal :=
  if startswith s [⟨0xFEFF, by decide⟩] then
    .error (.decode "Unexpected UTF-8 BOM (decode using utf-8-sig)" 0)
  else
    match scanOnce limits.maxStrDigits limits.recursionLimit (skipWhitespace s) with
    | .error e => .error (e.toLoads s.length)
    | .ok (value, after) =>
      match skipWhitespace after with
      | [] => .ok value
      | rest => .error (.decode "Extra data" (s.length - rest.length))

end S4Manifests
