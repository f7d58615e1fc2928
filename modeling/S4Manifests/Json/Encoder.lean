import S4Manifests.Json.Scanner

/-!
`json.dumps(obj)` with its default arguments, as CPython 3.12 runs it: `JSONEncoder.encode` on
the C encoder of `Modules/_json.c` (`listencodeObj` is `encoder_listencode_obj`), with
`ensure_ascii`, `allow_nan`, the separators `', '` and `': '`, and keys in insertion order. Its
recursion guard counts from the same budget as the scanner's.
-/

namespace S4Manifests

def hexDigit (n : Nat) : PyChar := PyChar.ofChar (Nat.digitChar n)

def escapeUnit (unit : Nat) : PyStr :=
  pyStr "\\u" ++ [hexDigit (unit / 0x1000 % 0x10), hexDigit (unit / 0x100 % 0x10),
    hexDigit (unit / 0x10 % 0x10), hexDigit (unit % 0x10)]

def sChar (c : PyChar) : Bool := ' '.toNat ≤ c.val && c.val ≤ '~'.toNat && !c.is '\\' && !c.is '"'

def asciiEscapeUnichar (c : PyChar) : PyStr :=
  match c.val with
  | 0x5C => [PyChar.ofChar '\\', c]
  | 0x22 => [PyChar.ofChar '\\', c]
  | 8 => pyStr "\\b"
  | 12 => pyStr "\\f"
  | 10 => pyStr "\\n"
  | 13 => pyStr "\\r"
  | 9 => pyStr "\\t"
  | code =>
    if 0x10000 ≤ code then
      escapeUnit (0xD800 - 0x40 + code / 0x400) ++ escapeUnit (0xDC00 + code % 0x400)
    else escapeUnit code

def escapeChar (c : PyChar) : PyStr := if sChar c then [c] else asciiEscapeUnichar c

def encodeBasestringAscii (s : PyStr) : PyStr :=
  PyChar.ofChar '"' :: (s.map escapeChar).flatten ++ [PyChar.ofChar '"']

def intRepr (maxStrDigits : Nat) (n : Int) : Except PyException PyStr :=
  let text := (if n < 0 then pyStr "-" else []) ++ decimalStr n.natAbs
  if 640 < text.length && 0 < maxStrDigits && maxStrDigits < (decimalStr n.natAbs).length then
    .error (.reprValueError maxStrDigits)
  else .ok text

def encodeFloat (floatRepr : PyFloat → PyStr) : PyFloat → PyStr
  | .nan => pyStr "NaN"
  | .inf false => pyStr "Infinity"
  | .inf true => pyStr "-Infinity"
  | x => floatRepr x

section Encoder

variable (maxStrDigits : Nat) (floatRepr : PyFloat → PyStr)

mutual

def listencodeObj : Nat → PyVal → Except PyException PyStr
  | _, .none => .ok (pyStr "null")
  | _, .bool b => .ok (if b then pyStr "true" else pyStr "false")
  | _, .str s => .ok (encodeBasestringAscii s)
  | _, .int n => intRepr maxStrDigits n
  | _, .float x => .ok (encodeFloat floatRepr x)
  | 0, .list _ => .error .recursionError
  | _ + 1, .list [] => .ok (pyStr "[]")
  | depth + 1, .list (item :: items) =>
    (listencodeItems depth true (item :: items)).map (pyStr "[" ++ · ++ pyStr "]")
  | 0, .dict _ => .error .recursionError
  | _ + 1, .dict [] => .ok (pyStr "\x7b\x7d")
  | depth + 1, .dict (entry :: entries) =>
    (listencodeMembers depth true (entry :: entries)).map (pyStr "\x7b" ++ · ++ pyStr "\x7d")
  | _, .other cls => .error (.typeError ("Object of type " ++ cls ++ " is not JSON serializable"))

def listencodeItems : Nat → Bool → List PyVal → Except PyException PyStr
  | _, _, [] => .ok []
  | depth, first, item :: items => do
    let text ← listencodeObj depth item
    let rest ← listencodeItems depth false items
    return (if first then [] else pyStr ", ") ++ text ++ rest

def listencodeMembers : Nat → Bool → List (PyStr × PyVal) → Except PyException PyStr
  | _, _, [] => .ok []
  | depth, first, (key, value) :: members => do
    let text ← listencodeObj depth value
    let rest ← listencodeMembers depth false members
    return (if first then [] else pyStr ", ") ++ encodeBasestringAscii key ++ pyStr ": " ++ text ++
      rest

end

variable {maxStrDigits floatRepr}

theorem listencodeItems_cons_ok {depth : Nat} {first : Bool} {item : PyVal} {items : List PyVal}
    {head tail : PyStr} (encodedHead : listencodeObj maxStrDigits floatRepr depth item = .ok head)
    (encodedTail : listencodeItems maxStrDigits floatRepr depth false items = .ok tail) :
    listencodeItems maxStrDigits floatRepr depth first (item :: items) =
      .ok ((if first then [] else pyStr ", ") ++ head ++ tail) := by
  rw [listencodeItems, encodedHead, encodedTail]
  rfl

theorem listencodeMembers_cons_ok {depth : Nat} {first : Bool} {key : PyStr} {value : PyVal}
    {members : List (PyStr × PyVal)} {head tail : PyStr}
    (encodedHead : listencodeObj maxStrDigits floatRepr depth value = .ok head)
    (encodedTail : listencodeMembers maxStrDigits floatRepr depth false members = .ok tail) :
    listencodeMembers maxStrDigits floatRepr depth first ((key, value) :: members) =
      .ok ((if first then [] else pyStr ", ") ++ encodeBasestringAscii key ++ pyStr ": " ++ head ++
        tail) := by
  rw [listencodeMembers, encodedHead, encodedTail]
  rfl

end Encoder

def jsonDumps (limits : JsonLimits) (floatRepr : PyFloat → PyStr) (obj : PyVal) :
    Except PyException PyStr :=
  listencodeObj limits.maxStrDigits floatRepr limits.recursionLimit obj

mutual

def PyVal.dumpable (maxStrDigits : Nat) : Nat → PyVal → Bool
  | _, .int n => (intRepr maxStrDigits n).toBool
  | 0, .list _ => false
  | depth + 1, .list items => itemsDumpable maxStrDigits depth items
  | 0, .dict _ => false
  | depth + 1, .dict entries => membersDumpable maxStrDigits depth entries
  | _, .other _ => false
  | _, _ => true

def itemsDumpable (maxStrDigits : Nat) : Nat → List PyVal → Bool
  | _, [] => true
  | depth, item :: items => item.dumpable maxStrDigits depth && itemsDumpable maxStrDigits depth items

def membersDumpable (maxStrDigits : Nat) : Nat → List (PyStr × PyVal) → Bool
  | _, [] => true
  | depth, (_, value) :: members =>
    value.dumpable maxStrDigits depth && membersDumpable maxStrDigits depth members

end

@[simp] theorem PyVal.dumpable_dict (maxStrDigits depth : Nat) (entries : List (PyStr × PyVal)) :
    (PyVal.dict entries).dumpable maxStrDigits (depth + 1) = membersDumpable maxStrDigits depth entries :=
  rfl

@[simp] theorem PyVal.dumpable_list (maxStrDigits depth : Nat) (items : List PyVal) :
    (PyVal.list items).dumpable maxStrDigits (depth + 1) = itemsDumpable maxStrDigits depth items :=
  rfl

@[simp] theorem PyVal.dumpable_int (maxStrDigits depth : Nat) (n : Int) :
    (PyVal.int n).dumpable maxStrDigits depth = (intRepr maxStrDigits n).toBool := by
  cases depth <;> rfl

@[simp] theorem PyVal.dumpable_str (maxStrDigits depth : Nat) (s : PyStr) :
    (PyVal.str s).dumpable maxStrDigits depth = true := by
  cases depth <;> rfl

@[simp] theorem PyVal.dumpable_float (maxStrDigits depth : Nat) (x : PyFloat) :
    (PyVal.float x).dumpable maxStrDigits depth = true := by
  cases depth <;> rfl

@[simp] theorem PyVal.dumpable_bool (maxStrDigits depth : Nat) (b : Bool) :
    (PyVal.bool b).dumpable maxStrDigits depth = true := by
  cases depth <;> rfl

theorem Except.toBool_map {ε α β : Type} (f : α → β) (x : Except ε α) : (x.map f).toBool = x.toBool := by
  cases x <;> rfl

section Dumpable

variable (maxStrDigits : Nat) (floatRepr : PyFloat → PyStr)

mutual

theorem listencodeObj_toBool : ∀ (depth : Nat) (v : PyVal),
    (listencodeObj maxStrDigits floatRepr depth v).toBool = v.dumpable maxStrDigits depth
  | 0, .list _ | 0, .dict _ | _ + 1, .list [] | _ + 1, .dict [] => rfl
  | depth + 1, .list (item :: items) =>
    (Except.toBool_map _ _).trans (listencodeItems_toBool depth true (item :: items))
  | depth + 1, .dict (entry :: entries) =>
    (Except.toBool_map _ _).trans (listencodeMembers_toBool depth true (entry :: entries))
  | depth, .none | depth, .bool _ | depth, .int _ | depth, .float _ | depth, .str _
  | depth, .other _ => by cases depth <;> rfl
termination_by structural _ v => v

theorem listencodeItems_toBool : ∀ (depth : Nat) (first : Bool) (items : List PyVal),
    (listencodeItems maxStrDigits floatRepr depth first items).toBool =
      itemsDumpable maxStrDigits depth items
  | _, _, [] => rfl
  | depth, first, item :: items => by
    rw [listencodeItems, itemsDumpable, ← listencodeObj_toBool depth item,
      ← listencodeItems_toBool depth false items]
    cases listencodeObj maxStrDigits floatRepr depth item <;>
      cases listencodeItems maxStrDigits floatRepr depth false items <;> rfl
termination_by structural _ _ items => items

theorem listencodeMembers_toBool : ∀ (depth : Nat) (first : Bool) (members : List (PyStr × PyVal)),
    (listencodeMembers maxStrDigits floatRepr depth first members).toBool =
      membersDumpable maxStrDigits depth members
  | _, _, [] => rfl
  | depth, first, (key, value) :: members => by
    rw [listencodeMembers, membersDumpable, ← listencodeObj_toBool depth value,
      ← listencodeMembers_toBool depth false members]
    cases listencodeObj maxStrDigits floatRepr depth value <;>
      cases listencodeMembers maxStrDigits floatRepr depth false members <;> rfl
termination_by structural _ _ members => members

end

end Dumpable

/-- `json.dumps(obj)` writes `obj` exactly when it is `dumpable` at the recursion limit. -/
theorem jsonDumps_ok_iff (limits : JsonLimits) (floatRepr : PyFloat → PyStr) (obj : PyVal) :
    (∃ text, jsonDumps limits floatRepr obj = .ok text) ↔
      obj.dumpable limits.maxStrDigits limits.recursionLimit = true := by
  rw [← listencodeObj_toBool, jsonDumps]
  cases listencodeObj limits.maxStrDigits floatRepr limits.recursionLimit obj with
  | error e => exact ⟨fun ⟨_, never⟩ => Except.noConfusion never, Bool.noConfusion⟩
  | ok text => exact ⟨fun _ => rfl, fun _ => ⟨text, rfl⟩⟩

end S4Manifests
