import Mathlib.Data.List.Nodup

/-!
The Python values both scripts handle: `str` as a list of code points (`PyStr`), the values
`json` and `psycopg2` hand back (`PyVal`), truth testing, the exceptions a handler can see
(`PyException`), and `dict` assignment (`PyDict.setItem`), which keeps the keys distinct.
-/

namespace S4Manifests

abbrev PyChar := Fin 0x110000

abbrev PyStr := List PyChar

def PyChar.ofChar (c : Char) : PyChar := ⟨c.toNat, by
  have valid := c.valid
  simp only [UInt32.isValidChar, Nat.isValidChar] at valid
  simp only [Char.toNat]
  omega⟩

def pyStr (s : String) : PyStr := s.toList.map PyChar.ofChar

@[simp] theorem pyStr_append (s t : String) : pyStr (s ++ t) = pyStr s ++ pyStr t := by
  simp [pyStr]

inductive PyFloat where
  | dec (negative : Bool) (digits : Nat) (exp10 : Int)
  | nan
  | inf (negative : Bool)
  deriving DecidableEq, Repr

def PyFloat.isZero : PyFloat → Bool
  | .dec _ digits exp10 =>
    digits == 0 || (exp10 < 0 && digits * Nat.pow 2 1075 ≤ Nat.pow 10 (-exp10).toNat)
  | _ => false

inductive PyVal where
  | none
  | bool (b : Bool)
  | int (n : Int)
  | float (x : PyFloat)
  | str (s : PyStr)
  | list (items : List PyVal)
  | dict (entries : List (PyStr × PyVal))
  | other (cls : String)
  deriving Repr

def PyVal.truthy : PyVal → Bool
  | .none => false
  | .bool b => b
  | .int n => n != 0
  | .float x => !x.isZero
  | .str s => !s.isEmpty
  | .list items => !items.isEmpty
  | .dict entries => !entries.isEmpty
  | .other _ => true

def PyVal.typeName : PyVal → String
  | .none => "NoneType"
  | .bool _ => "bool"
  | .int _ => "int"
  | .float _ => "float"
  | .str _ => "str"
  | .list _ => "list"
  | .dict _ => "dict"
  | .other cls => cls

def dictGet (entries : List (PyStr × PyVal)) (key : PyStr) (default : PyVal) : PyVal :=
  (entries.lookup key).getD default

theorem lookup_of_mem {entries : List (PyStr × PyVal)} (keys : (entries.map Prod.fst).Nodup)
    {key : PyStr} {value : PyVal} (member : (key, value) ∈ entries) : entries.lookup key = some value := by
  induction entries with
  | nil => cases member
  | cons entry rest ih =>
    obtain ⟨k, v⟩ := entry
    simp only [List.map_cons, List.nodup_cons] at keys
    rcases List.mem_cons.mp member with same | later
    · cases same
      simp [List.lookup_cons]
    · have differs : (key == k) = false :=
        beq_eq_false_iff_ne.mpr fun same => keys.1 (same ▸ List.mem_map_of_mem Prod.fst later)
      rw [List.lookup_cons, differs, ih keys.2 later]

theorem lookup_of_not_mem {entries : List (PyStr × PyVal)} {key : PyStr}
    (absent : key ∉ entries.map Prod.fst) : entries.lookup key = none := by
  induction entries with
  | nil => rfl
  | cons entry rest ih =>
    obtain ⟨k, v⟩ := entry
    simp only [List.map_cons, List.mem_cons, not_or] at absent
    rw [List.lookup_cons, beq_eq_false_iff_ne.mpr absent.1, ih absent.2]

theorem dictGet_perm {entries loaded : List (PyStr × PyVal)} (perm : entries.Perm loaded)
    (keys : (loaded.map Prod.fst).Nodup) (key : PyStr) (default : PyVal) :
    dictGet entries key default = dictGet loaded key default := by
  have entryKeys : (entries.map Prod.fst).Nodup := (perm.map Prod.fst).nodup_iff.mpr keys
  by_cases present : key ∈ loaded.map Prod.fst
  · obtain ⟨⟨k, value⟩, member, rfl⟩ := List.mem_map.mp present
    simp [dictGet, lookup_of_mem keys member, lookup_of_mem entryKeys (perm.mem_iff.mpr member)]
  · have absent : key ∉ entries.map Prod.fst :=
      fun found => present ((perm.map Prod.fst).mem_iff.mp found)
    simp [dictGet, lookup_of_not_mem present, lookup_of_not_mem absent]

inductive PyException where
  | attributeError (typeName attr : String)
  | typeError (msg : String)
  | unicodeDecodeError (start : Nat)
  | unicodeEncodeError (start : Nat)
  | jsonDecodeError (msg : String) (pos : Nat)
  | valueError (limit digits : Nat)
  | reprValueError (limit : Nat)
  | recursionError
  | clientError (code : Option PyStr)
  | unboundLocalError (name : String)
  | operationalError (description : String)
  | raised (description : String)
  deriving Repr

theorem Except.map_eq_ok {ε α β : Type} {f : α → β} {x : Except ε α} {b : β}
    (mapped : x.map f = .ok b) : ∃ a, x = .ok a ∧ b = f a := by
  cases x with
  | error e => cases mapped
  | ok a => exact ⟨a, rfl, (Except.ok.inj mapped).symm⟩

theorem Except.bind_eq_ok {ε α β : Type} {x : Except ε α} {f : α → Except ε β} {b : β} :
    x >>= f = .ok b ↔ ∃ a, x = .ok a ∧ f a = .ok b := by
  cases x <;> simp [bind, Except.bind]

structure PyDict (α : Type) where
  entries : List (PyStr × α)
  keysNodup : (entries.map Prod.fst).Nodup

variable {α : Type}

def PyDict.empty : PyDict α := ⟨[], List.nodup_nil⟩

theorem map_fst_replace (entries : List (PyStr × α)) (key : PyStr) (value : α) :
    (entries.map fun entry => if entry.1 = key then (key, value) else entry).map Prod.fst =
      entries.map Prod.fst := by
  induction entries with
  | nil => rfl
  | cons entry rest ih => by_cases same : entry.1 = key <;> simp [same, ih]

def PyDict.setItem (d : PyDict α) (key : PyStr) (value : α) : PyDict α :=
  if present : key ∈ d.entries.map Prod.fst then
    ⟨d.entries.map fun entry => if entry.1 = key then (key, value) else entry,
      by rw [map_fst_replace]; exact d.keysNodup⟩
  else
    ⟨d.entries ++ [(key, value)], by
      simpa [List.nodup_append] using And.intro d.keysNodup present⟩

theorem PyDict.setItem_fresh (d : PyDict α) {key : PyStr} (value : α)
    (fresh : key ∉ d.entries.map Prod.fst) :
    (d.setItem key value).entries = d.entries ++ [(key, value)] := by
  simp [PyDict.setItem, fresh]

end S4Manifests
