import S4Manifests.Json.Scanner

/-!
Every value the scanner reads takes up at least one character of the text, so the loops of
`_parse_array_unicode` and `_parse_object_unicode` go round at most as many times as the text is
long: the fuel `parseArray` and `parseObject` give them is never what stops them.
-/

namespace S4Manifests

theorem skipWhitespace_length_le (s : PyStr) : (skipWhitespace s).length ≤ s.length :=
  (List.dropWhile_suffix _).length_le

theorem spanDigits_length_le (s : PyStr) : (spanDigits s).2.length ≤ s.length := by
  rw [spanDigits, List.span_eq_take_drop]
  exact (List.dropWhile_suffix _).length_le

theorem scanString_shorter {begin : Nat} {acc s text after : PyStr}
    (scanned : scanString begin acc s = .ok (text, after)) : after.length < s.length := by
  induction acc, s using scanString.induct begin with
  | case1 acc => simp [scanString] at scanned
  | case2 acc c rest quote =>
    rw [scanString.eq_2, if_pos quote] at scanned
    cases scanned
    simp
  | case3 acc c rest notQuote e failed =>
    rw [scanString.eq_2, if_neg notQuote] at scanned
    split at scanned
    · cases scanned
    · rename_i heq
      rw [failed] at heq
      cases heq
  | case4 acc c rest notQuote d rest' read ih =>
    rw [scanString.eq_2, if_neg notQuote] at scanned
    split at scanned
    · cases scanned
    · rename_i heq
      rw [read] at heq
      cases heq
      have := stringChar_shorter read
      have := ih scanned
      omega

theorem matchConstant_shorter {s after : PyStr} {value : PyVal}
    (matched : matchConstant s = some (value, after)) : after.length < s.length := by
  obtain ⟨⟨word, constant⟩, listed, found⟩ := List.exists_of_findSome?_eq_some matched
  dsimp only at found
  split_ifs at found with prefixed
  cases found
  have named : 0 < word.length := by
    simp only [jsonConstants, List.mem_cons, Prod.mk.injEq, List.not_mem_nil, or_false] at listed
    rcases listed with ⟨rfl, -⟩ | ⟨rfl, -⟩ | ⟨rfl, -⟩ | ⟨rfl, -⟩ | ⟨rfl, -⟩ | ⟨rfl, -⟩ <;> decide
  obtain ⟨rest, rfl⟩ := startswith_iff.mp prefixed
  simp only [List.drop_left, List.length_append]
  omega

theorem matchInteger_shorter {s intPart after : PyStr}
    (matched : matchInteger s = some (intPart, after)) : after.length < s.length := by
  match s with
  | [] => cases matched
  | c :: rest =>
    have spanned := spanDigits_length_le rest
    simp only [matchInteger] at matched
    split_ifs at matched <;> cases matched <;> simp only [List.length_cons] <;> omega

theorem matchFraction_shorter {s fracPart after : PyStr}
    (matched : matchFraction s = some (fracPart, after)) : after.length < s.length := by
  match s with
  | dot :: d :: rest =>
    have spanned := spanDigits_length_le rest
    simp only [matchFraction] at matched
    split_ifs at matched
    cases matched
    simp only [List.length_cons]
    omega
  | [] | [_] => cases matched

theorem exponentSign_length_le (rest : PyStr) : (exponentSign rest).2.length ≤ rest.length := by
  unfold exponentSign
  split
  · split_ifs <;> simp
  · exact Nat.le_refl _

theorem matchExponent_shorter {s digits after : PyStr} {negative : Bool}
    (matched : matchExponent s = some (negative, digits, after)) : after.length < s.length := by
  match s with
  | [] => cases matched
  | e :: rest =>
    have signed := exponentSign_length_le rest
    have spanned := spanDigits_length_le (exponentSign rest).2
    simp only [matchExponent] at matched
    split_ifs at matched
    split at matched
    · cases matched
    · rename_i spannedEq
      cases matched
      rw [spannedEq] at spanned
      dsimp only at spanned
      simp only [List.length_cons]
      omega

theorem matchNumber_shorter {maxStrDigits : Nat} {s after : PyStr} {value : PyVal}
    (matched : matchNumber maxStrDigits s = .ok (value, after)) : after.length < s.length := by
  have unsignedShort : (if numberSign s then s.drop 1 else s).length ≤ s.length := by
    split <;> simp
  unfold matchNumber at matched
  dsimp only at matched
  split at matched
  · cases matched
  · rename_i intPart afterInt integer
    have intShort := matchInteger_shorter integer
    have fracShort : ((matchFraction afterInt).getD ([], afterInt)).2.length ≤ afterInt.length := by
      cases fraction : matchFraction afterInt with
      | none => simp
      | some found => simpa using Nat.le_of_lt (matchFraction_shorter fraction)
    split at matched
    · rename_i exponent
      cases matched
      have := matchExponent_shorter exponent
      omega
    · split_ifs at matched <;> cases matched <;> omega

section Containers

variable {scan : PyStr → Except ScanError (PyVal × PyStr)}
  (shorter : ∀ {s after : PyStr} {value : PyVal}, scan s = .ok (value, after) → after.length < s.length)
include shorter

theorem parseArrayItems_step (items : List PyVal) (s : PyStr) :
    ((∀ value after, parseArrayItems scan 1 items s = .ok (value, after) → after.length < s.length) ∧
      ∀ fuel, parseArrayItems scan (fuel + 1) items s = parseArrayItems scan 1 items s) ∨
    ∃ items' s', s'.length < s.length ∧
      ∀ fuel, parseArrayItems scan (fuel + 1) items s = parseArrayItems scan fuel items' s' := by
  cases scanned : scan s with
  | error e => exact .inl ⟨by simp [parseArrayItems, scanned], by simp [parseArrayItems, scanned]⟩
  | ok result =>
    obtain ⟨item, afterItem⟩ := result
    have itemShort := shorter scanned
    have skipShort := skipWhitespace_length_le afterItem
    cases skipped : skipWhitespace afterItem with
    | nil => exact .inl ⟨by simp [parseArrayItems, scanned, skipped],
        by simp [parseArrayItems, scanned, skipped]⟩
    | cons c rest =>
      rw [skipped, List.length_cons] at skipShort
      by_cases close : c.is ']'
      · refine .inl ⟨fun value after done => ?_, by simp [parseArrayItems, scanned, skipped, close]⟩
        simp only [parseArrayItems, scanned, skipped, close, if_true, Except.ok.injEq,
          Prod.mk.injEq] at done
        obtain ⟨-, rfl⟩ := done
        omega
      · by_cases comma : c.is ','
        · refine .inr ⟨items ++ [item], skipWhitespace rest, ?_,
            by simp [parseArrayItems, scanned, skipped, close, comma]⟩
          have := skipWhitespace_length_le rest
          omega
        · exact .inl ⟨by simp [parseArrayItems, scanned, skipped, close, comma],
            by simp [parseArrayItems, scanned, skipped, close, comma]⟩

theorem parseArrayItems_shorter {fuel : Nat} {items : List PyVal} {s after : PyStr} {value : PyVal}
    (parsed : parseArrayItems scan fuel items s = .ok (value, after)) : after.length < s.length := by
  induction fuel generalizing items s with
  | zero => cases parsed
  | succ fuel ih =>
    rcases parseArrayItems_step shorter items s with ⟨finished, sameResult⟩ | ⟨items', s', shorterText, next⟩
    · exact finished _ _ (sameResult fuel ▸ parsed)
    · exact (ih (next fuel ▸ parsed)).trans shorterText

theorem parseArrayItems_fuel {fuel fuel' : Nat} {items : List PyVal} {s : PyStr}
    (enough : s.length < fuel) (enough' : s.length < fuel') :
    parseArrayItems scan fuel items s = parseArrayItems scan fuel' items s := by
  induction fuel generalizing fuel' items s with
  | zero => omega
  | succ fuel ih =>
    obtain ⟨fuel', rfl⟩ : ∃ f, fuel' = f + 1 := ⟨fuel' - 1, by omega⟩
    rcases parseArrayItems_step shorter items s with ⟨-, sameResult⟩ | ⟨items', s', shorterText, next⟩
    · rw [sameResult fuel, sameResult fuel']
    · rw [next fuel, next fuel']
      exact ih (by omega) (by omega)

theorem parseObjectItems_step (members : PyDict PyVal) (s : PyStr) :
    ((∀ value after, parseObjectItems scan 1 members s = .ok (value, after) →
        after.length < s.length) ∧
      ∀ fuel, parseObjectItems scan (fuel + 1) members s = parseObjectItems scan 1 members s) ∨
    ∃ members' s', s'.length < s.length ∧
      ∀ fuel, parseObjectItems scan (fuel + 1) members s = parseObjectItems scan fuel members' s' := by
  match s with
  | [] => exact .inl ⟨by simp [parseObjectItems], by simp [parseObjectItems]⟩
  | q :: afterQuote =>
    by_cases quote : q.is '"'
    swap
    · exact .inl ⟨by simp [parseObjectItems, quote], by simp [parseObjectItems, quote]⟩
    cases key : scanString (afterQuote.length + 1) [] afterQuote with
    | error e =>
      exact .inl ⟨by simp [parseObjectItems, quote, key], by simp [parseObjectItems, quote, key]⟩
    | ok keyRead =>
      obtain ⟨k, afterKey⟩ := keyRead
      have keyShort := scanString_shorter key
      have skipKey := skipWhitespace_length_le afterKey
      cases colonSkipped : skipWhitespace afterKey with
      | nil => exact .inl ⟨by simp [parseObjectItems, quote, key, colonSkipped],
          by simp [parseObjectItems, quote, key, colonSkipped]⟩
      | cons colon afterColon =>
        rw [colonSkipped, List.length_cons] at skipKey
        by_cases isColon : colon.is ':'
        swap
        · exact .inl ⟨by simp [parseObjectItems, quote, key, colonSkipped, isColon],
            by simp [parseObjectItems, quote, key, colonSkipped, isColon]⟩
        have skipColon := skipWhitespace_length_le afterColon
        cases scanned : scan (skipWhitespace afterColon) with
        | error e => exact .inl ⟨by simp [parseObjectItems, quote, key, colonSkipped, isColon, scanned],
            by simp [parseObjectItems, quote, key, colonSkipped, isColon, scanned]⟩
        | ok valueRead =>
          obtain ⟨v, afterValue⟩ := valueRead
          have valueShort := shorter scanned
          have skipValue := skipWhitespace_length_le afterValue
          cases valueSkipped : skipWhitespace afterValue with
          | nil =>
            exact .inl
              ⟨by simp [parseObjectItems, quote, key, colonSkipped, isColon, scanned, valueSkipped],
                by simp [parseObjectItems, quote, key, colonSkipped, isColon, scanned, valueSkipped]⟩
          | cons c rest =>
            rw [valueSkipped, List.length_cons] at skipValue
            by_cases close : c.is '}'
            · refine .inl ⟨fun value after done => ?_, by
                simp [parseObjectItems, quote, key, colonSkipped, isColon, scanned, valueSkipped, close]⟩
              simp only [parseObjectItems, quote, key, colonSkipped, isColon, scanned, valueSkipped,
                close, if_true, Except.ok.injEq, Prod.mk.injEq] at done
              obtain ⟨-, rfl⟩ := done
              simp only [List.length_cons]
              omega
            · by_cases comma : c.is ','
              · refine .inr ⟨members.setItem k v, skipWhitespace rest, ?_, by
                  simp [parseObjectItems, quote, key, colonSkipped, isColon, scanned, valueSkipped,
                    close, comma]⟩
                have := skipWhitespace_length_le rest
                simp only [List.length_cons]
                omega
              · exact .inl ⟨by simp [parseObjectItems, quote, key, colonSkipped, isColon, scanned,
                    valueSkipped, close, comma],
                  by simp [parseObjectItems, quote, key, colonSkipped, isColon, scanned, valueSkipped,
                    close, comma]⟩

theorem parseObjectItems_shorter {fuel : Nat} {members : PyDict PyVal} {s after : PyStr}
    {value : PyVal} (parsed : parseObjectItems scan fuel members s = .ok (value, after)) :
    after.length < s.length := by
  induction fuel generalizing members s with
  | zero => cases parsed
  | succ fuel ih =>
    rcases parseObjectItems_step shorter members s with
      ⟨finished, sameResult⟩ | ⟨members', s', shorterText, next⟩
    · exact finished _ _ (sameResult fuel ▸ parsed)
    · exact (ih (next fuel ▸ parsed)).trans shorterText

theorem parseObjectItems_fuel {fuel fuel' : Nat} {members : PyDict PyVal} {s : PyStr}
    (enough : s.length < fuel) (enough' : s.length < fuel') :
    parseObjectItems scan fuel members s = parseObjectItems scan fuel' members s := by
  induction fuel generalizing fuel' members s with
  | zero => omega
  | succ fuel ih =>
    obtain ⟨fuel', rfl⟩ : ∃ f, fuel' = f + 1 := ⟨fuel' - 1, by omega⟩
    rcases parseObjectItems_step shorter members s with
      ⟨-, sameResult⟩ | ⟨members', s', shorterText, next⟩
    · rw [sameResult fuel, sameResult fuel']
    · rw [next fuel, next fuel']
      exact ih (by omega) (by omega)

theorem parseArray_shorter {s after : PyStr} {value : PyVal}
    (parsed : parseArray scan s = .ok (value, after)) : after.length < s.length := by
  have skipShort := skipWhitespace_length_le s
  unfold parseArray at parsed
  split at parsed
  · rename_i c rest skipped
    rw [skipped, List.length_cons] at skipShort
    split_ifs at parsed
    · simp only [Except.ok.injEq, Prod.mk.injEq] at parsed
      obtain ⟨-, rfl⟩ := parsed
      omega
    · have := parseArrayItems_shorter shorter parsed
      simp only [List.length_cons] at this
      omega
  · exact absurd (parseArrayItems_shorter shorter parsed) (Nat.not_lt_zero _)

theorem parseObject_shorter {s after : PyStr} {value : PyVal}
    (parsed : parseObject scan s = .ok (value, after)) : after.length < s.length := by
  have skipShort := skipWhitespace_length_le s
  unfold parseObject at parsed
  split at parsed
  · rename_i c rest skipped
    rw [skipped, List.length_cons] at skipShort
    split_ifs at parsed
    · simp only [Except.ok.injEq, Prod.mk.injEq] at parsed
      obtain ⟨-, rfl⟩ := parsed
      omega
    · have := parseObjectItems_shorter shorter parsed
      simp only [List.length_cons] at this
      omega
  · exact absurd (parseObjectItems_shorter shorter parsed) (Nat.not_lt_zero _)

end Containers

/-- Every value `scan_once_unicode` reads takes up at least one character of the text. -/
theorem scanOnce_shorter {maxStrDigits : Nat} :
    ∀ {depth : Nat} {s after : PyStr} {value : PyVal},
      scanOnce maxStrDigits depth s = .ok (value, after) → after.length < s.length
  | _, [], _, _, scanned => by simp [scanOnce] at scanned
  | depth, c :: rest, after, value, scanned => by
    rw [scanOnce.eq_def] at scanned
    dsimp only at scanned
    split_ifs at scanned with quote brace bracket
    · cases read : scanString (rest.length + 1) [] rest with
      | error e => simp [read, Except.map] at scanned
      | ok found =>
        simp only [read, Except.map, Except.ok.injEq, Prod.mk.injEq] at scanned
        obtain ⟨-, rfl⟩ := scanned
        have := scanString_shorter read
        simp only [List.length_cons]
        omega
    · match depth with
      | 0 => cases scanned
      | depth + 1 =>
        have := parseObject_shorter scanOnce_shorter scanned
        simp only [List.length_cons]
        omega
    · match depth with
      | 0 => cases scanned
      | depth + 1 =>
        have := parseArray_shorter scanOnce_shorter scanned
        simp only [List.length_cons]
        omega
    · split at scanned
      · cases scanned
        exact matchConstant_shorter ‹_›
      · exact matchNumber_shorter scanned

/-- The fuel of the container loops never stops them. -/
theorem containerLoops_fuel (maxStrDigits depth : Nat) (s : PyStr) (fuel : Nat)
    (enough : s.length < fuel) :
    (∀ items, parseArrayItems (scanOnce maxStrDigits depth) fuel items s =
      parseArrayItems (scanOnce maxStrDigits depth) (s.length + 1) items s) ∧
    ∀ members, parseObjectItems (scanOnce maxStrDigits depth) fuel members s =
      parseObjectItems (scanOnce maxStrDigits depth) (s.length + 1) members s :=
  ⟨fun _ => parseArrayItems_fuel scanOnce_shorter enough (Nat.lt_succ_self _),
    fun _ => parseObjectItems_fuel scanOnce_shorter enough (Nat.lt_succ_self _)⟩

end S4Manifests
