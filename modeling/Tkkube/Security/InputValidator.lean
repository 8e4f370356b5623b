import Tkkube.Value

/-!
# Sanitising JSON bodies

`InputValidator.validate_json` of `python_security.py`, which `validate_request` runs on every
parsed JSON body.  It walks a decoded value and hands every key and every string it meets to
`_validate_string`, which tries three lists of attack patterns with `re.search` and then bounds the
length.  The regular-expression engine is not modelled: `search pattern value` stands for
`re.search(pattern, value) is not None`.

`strings d` lists the strings occurring in `d` in the order the walk meets them: `d` itself when
it is a string, and at any depth every key and every string member or item.  The walk is
`(strings d).forM`: it raises exactly when one of them is rejected, with the first rejection's
message (`validate_json_rejects_iff`).
-/

namespace Tkkube
namespace Security

/-- `self.sql_injection_patterns`. -/
def sqlInjectionPatterns : List String :=
  ["(?i)(union\\s+select|drop\\s+table|insert\\s+into|delete\\s+from)",
   "(?i)(exec\\s*\\(|script\\s*:|javascript\\s*:)",
   "['\"];?\\s*(drop|alter|create|delete|insert|update)\\s+"]

/-- `self.xss_patterns`. -/
def xssPatterns : List String :=
  ["<script[^>]*>.*?</script>", "(?i)on\\w+\\s*=", "(?i)javascript\\s*:", "(?i)vbscript\\s*:"]

/-- `self.path_traversal_patterns`. -/
def pathTraversalPatterns : List String :=
  ["\\.\\./", "\\.\\.\\\\", "%2e%2e%2f", "%2e%2e%5c"]

/-- `_validate_string(value)`: each pattern list in turn, then the length bound. -/
def validateString (search : String → String → Bool) (value : String) : Except String Unit :=
  if sqlInjectionPatterns.any (search · value) then .error "Potential SQL injection detected"
  else if xssPatterns.any (search · value) then .error "Potential XSS attack detected"
  else if pathTraversalPatterns.any (search · value) then .error "Potential path traversal detected"
  else if value.length > 10000 then .error "String too long"
  else .ok ()

mutual
/-- `validate_json(data)`, with `check` for `_validate_string`. -/
def validateJson (check : String → Except String Unit) : Value → Except String Unit
  | .dict entries => validateEntries check entries
  | .list items => validateItems check items
  | .str s => check s
  | _ => pure ()

/-- A member value or an item: a string is checked, a dict or a list is walked, anything else is
skipped. -/
def validateMember (check : String → Except String Unit) : Value → Except String Unit
  | .str s => check s
  | .dict entries => validateJson check (.dict entries)
  | .list items => validateJson check (.list items)
  | _ => pure ()

/-- The loop over `data.items()`: `_validate_string(str(key))`, then the value. -/
def validateEntries (check : String → Except String Unit) :
    List (String × Value) → Except String Unit
  | [] => pure ()
  | (key, value) :: rest => do
      check key
      validateMember check value
      validateEntries check rest

/-- The loop over the items of a list. -/
def validateItems (check : String → Except String Unit) : List Value → Except String Unit
  | [] => pure ()
  | item :: rest => do
      validateMember check item
      validateItems check rest
end

mutual
/-- The strings occurring in a value, in the order `validate_json` meets them. -/
def strings : Value → List String
  | .str s => [s]
  | .list items => itemStrings items
  | .dict entries => entryStrings entries
  | _ => []

/-- The strings occurring in the items of a list. -/
def itemStrings : List Value → List String
  | [] => []
  | item :: rest => strings item ++ itemStrings rest

/-- The keys and the strings occurring in the values of a dictionary. -/
def entryStrings : List (String × Value) → List String
  | [] => []
  | (key, value) :: rest => key :: strings value ++ entryStrings rest
end

section Walk

variable (check : String → Except String Unit)

theorem forM_singleton (s : String) : [s].forM check = check s := by
  simp only [List.forM_cons', List.forM_nil']
  rcases check s with _ | ⟨⟩ <;> rfl

mutual
/-- `validate_json` checks exactly the strings occurring in the value, in order. -/
theorem validateJson_eq_forM : ∀ d : Value, validateJson check d = (strings d).forM check
  | .dict entries => by rw [validateJson, strings, validateEntries_eq_forM]
  | .list items => by rw [validateJson, strings, validateItems_eq_forM]
  | .str s => by rw [validateJson, strings, forM_singleton]
  | .none | .bool _ | .int _ | .float _ => by simp [validateJson, strings]

theorem validateMember_eq_forM : ∀ v : Value, validateMember check v = (strings v).forM check
  | .str s => by rw [validateMember, strings, forM_singleton]
  | .dict entries => by rw [validateMember, validateJson_eq_forM]
  | .list items => by rw [validateMember, validateJson_eq_forM]
  | .none | .bool _ | .int _ | .float _ => by simp [validateMember, strings]

theorem validateEntries_eq_forM :
    ∀ entries, validateEntries check entries = (entryStrings entries).forM check
  | [] => by simp [validateEntries, entryStrings]
  | (key, value) :: rest => by
      rw [validateEntries, entryStrings, List.forM_append, List.forM_cons', validateMember_eq_forM,
        validateEntries_eq_forM rest, bind_assoc]

theorem validateItems_eq_forM : ∀ items, validateItems check items = (itemStrings items).forM check
  | [] => by simp [validateItems, itemStrings]
  | item :: rest => by
      rw [validateItems, itemStrings, List.forM_append, validateMember_eq_forM,
        validateItems_eq_forM rest]
end

/-- A walk over strings raises exactly when one of them is rejected. -/
theorem forM_error_iff (ss : List String) :
    (∃ msg, ss.forM check = .error msg) ↔ ∃ s ∈ ss, ∃ msg, check s = .error msg := by
  induction ss with
  | nil => simp [pure, Except.pure]
  | cons s ss ih =>
      rw [List.forM_cons']
      rcases hs : check s with msg | ⟨⟩
      · exact ⟨fun _ => ⟨s, List.mem_cons_self _ _, msg, hs⟩, fun _ => ⟨msg, rfl⟩⟩
      · change (∃ msg, ss.forM check = .error msg) ↔ _
        rw [ih]
        constructor
        · rintro ⟨t, ht, msg, hmsg⟩; exact ⟨t, List.mem_cons_of_mem _ ht, msg, hmsg⟩
        · rintro ⟨t, ht, msg, hmsg⟩
          rcases List.mem_cons.mp ht with rfl | ht
          · rw [hs] at hmsg; cases hmsg
          · exact ⟨t, ht, msg, hmsg⟩

end Walk

/-- **`validate_json` rejects exactly the values holding a rejected string.**  For every regular
expression engine and every decoded JSON value `d`, `validate_json(d)` is `_validate_string` run over
the strings occurring in `d` in order, so it raises, with the first rejection's message, exactly
when some string occurring in `d` is rejected, and returns normally otherwise. -/
theorem validate_json_rejects_iff (search : String → String → Bool) (d : Value) :
    validateJson (validateString search) d = (strings d).forM (validateString search) ∧
      ((∃ msg, validateJson (validateString search) d = .error msg) ↔
        ∃ s ∈ strings d, ∃ msg, validateString search s = .error msg) := by
  rw [validateJson_eq_forM]
  exact ⟨rfl, forM_error_iff _ _⟩

end Security
end Tkkube
