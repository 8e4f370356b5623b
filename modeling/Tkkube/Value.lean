import Mathlib.Data.Rat.Defs

/-!
# Python values

The restore orchestrator and the configuration loader pass around the values that `yaml.safe_load`
and `json.loads` produce: `None`, booleans, integers, floats, strings, lists and dictionaries with
string keys.  A dictionary is its list of entries in insertion order, as Python keeps it; reading a
key takes its entry, writing a key replaces the entry in place or appends a new one.

Floats are kept as exact rationals.  `repr` follows Python's `repr` closely enough for the error
texts that embed a value, up to the escaping of special characters in strings and the decimal
rendering of floats.
-/

namespace Tkkube

/-- A decoded YAML or JSON value. -/
inductive Value where
  | none
  | bool (b : Bool)
  | int (n : Int)
  | float (x : ℚ)
  | str (s : String)
  | list (items : List Value)
  | dict (entries : List (String × Value))
  deriving Repr, Inhabited

namespace Value

/-- Python's `type(v).__name__`, which the interpreter's error texts quote. -/
def typeName : Value → String
  | none => "NoneType"
  | bool _ => "bool"
  | int _ => "int"
  | float _ => "float"
  | str _ => "str"
  | list _ => "list"
  | dict _ => "dict"

/-- Python truthiness: `if v:`. -/
def truthy : Value → Bool
  | none => false
  | bool b => b
  | int n => n != 0
  | float x => x != 0
  | str s => !s.isEmpty
  | list items => !items.isEmpty
  | dict entries => !entries.isEmpty

/-- Python's quoting of a string by `repr`: single quotes unless the text holds a single quote and no
double quote. -/
def quote (s : String) : String :=
  if s.data.contains '\'' && !s.data.contains '"' then "\"" ++ s ++ "\"" else "'" ++ s ++ "'"

mutual
/-- Python's `repr` (and `str`, for containers) of a value. -/
def repr : Value → String
  | none => "None"
  | bool b => if b then "True" else "False"
  | int n => toString n
  | float x => toString x
  | str s => quote s
  | list items => "[" ++ reprItems items ++ "]"
  | dict entries => "\x7b" ++ reprEntries entries ++ "\x7d"

/-- The items of a list, separated as Python prints them. -/
def reprItems : List Value → String
  | [] => ""
  | [v] => repr v
  | v :: rest => repr v ++ ", " ++ reprItems rest

/-- The entries of a dictionary, separated as Python prints them. -/
def reprEntries : List (String × Value) → String
  | [] => ""
  | [(k, v)] => quote k ++ ": " ++ repr v
  | (k, v) :: rest => quote k ++ ": " ++ repr v ++ ", " ++ reprEntries rest
end

end Value

/-! ## Dictionaries -/

namespace Dict

/-- `k in d`. -/
def contains (d : List (String × Value)) (k : String) : Bool :=
  d.any (·.1 == k)

/-- `d[k] = v`: an existing entry keeps its position. -/
def setKey (k : String) (v : Value) : List (String × Value) → List (String × Value)
  | [] => [(k, v)]
  | (k', v') :: rest => if k' = k then (k, v) :: rest else (k', v') :: setKey k v rest

/-- `d.update(e)`: the entries of `e` written one after another. -/
def update (d e : List (String × Value)) : List (String × Value) :=
  e.foldl (fun acc kv => setKey kv.1 kv.2 acc) d

@[simp] theorem setKey_nil (k : String) (v : Value) : setKey k v [] = [(k, v)] := rfl

theorem lookup_cons_ne {a k : String} {b : Value} {es : List (String × Value)} (h : a ≠ k) :
    ((k, b) :: es).lookup a = es.lookup a := by
  simp [List.lookup_cons, beq_false_of_ne h]

theorem lookup_setKey_self (k : String) (v : Value) (d : List (String × Value)) :
    (setKey k v d).lookup k = some v := by
  induction d with
  | nil => simp [List.lookup_cons]
  | cons kv rest ih =>
      obtain ⟨k', v'⟩ := kv
      by_cases h : k' = k
      · simp [setKey, h]
      · simp [setKey, h, lookup_cons_ne (Ne.symm h), ih]

theorem lookup_setKey_ne {k j : String} (v : Value) (d : List (String × Value)) (h : j ≠ k) :
    (setKey k v d).lookup j = d.lookup j := by
  induction d with
  | nil => simp [lookup_cons_ne h]
  | cons kv rest ih =>
      obtain ⟨k', v'⟩ := kv
      by_cases hk : k' = k
      · subst hk
        simp [setKey, lookup_cons_ne h]
      · simp [setKey, hk, List.lookup_cons, ih]

theorem lookup_setKey (k j : String) (v : Value) (d : List (String × Value)) :
    (setKey k v d).lookup j = if j = k then some v else d.lookup j := by
  split
  · subst_vars; exact lookup_setKey_self j v d
  · exact lookup_setKey_ne v d ‹_›

@[simp] theorem contains_cons (k k' : String) (v' : Value) (rest : List (String × Value)) :
    contains ((k', v') :: rest) k = (k' == k || contains rest k) := rfl

theorem contains_iff_lookup {d : List (String × Value)} {k : String} :
    contains d k = true ↔ (d.lookup k).isSome := by
  induction d with
  | nil => simp [contains]
  | cons kv rest ih =>
      obtain ⟨k', v'⟩ := kv
      by_cases h : k' = k
      · simp [h]
      · rw [contains_cons, beq_false_of_ne h, Bool.false_or, ih, lookup_cons_ne (Ne.symm h)]

theorem contains_setKey (k j : String) (v : Value) (d : List (String × Value)) :
    contains (setKey k v d) j = (j == k || contains d j) := by
  apply Bool.eq_iff_iff.mpr
  simp only [contains_iff_lookup, lookup_setKey, Bool.or_eq_true, beq_iff_eq]
  split <;> simp_all

/-- Writing the value a key already reads is no change. -/
theorem setKey_of_lookup {k : String} {v : Value} {d : List (String × Value)}
    (h : d.lookup k = some v) : setKey k v d = d := by
  induction d with
  | nil => cases h
  | cons kv rest ih =>
      obtain ⟨k', v'⟩ := kv
      by_cases hk : k' = k
      · subst hk
        simp only [List.lookup_cons, beq_self_eq_true, Option.some.injEq] at h
        simp [setKey, h]
      · rw [lookup_cons_ne (Ne.symm hk)] at h
        simp [setKey, hk, ih h]

@[simp] theorem setKey_setKey_self (k : String) (v w : Value) (d : List (String × Value)) :
    setKey k v (setKey k w d) = setKey k v d := by
  induction d with
  | nil => simp [setKey]
  | cons kv rest ih =>
      obtain ⟨k', v'⟩ := kv
      by_cases hk : k' = k <;> simp [setKey, hk, ih]

/-- Writes of two keys commute when the second is already present: neither appends it. -/
theorem setKey_comm {k j : String} (v w : Value) {d : List (String × Value)}
    (hk : contains d k = true) (hne : j ≠ k) :
    setKey k v (setKey j w d) = setKey j w (setKey k v d) := by
  induction d with
  | nil => cases hk
  | cons kv rest ih =>
      obtain ⟨k', v'⟩ := kv
      by_cases hjk : k' = j
      · subst hjk; simp [setKey, hne]
      · by_cases hkk : k' = k
        · subst hkk; simp [setKey, Ne.symm hne]
        · rw [contains_cons, beq_false_of_ne hkk, Bool.false_or] at hk
          simp [setKey, hjk, hkk, ih hk]

theorem update_cons (d : List (String × Value)) (kv : String × Value) (e : List (String × Value)) :
    update d (kv :: e) = update (setKey kv.1 kv.2 d) e := rfl

/-- After `d.update(e)` a key reads its last value in `e`, or its value in `d`. -/
theorem lookup_update (d e : List (String × Value)) (k : String) :
    (update d e).lookup k = (e.reverse.lookup k).or (d.lookup k) := by
  induction e generalizing d with
  | nil => simp [update]
  | cons kv e ih =>
      rw [update_cons, ih, List.reverse_cons, List.lookup_append, lookup_setKey, Option.or_assoc]
      congr 1
      obtain ⟨k', v'⟩ := kv
      by_cases h : k = k'
      · subst h; simp
      · simp [List.lookup_cons, h, beq_false_of_ne h]

theorem contains_update (d e : List (String × Value)) (k : String) (h : contains d k = true) :
    contains (update d e) k = true := by
  rw [contains_iff_lookup, lookup_update] at *
  cases e.reverse.lookup k <;> simp [h]

theorem setKey_update {k : String} (v : Value) {d e : List (String × Value)}
    (hk : contains d k = true) (he : k ∉ e.map Prod.fst) :
    setKey k v (update d e) = update (setKey k v d) e := by
  induction e generalizing d with
  | nil => rfl
  | cons kv e ih =>
      simp only [List.map_cons, List.mem_cons, not_or] at he
      rw [update_cons, update_cons, ih (by rw [contains_setKey]; simp [hk]) he.2,
        setKey_comm v kv.2 hk (Ne.symm he.1)]

/-- Updating twice with the same keys is updating once with the second values. -/
theorem update_update {d e e' : List (String × Value)} (hkeys : e.map Prod.fst = e'.map Prod.fst)
    (hnd : (e.map Prod.fst).Nodup) : update (update d e) e' = update d e' := by
  induction e generalizing e' d with
  | nil => cases e' <;> simp_all [update]
  | cons kv e ih =>
      obtain ⟨a, x⟩ := kv
      obtain _ | ⟨⟨a', x'⟩, e'⟩ := e'
      · cases hkeys
      simp only [List.map_cons, List.cons.injEq, List.nodup_cons] at hkeys hnd
      obtain ⟨rfl, hkeys⟩ := hkeys
      rw [update_cons, update_cons, update_cons, setKey_update x' (by rw [contains_setKey]; simp) hnd.1,
        setKey_setKey_self, ih hkeys hnd.2]

theorem lookup_eq_none_of_not_mem {d : List (String × Value)} {k : String}
    (h : k ∉ d.map Prod.fst) : d.lookup k = none := by
  induction d with
  | nil => rfl
  | cons kv rest ih =>
      simp only [List.map_cons, List.mem_cons, not_or] at h
      rw [lookup_cons_ne h.1, ih h.2]

/-- With distinct keys, reading the entries backwards reads the same. -/
theorem lookup_reverse {e : List (String × Value)} (h : (e.map Prod.fst).Nodup) (k : String) :
    e.reverse.lookup k = e.lookup k := by
  induction e with
  | nil => rfl
  | cons kv e ih =>
      obtain ⟨k', v'⟩ := kv
      simp only [List.map_cons, List.nodup_cons] at h
      rw [List.reverse_cons, List.lookup_append, ih h.2]
      by_cases hk : k = k'
      · subst hk; simp [lookup_eq_none_of_not_mem h.1]
      · simp [List.lookup_cons, beq_false_of_ne hk]

end Dict

end Tkkube
