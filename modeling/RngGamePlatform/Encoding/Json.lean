/-
Module: RngGamePlatform.Encoding.Json
Purpose: JSON values and their canonical ASCII text.
Trusted boundary: human-reviewed semantics
Main exports: Json, Json.Same, Json.object, Json.get?, Json.dumps
-/
import Mathlib.Data.List.Nodup
import Mathlib.Tactic.SplitIfs
import RngGamePlatform.Encoding.Binary64

namespace RngGamePlatform.Encoding

/-- A JSON value with finite numbers.  The fields of an object are kept in the
order of their keys, so that equal objects are equal values. -/
inductive Json where
  | null
  | bool (value : Bool)
  | int (value : Int)
  | float (value : FloatText)
  | str (value : PyStr)
  | arr (items : List Json)
  | obj (fields : List (PyStr × Json))

namespace Json

mutual

/-- Equality of JSON values. -/
def beq : Json → Json → Bool
  | .null, .null => true
  | .bool a, .bool b => a == b
  | .int a, .int b => a == b
  | .float a, .float b => a == b
  | .str a, .str b => a == b
  | .arr as, .arr bs => beqItems as bs
  | .obj as, .obj bs => beqFields as bs
  | _, _ => false

def beqItems : List Json → List Json → Bool
  | [], [] => true
  | a :: as, b :: bs => beq a b && beqItems as bs
  | _, _ => false

def beqFields : List (PyStr × Json) → List (PyStr × Json) → Bool
  | [], [] => true
  | (k, a) :: as, (l, b) :: bs => k == l && beq a b && beqFields as bs
  | _, _ => false

end

mutual

theorem eq_of_beq : ∀ {a b : Json}, beq a b = true → a = b
  | .null, b, same => by cases b <;> simp_all [beq]
  | .bool _, b, same => by cases b <;> simp_all [beq]
  | .int _, b, same => by cases b <;> simp_all [beq]
  | .float _, b, same => by cases b <;> simp_all [beq]
  | .str _, b, same => by cases b <;> simp_all [beq]
  | .arr as, b, same => by
      cases b with
      | arr bs => exact congrArg Json.arr (eq_of_beqItems (by simpa [beq] using same))
      | _ => simp [beq] at same
  | .obj as, b, same => by
      cases b with
      | obj bs => exact congrArg Json.obj (eq_of_beqFields (by simpa [beq] using same))
      | _ => simp [beq] at same

theorem eq_of_beqItems : ∀ {as bs : List Json}, beqItems as bs = true → as = bs
  | [], bs, same => by cases bs <;> simp_all [beqItems]
  | a :: as, bs, same => by
      cases bs with
      | nil => simp [beqItems] at same
      | cons b bs =>
          simp only [beqItems, Bool.and_eq_true] at same
          rw [eq_of_beq same.1, eq_of_beqItems same.2]

theorem eq_of_beqFields :
    ∀ {as bs : List (PyStr × Json)}, beqFields as bs = true → as = bs
  | [], bs, same => by cases bs <;> simp_all [beqFields]
  | (k, a) :: as, bs, same => by
      cases bs with
      | nil => simp [beqFields] at same
      | cons pair bs =>
          rcases pair with ⟨l, b⟩
          simp only [beqFields, Bool.and_eq_true, beq_iff_eq] at same
          rw [same.1.1, eq_of_beq same.1.2, eq_of_beqFields same.2]

end

mutual

theorem beq_refl : ∀ a : Json, beq a a = true
  | .null => rfl
  | .bool _ => by simp [beq]
  | .int _ => by simp [beq]
  | .float _ => by simp [beq]
  | .str _ => by simp [beq]
  | .arr as => by simpa [beq] using beqItems_refl as
  | .obj as => by simpa [beq] using beqFields_refl as

theorem beqItems_refl : ∀ as : List Json, beqItems as as = true
  | [] => rfl
  | a :: as => by simp [beqItems, beq_refl a, beqItems_refl as]

theorem beqFields_refl : ∀ as : List (PyStr × Json), beqFields as as = true
  | [] => rfl
  | (_, a) :: as => by simp [beqFields, beq_refl a, beqFields_refl as]

end

instance : DecidableEq Json := fun a b =>
  decidable_of_iff (beq a b = true) ⟨eq_of_beq, fun same => same ▸ beq_refl a⟩

mutual

/-- The value with integers for its booleans, which Python counts as numbers, and for
the floats that equal one. -/
def numeric : Json → Json
  | .null => .null
  | .bool value => .int (if value then 1 else 0)
  | .int value => .int value
  | .float value =>
      match value.integer? with
      | some whole => .int whole
      | none => .float value
  | .str value => .str value
  | .arr items => .arr (numericItems items)
  | .obj fields => .obj (numericFields fields)

def numericItems : List Json → List Json
  | [] => []
  | item :: items => numeric item :: numericItems items

def numericFields : List (PyStr × Json) → List (PyStr × Json)
  | [] => []
  | (key, value) :: fields => (key, numeric value) :: numericFields fields

end

/-- Equality as Python compares decoded values. -/
def Same (one other : Json) : Prop := one.numeric = other.numeric

instance (one other : Json) : Decidable (one.Same other) :=
  inferInstanceAs (Decidable (one.numeric = other.numeric))

theorem Same.refl (value : Json) : value.Same value := rfl

/-- Code-point order of keys. -/
def keyLt : PyStr → PyStr → Bool
  | _, [] => false
  | [], _ :: _ => true
  | a :: as, b :: bs => a < b || a == b && keyLt as bs

/-- Set one field of an object, keeping the key order. -/
def setField (key : PyStr) (value : Json) :
    List (PyStr × Json) → List (PyStr × Json)
  | [] => [(key, value)]
  | (other, old) :: rest =>
      if key = other then (key, value) :: rest
      else if keyLt key other then (key, value) :: (other, old) :: rest
      else (other, old) :: setField key value rest

/-- The object with the given fields; a later field replaces an earlier one of
the same key. -/
def object (fields : List (PyStr × Json)) : Json :=
  .obj (fields.foldl (fun kept field => setField field.1 field.2 kept) [])

/-- The value of a key of an object. -/
def get? (key : PyStr) : Json → Option Json
  | .obj fields => (fields.find? fun field => field.1 = key).map Prod.snd
  | _ => none

private theorem find_setField (key other : PyStr) (value : Json)
    (fields : List (PyStr × Json)) :
    ((setField other value fields).find? fun field => field.1 = key).map Prod.snd =
      if other = key then some value
      else (fields.find? fun field => field.1 = key).map Prod.snd := by
  induction fields with
  | nil => by_cases same : other = key <;> simp [setField, same]
  | cons field rest ih =>
      rcases field with ⟨name, old⟩
      simp only [setField]
      split
      · next same =>
          subst same
          by_cases isKey : other = key <;> simp [isKey]
      · next different =>
          split
          · by_cases isKey : other = key <;> simp [isKey]
          · by_cases isKey : name = key
            · subst isKey
              simp [different]
            · simp only [List.find?_cons, isKey, decide_false, ih]

private theorem find_foldl (key : PyStr) (fields kept : List (PyStr × Json)) :
    ((fields.foldl (fun kept field => setField field.1 field.2 kept) kept).find?
        fun field => field.1 = key).map Prod.snd =
      ((fields.reverse.find? fun field => field.1 = key).map Prod.snd).or
        ((kept.find? fun field => field.1 = key).map Prod.snd) := by
  induction fields generalizing kept with
  | nil => simp
  | cons field rest ih =>
      rw [List.foldl_cons, ih, find_setField, List.reverse_cons, List.find?_append,
        Option.map_or, Option.or_assoc]
      congr 1
      by_cases isKey : field.1 = key <;> simp [isKey]

/-- An object has the last of the values given for a key. -/
theorem get?_object (key : PyStr) (fields : List (PyStr × Json)) :
    (object fields).get? key =
      (fields.reverse.find? fun field => field.1 = key).map Prod.snd := by
  simp [object, get?, find_foldl]

/-- Objects of the same distinct keys are told apart by their values. -/
theorem object_injective {fields others : List (PyStr × Json)}
    (keys : fields.map Prod.fst = others.map Prod.fst)
    (distinct : (fields.map Prod.fst).Nodup) (same : object fields = object others) :
    fields = others := by
  have value : ∀ {list : List (PyStr × Json)}, (list.map Prod.fst).Nodup →
      ∀ field ∈ list, (object list).get? field.1 = some field.2 := by
    intro list nodup field member
    have unique : ∀ other ∈ list, other.1 = field.1 → other = field := by
      intro other inList sameKey
      exact List.inj_on_of_nodup_map nodup inList member sameKey
    rw [get?_object]
    cases found : list.reverse.find? fun other => other.1 = field.1 with
    | none =>
      have absent := List.find?_eq_none.mp found field (List.mem_reverse.mpr member)
      simp at absent
    | some other =>
      have inList := List.mem_reverse.mp (List.mem_of_find?_eq_some found)
      have sameKey : other.1 = field.1 := by simpa using List.find?_some found
      rw [unique other inList sameKey]
      rfl
  apply List.ext_getElem
  · simpa using congrArg List.length keys
  · intro i inFields inOthers
    have sameKey : fields[i].1 = others[i].1 := by
      have position := congrArg (fun names => names[i]?) keys
      simpa [inFields, inOthers] using position
    have ours := value distinct fields[i] (List.getElem_mem inFields)
    have theirs := value (keys ▸ distinct) others[i] (List.getElem_mem inOthers)
    rw [same, sameKey, theirs] at ours
    exact Prod.ext sameKey (Option.some.inj ours).symm

private theorem numericFields_setField {key : PyStr} {value : Json}
    (fixed : value.numeric = value) (fields : List (PyStr × Json)) :
    numericFields (setField key value fields) = setField key value (numericFields fields) := by
  induction fields with
  | nil => simp [setField, numericFields, fixed]
  | cons field rest ih =>
      rcases field with ⟨other, old⟩
      simp only [setField, numericFields]
      split_ifs <;> simp [numericFields, fixed, ih]

/-- An object of texts, integers and nulls has no boolean and no float in it. -/
theorem numeric_object {fields : List (PyStr × Json)}
    (fixed : ∀ field ∈ fields, field.2.numeric = field.2) :
    (object fields).numeric = object fields := by
  have step : ∀ kept, numericFields kept = kept →
      numericFields (fields.foldl (fun kept field => setField field.1 field.2 kept) kept) =
        fields.foldl (fun kept field => setField field.1 field.2 kept) kept := by
    induction fields with
    | nil => exact fun kept isFixed => isFixed
    | cons field rest ih =>
        intro kept isFixed
        apply ih (fun other member => fixed other (List.mem_cons_of_mem _ member))
        rw [numericFields_setField (fixed field List.mem_cons_self), isFixed]
  exact congrArg Json.obj (step [] rfl)

/-- The JSON value of an optional one. -/
def ofOption {α : Type} (encode : α → Json) : Option α → Json
  | some value => encode value
  | none => .null

theorem numeric_ofOption {α : Type} {encode : α → Json}
    (fixed : ∀ value, (encode value).numeric = encode value) (value : Option α) :
    (ofOption encode value).numeric = ofOption encode value := by
  cases value with
  | none => rfl
  | some value => exact fixed value

theorem ofOption_injective {α : Type} {encode : α → Json}
    (injective : ∀ one other, encode one = encode other → one = other)
    (notNull : ∀ value, encode value ≠ .null) {one other : Option α}
    (same : ofOption encode one = ofOption encode other) : one = other := by
  cases one with
  | none =>
      cases other with
      | none => rfl
      | some value => exact absurd same.symm (notNull value)
  | some value =>
      cases other with
      | none => exact absurd same (notNull value)
      | some value' => exact congrArg some (injective value value' same)

/-- The `\uXXXX` escape of a 16-bit code unit. -/
def unicodeEscape (unit : Nat) : PyStr :=
  py "\\u" ++ [digit (unit / 4096 % 16), digit (unit / 256 % 16),
    digit (unit / 16 % 16), digit (unit % 16)]

/-- One character inside a string literal, escaped so that the text is ASCII. -/
def escape (c : CodePoint) : PyStr :=
  if c = codePoint '"' then py "\\\""
  else if c = codePoint '\\' then py "\\\\"
  else if c.val = 10 then py "\\n"
  else if c.val = 13 then py "\\r"
  else if c.val = 9 then py "\\t"
  else if c.val = 12 then py "\\f"
  else if c.val = 8 then py "\\b"
  else if 32 ≤ c.val ∧ c.val ≤ 126 then [c]
  else if c.val < 0x10000 then unicodeEscape c.val
  else
    unicodeEscape (0xD800 + (c.val - 0x10000) / 1024) ++
      unicodeEscape (0xDC00 + (c.val - 0x10000) % 1024)

/-- A string literal. -/
def quote (text : PyStr) : PyStr :=
  codePoint '"' :: (text.flatMap escape ++ [codePoint '"'])

mutual

/-- The text with sorted keys, no blanks and ASCII characters only. -/
def dumps : Json → PyStr
  | .null => py "null"
  | .bool true => py "true"
  | .bool false => py "false"
  | .int value => decimal value
  | .float value => value.text
  | .str value => quote value
  | .arr items => codePoint '[' :: (dumpsItems items ++ [codePoint ']'])
  | .obj fields => codePoint '{' :: (dumpsFields fields ++ [codePoint '}'])

def dumpsItems : List Json → PyStr
  | [] => []
  | [item] => dumps item
  | item :: items => dumps item ++ codePoint ',' :: dumpsItems items

def dumpsFields : List (PyStr × Json) → PyStr
  | [] => []
  | [(key, value)] => quote key ++ codePoint ':' :: dumps value
  | (key, value) :: fields =>
      quote key ++ codePoint ':' :: dumps value ++
        codePoint ',' :: dumpsFields fields

end

example :
    dumps (arr [.int (-3), .str (py "x\ty")]) = py "[-3,\"x\\ty\"]" := by decide

end Json

end RngGamePlatform.Encoding
