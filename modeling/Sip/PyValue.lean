import Sip.Errors

/-!
# What the interpreter does with a JSON value

Truth, length, iteration, subscripts, hashing and equality of the values that
`json.loads` produces, with the exceptions they raise. Booleans are numbers, and
numbers are equal when their values are.
-/

namespace Sip

set_option autoImplicit false

/-- An optional text that `if value` takes: present and not empty. -/
def given (value : Option String) : Option String := value.filter fun text => text ≠ ""

namespace Json

/-- The number behind a value that compares with numbers. -/
def rat? : Json → Option Rat
  | .bool b => some (if b then 1 else 0)
  | .int n => some n
  | .float x => some x.value
  | _ => none

def text? : Json → Option String
  | .str s => some s
  | _ => none

def fields? : Json → Option Dict
  | .obj fields => some fields
  | _ => none

def isArr : Json → Bool
  | .arr _ => true
  | _ => false

/-- `value == "text"`. -/
def isText (text : String) (value : Json) : Bool := value.text? = some text

theorem isText_iff {value : Json} {text : String} : value.isText text = true ↔ value = .str text := by
  cases value <;> simp [isText, text?]

theorem any_isText_iff {values : List Json} {text : String} :
    values.any (isText text) = true ↔ Json.str text ∈ values := by
  simp [List.any_eq_true, isText_iff]

/-- Lists and dictionaries cannot be elements of a set. -/
def hashable : Json → Bool
  | .arr _ => false
  | .obj _ => false
  | _ => true

/-- `a == b` of values that are not lists or dictionaries. -/
def scalarEq (a b : Json) : Bool :=
  match a, b with
  | .null, .null => true
  | .str s, .str t => s = t
  | a, b => a.rat?.isSome && a.rat? = b.rat?

/-- `iter(value)`. -/
def iterate : Json → Except Raised (List Json)
  | .arr items => .ok items
  | .str s => .ok (s.toList.map fun c => .str (String.ofList [c]))
  | .obj fields => .ok (fields.map fun field => .str field.1)
  | _ => .error (.typeError "object is not iterable")

/-- `len(value)`. -/
def len : Json → Except Raised Nat
  | .arr items => .ok items.length
  | .str s => .ok s.length
  | .obj fields => .ok fields.length
  | _ => .error (.typeError "object has no len()")

/-- `set(value)`. -/
def asSet (value : Json) : Except Raised (List Json) := do
  let items ← value.iterate
  raiseIf (¬ items.all hashable) (.typeError "unhashable type")
  return items

theorem asSet_arr_of_hashable {items : List Json} (h : ∀ value ∈ items, value.hashable = true) :
    asSet (.arr items) = .ok items := by
  simp only [asSet, bind_eq_ok]
  exact ⟨items, rfl, (), raiseIf_eq_ok.mpr (not_not.mpr (List.all_eq_true.mpr h)), rfl⟩

/-- `value[key]` with a text key. -/
def item (value : Json) (key : String) : Except Raised Json :=
  match value with
  | .obj fields => orRaise (fields.lookup key) (.keyError key)
  | .arr _ => .error (.typeError "list indices must be integers or slices, not str")
  | .str _ => .error (.typeError "string indices must be integers, not 'str'")
  | _ => .error (.typeError "object is not subscriptable")

theorem item_eq_ok {value v : Json} {key : String} :
    value.item key = .ok v ↔ ∃ fields, value = .obj fields ∧ fields.lookup key = some v := by
  cases value <;> simp [item, orRaise_eq_ok]

end Json
end Sip
