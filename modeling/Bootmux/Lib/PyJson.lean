/-
Bootmux.Lib.PyJson — the values of Python's `json.load`, and what the
built-in operations of Python make of them.

A value is read where a program expects one of a certain type, so every
operation says what it does with the others: it answers, or it raises
(`none`). A dictionary is the list of its members, and `toDict` keeps of
what `dict(value)` makes only the members whose key is a text, the only
ones a text can equal.

A comparison for equality never raises, as in Python, and a value of another
type is then a different one; `True` and `1` are equal. Whether a value can
be a key of a dictionary is `hashable`.
-/
import Mathlib.Data.Rat.Defs
import Bootmux.Lib.PyDict

namespace Bootmux.Lib

/-- A value from `json.load`; a float without a value is not finite. -/
inductive PyJson where
  | null
  | bool (b : Bool)
  | int (n : Int)
  | float (value : Option ℚ)
  | str (s : String)
  | list (elements : List PyJson)
  | dict (members : List (String × PyJson))

abbrev Members := List (String × PyJson)

namespace PyJson

/-! ## Values of a program -/

def optStr : Option String → PyJson
  | none => .null
  | some text => .str text

def optFlag : Option Bool → PyJson
  | none => .null
  | some flag => .bool flag

def strList (texts : List String) : PyJson := .list (texts.map .str)

/-! ## Types -/

def asDict : PyJson → Option Members
  | .dict members => some members
  | _ => none

def isDict (value : PyJson) : Bool := (asDict value).isSome

def asText : PyJson → Option String
  | .str s => some s
  | _ => none

def asTexts : PyJson → Option (List String)
  | .list elements => elements.mapM asText
  | _ => none

def isNumber : PyJson → Bool
  | .bool _ | .int _ | .float _ => true
  | _ => false

def isNull : PyJson → Bool
  | .null => true
  | _ => false

/-- A value that can be a key or in a set. -/
def hashable : PyJson → Bool
  | .list _ | .dict _ => false
  | _ => true

/-- `bool(value)`. -/
def truthy : PyJson → Bool
  | .null => false
  | .bool b => b
  | .int n => n != 0
  | .float value => value != some 0
  | .str s => s != ""
  | .list elements => !elements.isEmpty
  | .dict members => !members.isEmpty

/-! ## Equality -/

/-- The number that a value equals, if it is an integer. -/
def asInt : PyJson → Option Int
  | .bool b => some (if b then 1 else 0)
  | .int n => some n
  | .float (some q) => if q.den = 1 then some q.num else none
  | _ => none

/-- `value == text`. -/
def isText (value : PyJson) (text : String) : Bool := asText value == some text

/-- `value == flag`; `1` and `1.0` equal `True`. -/
def isFlag (value : PyJson) (flag : Bool) : Bool := asInt value == some (if flag then 1 else 0)

/-- `value == text` for a text or `None`. -/
def equalsText (value : PyJson) : Option String → Bool
  | none => isNull value
  | some text => isText value text

/-- `value == flag` for a flag or `None`. -/
def equalsFlag (value : PyJson) : Option Bool → Bool
  | none => isNull value
  | some flag => isFlag value flag

/-- `texts == values` for a list of texts. -/
def equalTexts (values : List PyJson) (texts : List String) : Bool :=
  values.mapM asText == some texts

/-! ## Members and elements -/

/-- `members.get(key, default)`. -/
def valueOf (members : Members) (key : String) (default : PyJson) : PyJson :=
  (members.lookup key).getD default

/-- `list(value)`, what a loop goes through. -/
def elementsOf : PyJson → Option (List PyJson)
  | .list elements => some elements
  | .dict members => some (members.map fun member => .str member.1)
  | .str s => some (s.toList.map fun c => .str (String.singleton c))
  | _ => none

/-- A member of `dict(value)` from an element of `value`, which has to have
two elements itself. -/
def pairOf (element : PyJson) : Option (PyJson × PyJson) :=
  match elementsOf element with
  | some [key, value] => if hashable key then some (key, value) else none
  | _ => none

/-- `dict(value)`, the members with a text as their key. -/
def toDict : PyJson → Option Members
  | .dict members => some members
  | value => do
      let pairs ← (← elementsOf value).mapM pairOf
      some (pairs.foldl (fun members pair =>
        match asText pair.1 with
        | some key => PyDict.set members key pair.2
        | none => members) [])

/-! ## Values of a program read back -/

@[simp] theorem asText_optStr (text : Option String) : asText (optStr text) = text := by
  cases text <;> rfl

/-- A text or `None` is truthy exactly if it is a text and not empty. -/
theorem truthy_optStr (text : Option String) :
    truthy (optStr text) = (text.isSome && text != some "") := by
  cases text <;> rfl

@[simp] theorem isNull_optStr (text : Option String) : isNull (optStr text) = text.isNone := by
  cases text <;> rfl

@[simp] theorem isText_optStr (text : Option String) (other : String) :
    isText (optStr text) other = (text == some other) := by
  rw [isText, asText_optStr]

@[simp] theorem equalsText_optStr (text other : Option String) :
    equalsText (optStr text) other = (other == text) := by
  cases other with
  | none => cases text <;> rfl
  | some other =>
      rw [equalsText, isText_optStr]
      exact Bool.beq_comm

@[simp] theorem isFlag_bool (flag other : Bool) : isFlag (.bool flag) other = (flag == other) := by
  cases flag <;> cases other <;> rfl

@[simp] theorem equalsFlag_optFlag (flag other : Option Bool) :
    equalsFlag (optFlag flag) other = (other == flag) := by
  rcases flag with - | flag <;> rcases other with - | other
  · rfl
  · cases other <;> rfl
  · rfl
  · cases flag <;> cases other <;> rfl

@[simp] theorem elementsOf_strList (texts : List String) :
    elementsOf (strList texts) = some (texts.map .str) := rfl

@[simp] theorem equalsText_str (text : String) (other : Option String) :
    equalsText (.str text) other = (other == some text) :=
  equalsText_optStr (some text) other

/-- A list of texts is read as the texts. -/
theorem mapM_asText_str (texts : List String) : (texts.map .str).mapM asText = some texts := by
  induction texts with
  | nil => rfl
  | cons text texts ih => simp [asText, ih]

@[simp] theorem equalTexts_str (values texts : List String) :
    equalTexts (values.map .str) texts = (texts == values) := by
  rw [equalTexts, mapM_asText_str, Bool.beq_comm]
  rfl

end PyJson

end Bootmux.Lib
