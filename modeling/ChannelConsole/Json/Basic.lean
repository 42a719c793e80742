import ChannelConsole.Binary64.Basic
import ChannelConsole.Text.Half

/-!
# JSON values

The values that JSON fields, stored records and messages are made of. Integers and doubles are told
apart, and an object keeps the order in which its fields were given. Some senders write numbers that
are not finite, which JSON itself does not have; they are values of their own.

## Main definitions

* `Json`: the values.
* `Json.field?`: the value of a field of an object.
* `Json.depth`: how deeply arrays and objects are nested.
* `Json.everyLeaf`: whether a test holds of every key and of every value that is no container.
* `Json.setField`: set a field of an object, in its old place if it has one.

## Main statements

* `Json.lookup_setField_self`: a field that was set has the value it was set to.
-/

namespace ChannelConsole

/-- A number that is not finite, or no number at all. -/
inductive NonFinite where
  | notANumber
  | infinite (negative : Bool)
deriving DecidableEq

/-- A JSON value. -/
inductive Json where
  | null
  | bool (b : Bool)
  | int (n : Int)
  | float (x : Binary64)
  | nonFinite (x : NonFinite)
  | str (s : Text)
  | arr (items : List Json)
  | obj (fields : List (Text × Json))

namespace Json

instance : Inhabited Json := ⟨.null⟩

/-- An array of texts. -/
def strings (xs : List Text) : Json := .arr (xs.map .str)

/-- The text, or null when there is none. -/
def ofText? : Option Text → Json
  | some s => .str s
  | none => .null

/-- The integer, or null when there is none. -/
def ofInt? : Option Int → Json
  | some n => .int n
  | none => .null

/-- The value of a field of an object; null has no fields, nor has any value that is not an
object. -/
def field? (v : Json) (key : Text) : Option Json :=
  match v with
  | .obj fields => fields.lookup key
  | _ => none

/-- Whether a value counts as nothing: null, false, a zero, an empty text, array or object. -/
def isVoid : Json → Bool
  | .null => true
  | .bool b => !b
  | .int n => n == 0
  | .float x => x.isZero
  | .nonFinite _ => false
  | .str s => s.isEmpty
  | .arr xs => xs.isEmpty
  | .obj fs => fs.isEmpty

/-- The name of the kind of a value in messages. -/
def kindName : Json → Text
  | .null => "NoneType"
  | .bool _ => "bool"
  | .int _ => "int"
  | .float _ => "float"
  | .nonFinite _ => "float"
  | .str _ => "str"
  | .arr _ => "list"
  | .obj _ => "dict"

mutual

/-- How many arrays and objects are nested inside one another, at most. -/
def depth : Json → Nat
  | .arr xs => depthOfItems xs + 1
  | .obj fs => depthOfFields fs + 1
  | _ => 0

/-- The greatest depth among the items of an array. -/
def depthOfItems : List Json → Nat
  | [] => 0
  | x :: r => max x.depth (depthOfItems r)

/-- The greatest depth among the fields of an object. -/
def depthOfFields : List (Text × Json) → Nat
  | [] => 0
  | (_, x) :: r => max x.depth (depthOfFields r)

end

mutual

/-- Whether a test holds of every key and of every value that is no container. -/
def everyLeaf (test : Json → Bool) : Json → Bool
  | .arr xs => everyLeafOfItems test xs
  | .obj fs => everyLeafOfFields test fs
  | v => test v

/-- Whether a test holds of every leaf of the items of an array. -/
def everyLeafOfItems (test : Json → Bool) : List Json → Bool
  | [] => true
  | x :: r => x.everyLeaf test && everyLeafOfItems test r

/-- Whether a test holds of every key and of every leaf of the fields of an object. -/
def everyLeafOfFields (test : Json → Bool) : List (Text × Json) → Bool
  | [] => true
  | (k, x) :: r => test (.str k) && x.everyLeaf test && everyLeafOfFields test r

end

mutual

/-- How many values there are on the longest way into a value, which is one for a value that is no
container and for an empty one. -/
def height : Json → Nat
  | .arr xs => heightOfItems xs + 1
  | .obj fs => heightOfFields fs + 1
  | _ => 1

/-- The greatest height among the items of an array. -/
def heightOfItems : List Json → Nat
  | [] => 0
  | x :: r => max x.height (heightOfItems r)

/-- The greatest height among the fields of an object. -/
def heightOfFields : List (Text × Json) → Nat
  | [] => 0
  | (_, x) :: r => max x.height (heightOfFields r)

end

/-- Whether every number in a value is finite. -/
def isFinite (v : Json) : Bool :=
  v.everyLeaf fun
    | .nonFinite _ => false
    | _ => true

/-- Whether every text in a value consists of whole characters. -/
def isEncodable (v : Json) : Bool :=
  v.everyLeaf fun
    | .str s => Text.isEncodable s
    | _ => true

/-! ### Fields -/

/-- Set a field: an existing one keeps its place, a new one comes last. -/
def setField (key : Text) (v : Json) : List (Text × Json) → List (Text × Json)
  | [] => [(key, v)]
  | (k, w) :: r => if k = key then (key, v) :: r else (k, w) :: setField key v r

/-- The fields of an object given one after the other, where a later one with the same key sets the
value of the earlier one. -/
def collectFields (fields : List (Text × Json)) : List (Text × Json) :=
  fields.foldl (fun acc f => setField f.1 f.2 acc) []

/-- A field that was set has the value it was set to. -/
theorem lookup_setField_self (key : Text) (v : Json) (fields : List (Text × Json)) :
    (setField key v fields).lookup key = some v := by
  induction fields with
  | nil => simp [setField]
  | cons f r ih =>
    obtain ⟨k, w⟩ := f
    by_cases h : k = key
    · simp [setField, h]
    · have hk : (key == k) = false := by simpa using fun he : key = k => h he.symm
      simp [setField, h, List.lookup_cons, hk, ih]

end Json

end ChannelConsole
