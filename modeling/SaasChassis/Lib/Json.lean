/-
  JSON values, and decoding them into a record the way Go's `encoding/json` does.

  A record type has fields `φ`, each with a tag. A member of an object goes to the field whose
  tag is its key, or else to the first one whose tag is its key up to case (`matchField`);
  a member without a field is ignored, a missing member leaves the zero value and a value of
  the wrong type fails the decoding (`decodeStruct`).

  The values are over a type of strings: `Json` has text, `WireJson` what a message can carry,
  where a string may have surrogates without their other half. The decoder's limit on nesting is
  left out.
-/
import Mathlib.Data.Rat.Defs
import SaasChassis.Lib.Text
import SaasChassis.Lib.Utf16

namespace SaasChassis.Lib

inductive JsonOf (σ : Type) where
  | null
  | bool (b : Bool)
  | num (x : ℚ)
  | str (s : σ)
  | arr (xs : List (JsonOf σ))
  | obj (members : List (σ × JsonOf σ))

abbrev Json := JsonOf String

abbrev WireJson := JsonOf Utf16

/-- Into a string, in which a lone surrogate becomes U+FFFD. -/
def WireJson.decodeString (old : String) : WireJson → Option String
  | .null => some old
  | .str s => some s.toWellFormed
  | _ => none

namespace Json

/-! ## Values -/

def decodeString (old : String) : Json → Option String
  | .null => some old
  | .str s => some s
  | _ => none

def decodeBool (old : Bool) : Json → Option Bool
  | .null => some old
  | .bool b => some b
  | _ => none

/-- Into a `[]string`: null is the nil slice, a null element the empty string. -/
def decodeStrings : Json → Option (List String)
  | .null => some []
  | .arr xs => xs.mapM (decodeString "")
  | _ => none

def ofStrings (xs : List String) : Json := .arr (xs.map .str)

@[simp] theorem decodeStrings_ofStrings (xs : List String) :
    decodeStrings (ofStrings xs) = some xs := by
  unfold ofStrings decodeStrings
  induction xs with
  | nil => rfl
  | cons x xs ih =>
    simp only at ih
    simp [List.mapM_cons, decodeString, ih]

/-! ## Records -/

section Struct

variable {φ κ σ : Type}

/-- The field a member with this key goes to. -/
def matchField (tag : φ → String) (fields : List φ) (key : String) : Option φ :=
  (fields.find? fun f => tag f == key) <|> fields.find? fun f => equalFold (tag f) key

def decodeMembers (field : κ → Option φ) (assign : φ → JsonOf κ → σ → Option σ) :
    List (κ × JsonOf κ) → σ → Option σ
  | [], s => some s
  | (key, value) :: ms, s =>
    match field key with
    | some f => (assign f value s).bind (decodeMembers field assign ms)
    | none => decodeMembers field assign ms s

/-- `json.Unmarshal` into a record that holds `zero`. -/
def decodeStruct (field : κ → Option φ) (assign : φ → JsonOf κ → σ → Option σ) (zero : σ) :
    JsonOf κ → Option σ
  | .null => some zero
  | .obj ms => decodeMembers field assign ms zero
  | _ => none

end Struct

end Json

end SaasChassis.Lib
