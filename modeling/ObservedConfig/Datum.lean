import ObservedConfig.Binary64.Layout

/-! Values of the document formats: what a text holds once it is read, before anything is asked of
its shape, and what is handed to a printer. -/
namespace ObservedConfig

inductive Datum where
  | null
  | bool (value : Bool)
  | int (value : Int)
  | float (value : Binary64)
  | text (value : String)
  | seq (items : List Datum)
  | map (entries : List (Datum × Datum))
  | tagged (tag : String) (content : Datum)
  deriving Inhabited

namespace Datum

def object (fields : List (String × Datum)) : Datum :=
  .map (fields.map fun (name, value) => (.text name, value))

def texts (items : List String) : Datum := .seq (items.map .text)

def field? (name : String) : Datum → Option Datum
  | .map entries => entries.findSome? fun
    | (.text key, value) => if key = name then some value else none
    | _ => none
  | _ => none

def fitsInt64 (i : Int) : Bool := -0x8000000000000000 ≤ i && i < 0x8000000000000000

def fits64 (i : Int) : Bool := -0x8000000000000000 ≤ i && i < 0x10000000000000000

def untag : Datum → Datum
  | .tagged _ content => content.untag
  | d => d

def allTexts? : List Datum → Option (List String)
  | [] => some []
  | .text s :: rest => (allTexts? rest).map (s :: ·)
  | _ :: _ => none

def texts? : Datum → Option (List String)
  | .seq items => allTexts? items
  | _ => none

def bool? : Datum → Option Bool
  | .bool b => some b
  | _ => none

def int64? : Datum → Option Int64
  | .int i => if fitsInt64 i then some (Int64.ofInt i) else none
  | _ => none

/-- A number as a floating point value, to which integers of 64 bits are rounded. -/
def float? : Datum → Option Binary64
  | .float x => some x
  | .int i => if fits64 i then some (.ofInt i) else none
  | _ => none

def text? : Datum → Option String
  | .text s => some s
  | _ => none

@[simp] theorem allTexts?_map (items : List String) : allTexts? (items.map .text) = some items := by
  induction items with
  | nil => rfl
  | cons s rest ih => simp [allTexts?, ih]

end Datum

end ObservedConfig
