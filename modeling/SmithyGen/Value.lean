import SmithyGen.Number.Binary64

namespace SmithyGen

inductive Value where
  | null
  | bool (b : Bool)
  | int (n : Int)
  | float (x : Binary64)
  | str (s : String)
  | list (items : List Value)
  | map (entries : List (String × Value))
deriving Inhabited

/-- Key-value pairs in order of first insertion. -/
abbrev Entries (α : Type) := List (String × α)

namespace Entries

variable {α : Type}

/-- A new key goes to the end, a known one keeps its place and takes the new value. -/
def insert (k : String) (v : α) : Entries α → Entries α
  | [] => [(k, v)]
  | (k', v') :: rest => if k' = k then (k, v) :: rest else (k', v') :: insert k v rest

def get? (k : String) (es : Entries α) : Option α := List.lookup k es

def contains (k : String) (es : Entries α) : Bool := (es.get? k).isSome

/-- Later pairs win over earlier ones. -/
def ofList (pairs : List (String × α)) : Entries α :=
  pairs.foldl (fun es (k, v) => insert k v es) []

def keys (es : Entries α) : List String := es.map (·.1)

def values (es : Entries α) : List α := es.map (·.2)

theorem get?_insert_self (k : String) (v : α) (es : Entries α) :
    get? k (insert k v es) = some v := by
  induction es with
  | nil => simp [insert, get?]
  | cons entry rest ih =>
    obtain ⟨k', v'⟩ := entry
    by_cases h : k' = k
    · simp [insert, get?, h]
    · have hk : (k == k') = false := by simpa using Ne.symm h
      simpa [insert, get?, h, List.lookup_cons, hk] using ih

theorem get?_insert_of_ne {k k' : String} (v : α) (es : Entries α) (h : k' ≠ k) :
    get? k' (insert k v es) = get? k' es := by
  have hk : (k' == k) = false := by simpa using h
  induction es with
  | nil => simp [insert, get?, List.lookup_cons, hk]
  | cons entry rest ih =>
    obtain ⟨k'', v''⟩ := entry
    by_cases hk'' : k'' = k
    · subst hk''
      simp [insert, get?, List.lookup_cons, hk]
    · simp only [get?] at ih
      simp [insert, get?, hk'', List.lookup_cons, ih]

end Entries

namespace Value

/-- Null, false, zero and everything empty count as absent. -/
def truthy : Value → Bool
  | .null => false
  | .bool b => b
  | .int n => n != 0
  | .float x => !x.isZero
  | .str s => s != ""
  | .list xs => !xs.isEmpty
  | .map es => !es.isEmpty

/-- The value, or a default where it counts as absent. -/
def orElse (v d : Value) : Value := if v.truthy then v else d

def typeName : Value → String
  | .null => "NoneType"
  | .bool _ => "bool"
  | .int _ => "int"
  | .float _ => "float"
  | .str _ => "str"
  | .list _ => "list"
  | .map _ => "dict"

def str? : Value → Option String
  | .str s => some s
  | _ => none

def entries? : Value → Option (Entries Value)
  | .map es => some es
  | _ => none

def items? : Value → Option (List Value)
  | .list xs => some xs
  | _ => none

def field (es : Entries Value) (k : String) : Value := (es.get? k).getD .null

def ofOption (s : Option String) : Value := s.elim .null .str

end Value

end SmithyGen
