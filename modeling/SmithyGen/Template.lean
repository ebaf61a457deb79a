import SmithyGen.Template.Field

namespace SmithyGen.Template

/-- Fills one field; `expand` fills the fields of its specification. -/
def Field.fill (expand : List Char → Except Fault (List Char)) (params : Entries Subject)
    (f : Field) : Except Fault (List Char) := do
  let s ← resolve params f.path
  let s ← s.convert f.conversion
  let spec ← if f.spec.contains '\x7b' then expand f.spec else pure f.spec
  s.format spec

/-- Fills the fields from the left; `skip` counts the characters of a field still to be passed
over. -/
def fillFrom (expand : List Char → Except Fault (List Char)) (params : Entries Subject) :
    (skip : Nat) → List Char → Except Fault (List Char)
  | _, [] => .ok []
  | skip + 1, _ :: cs => fillFrom expand params skip cs
  | 0, '\x7b' :: '\x7b' :: cs => (fillFrom expand params 0 cs).map ('\x7b' :: ·)
  | 0, '\x7d' :: '\x7d' :: cs => (fillFrom expand params 0 cs).map ('\x7d' :: ·)
  | 0, '\x7d' :: _ => refuse (.loneBrace '\x7d')
  | 0, ['\x7b'] => refuse (.loneBrace '\x7b')
  | 0, '\x7b' :: cs => do
    let (f, rest) ← (field cs).mapError fun p => .badValue (.template p)
    let text ← f.fill expand params
    let more ← fillFrom expand params (cs.length - rest.length) cs
    return text ++ more
  | 0, c :: cs => (fillFrom expand params 0 cs).map (c :: ·)

/-- Fills a text whose specifications may be templates down to a depth. -/
def fillTo (params : Entries Subject) : (depth : Nat) → List Char → Except Fault (List Char)
  | 0, _ => refuse .tooDeep
  | depth + 1, cs => fillFrom (fillTo params depth) params 0 cs

def fill (params : Entries Subject) (text : String) : Except Fault String :=
  (fillTo params 2 text.toList).map String.ofList

mutual

def fillValue (params : Entries Subject) : Value → Except Fault Value
  | .str s => (fill params s).map .str
  | .list xs => (fillValues params xs).map .list
  | v => .ok v
termination_by structural v => v

def fillValues (params : Entries Subject) : List Value → Except Fault (List Value)
  | [] => .ok []
  | v :: vs => do
    let v ← fillValue params v
    let vs ← fillValues params vs
    return v :: vs
termination_by structural vs => vs

end

end SmithyGen.Template
