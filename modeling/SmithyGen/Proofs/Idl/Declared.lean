import SmithyGen.Idl.Reader
import SmithyGen.Proofs.Entries
import SmithyGen.Proofs.Outcome

namespace SmithyGen.Idl

def Shape.members : Shape → Entries Member
  | .struct ms | .union ms | .list ms | .map ms => ms
  | .simple _ | .service .. | .operation .. => []

namespace Declaration

def isService (d : Declaration) : Bool :=
  match d.written with
  | .block kind _ _ => kind == .service
  | .simple .. => false

def name (d : Declaration) : String :=
  match d.written with
  | .block _ name _ => name
  | .simple _ name => name

def id (ns : String) (d : Declaration) : String := ns ++ "#" ++ d.name

def body (d : Declaration) : List Char :=
  match d.written with
  | .block _ _ body => body
  | .simple .. => []

def declared (policy : RequiredPolicy) (ns : String) (d : Declaration) :
    Except ReadCause Declared :=
  match d.written with
  | .simple kind _ => .ok ⟨.simple kind, d.traits⟩
  | .block kind _ body => (blockShape policy ns kind body).map (⟨·, d.traits⟩)

end Declaration

/-- The declarations that are not passed over; `seen` says whether a service stands before them. -/
def taken (seen : Bool) : List Declaration → List Declaration
  | [] => []
  | d :: ds => if seen && d.isService then taken seen ds else d :: taken (seen || d.isService) ds

def firstService (ns : String) (service : Option String) (ds : List Declaration) : Option String :=
  service.or ((ds.find? (·.isService)).map (·.id ns))

def passedOver (file ns : String) : Option String → List Declaration → List Notice
  | _, [] => []
  | some first, d :: ds =>
    (if d.isService then [.furtherService file (d.id ns) first] else [])
      ++ passedOver file ns (some first) ds
  | none, d :: ds => passedOver file ns (if d.isService then some (d.id ns) else none) ds

section Services

theorem taken_eq_self {seen : Bool} {ds : List Declaration}
    (h : ds.countP (·.isService) ≤ if seen then 0 else 1) : taken seen ds = ds := by
  induction ds generalizing seen with
  | nil => rfl
  | cons d ds ih =>
    rw [List.countP_cons] at h
    cases hd : d.isService with
    | false =>
      have hrest : taken seen ds = ds := ih (by simpa [hd] using h)
      simp [taken, hd, hrest]
    | true =>
      obtain rfl : seen = false := by
        cases seen with
        | false => rfl
        | true => simp [hd] at h
      have hrest : taken true ds = ds := ih (by simpa [hd] using h)
      simp [taken, hd, hrest]

theorem passedOver_eq_nil {file ns : String} {service : Option String} {ds : List Declaration}
    (h : ds.countP (·.isService) ≤ if service.isSome then 0 else 1) :
    passedOver file ns service ds = [] := by
  induction ds generalizing service with
  | nil => cases service <;> rfl
  | cons d ds ih =>
    rw [List.countP_cons] at h
    cases hd : d.isService with
    | false =>
      have hrest : passedOver file ns service ds = [] := ih (by simpa [hd] using h)
      cases service <;> simp [passedOver, hd, hrest]
    | true =>
      obtain rfl : service = none := by
        cases service with
        | none => rfl
        | some first => simp [hd] at h
      have hrest : passedOver file ns (some (d.id ns)) ds = [] := ih (by simpa [hd] using h)
      simp [passedOver, hd, hrest]

end Services

section Adding

variable {policy : RequiredPolicy} {ns : String} {p : Progress} {d : Declaration}

theorem add_further {first : String} (hservice : d.isService = true)
    (hfirst : p.service = some first) (file : String) :
    p.add policy file ns d = ⟨[.furtherService file (d.id ns) first], .ok p⟩ := by
  obtain ⟨traits, written⟩ := d
  cases written with
  | simple kind name => cases hservice
  | block kind name body =>
    obtain rfl : kind = .service := by simpa [Declaration.isService] using hservice
    simp only [Progress.add, hfirst]
    rfl

theorem add_taken {x : Declared} (hx : d.declared policy ns = .ok x)
    (hservice : d.isService = true → p.service = none) (file : String) :
    p.add policy file ns d
      = .ok ⟨if d.isService then some (d.id ns) else p.service, p.shapes.insert (d.id ns) x⟩ := by
  obtain ⟨traits, written⟩ := d
  cases written with
  | simple kind name =>
    obtain rfl := Except.ok.inj hx
    rfl
  | block kind name body =>
    obtain ⟨shape, hshape, rfl⟩ := Outcome.map_eq_ok.mp hx
    by_cases hkind : kind = .service
    · subst hkind
      simp only [Progress.add, hservice rfl, hshape]
      rfl
    · have hother : Declaration.isService ⟨traits, .block kind name body⟩ = false := by
        simpa [Declaration.isService] using hkind
      simp only [Progress.add, hshape, hother, if_neg hkind]
      split
      next first hservice' => exact absurd rfl hkind
      next => rfl

theorem addAll_eq {f : Declaration → Declared}
    (hf : ∀ d : Declaration, d.declared policy ns = .ok (f d)) (file : String) (ds : List Declaration) (p : Progress) :
    addAll policy file ns ds p = ⟨passedOver file ns p.service ds,
      .ok ⟨firstService ns p.service ds,
        p.shapes.insertAll ((taken p.service.isSome ds).map fun d => (d.id ns, f d))⟩⟩ := by
  induction ds generalizing p with
  | nil =>
    obtain ⟨service, shapes⟩ := p
    cases service <;> rfl
  | cons d ds ih =>
    obtain ⟨service, shapes⟩ := p
    -- A declaration is passed over only if it is a service and one is known already.
    by_cases hd : d.isService = true
    · cases service with
      | some first =>
        have hadd : Progress.add policy file ns ⟨some first, shapes⟩ d
            = ⟨[.furtherService file (d.id ns) first], .ok ⟨some first, shapes⟩⟩ :=
          add_further hd rfl file
        simp [addAll, hadd, ih, passedOver, taken, firstService, hd]
      | none =>
        have hadd := add_taken (p := ⟨none, shapes⟩) (hf d) (fun _ => rfl) file
        simp [addAll, hadd, ih, passedOver, taken, firstService, hd, Logged.ok, Entries.insertAll]
    · have hadd := add_taken (p := ⟨service, shapes⟩) (hf d) (fun h => absurd h hd) file
      cases service <;>
        simp [addAll, hadd, ih, passedOver, taken, firstService, hd, Logged.ok, Entries.insertAll]

end Adding

section Reading

variable {policy : RequiredPolicy}

/-- The namespace that a text names, or the one that stands in for it. -/
def namespaceIn (text : String) : String :=
  (namespaceLine.first? (stripComments text.toList)).getD unknownNamespace

def declarations (text : String) : List Declaration := declaration.all (stripComments text.toList)

def inForce (text : String) : Entries Declaration :=
  Entries.ofList ((taken false (declarations text)).map fun d => (d.id (namespaceIn text), d))

def readNotices (file text : String) : List Notice :=
  (if (namespaceLine.first? (stripComments text.toList)).isSome then [] else [.noNamespace file])
    ++ passedOver file (namespaceIn text) none (declarations text)
    ++ [.parsed (inForce text).length file]

/-- A text is read as what its declarations in force declare. -/
theorem read_eq {f : Declaration → Declared} {text : String}
    (hf : ∀ d : Declaration, d.declared policy (namespaceIn text) = .ok (f d)) (file : String) :
    read policy file text = ⟨readNotices file text,
      .ok ⟨namespaceIn text, (inForce text).map fun entry => (entry.1, f entry.2)⟩⟩ := by
  have hshapes : Entries.insertAll [] ((taken false (declarations text)).map
      fun d => (d.id (namespaceIn text), f d))
        = (inForce text).map fun entry => (entry.1, f entry.2) := by
    rw [inForce, Entries.ofList_eq_insertAll, Entries.map_insertAll (fun _ d => f d), List.map_map]
    rfl
  have hnamespace : namespaceOf file (stripComments text.toList)
      = ⟨if (namespaceLine.first? (stripComments text.toList)).isSome then []
          else [.noNamespace file], .ok (namespaceIn text)⟩ := by
    unfold namespaceOf namespaceIn
    cases namespaceLine.first? (stripComments text.toList) <;> rfl
  have hall := addAll_eq hf file (declarations text) ⟨none, []⟩
  rw [Option.isSome_none, hshapes] at hall
  rw [declarations] at hall
  simp [read, hnamespace, hall, readNotices, declarations, Logged.note]

theorem blockShape_isOk (hpolicy : ∀ typeName, policy ≠ .unset typeName) (ns : String)
    (kind : BlockKind) (body : List Char) : ∃ s, blockShape policy ns kind body = .ok s := by
  have hmembers : ∃ ms, aggregateMembers policy ns body = .ok ms := by
    cases policy with
    | exact => exact ⟨_, rfl⟩
    | heuristic => exact ⟨_, rfl⟩
    | unset typeName => exact absurd rfl (hpolicy typeName)
  obtain ⟨ms, hms⟩ := hmembers
  cases kind with
  | struct => exact ⟨.struct ms, by rw [blockShape, hms]; rfl⟩
  | union => exact ⟨.union ms, by rw [blockShape, hms]; rfl⟩
  | _ => exact ⟨_, rfl⟩

theorem declared_isOk (hpolicy : ∀ typeName, policy ≠ .unset typeName) (ns : String)
    (d : Declaration) : ∃ x, d.declared policy ns = .ok x := by
  obtain ⟨traits, written⟩ := d
  cases written with
  | simple kind name => exact ⟨_, rfl⟩
  | block kind name body =>
    obtain ⟨shape, hshape⟩ := blockShape_isOk hpolicy ns kind body
    exact ⟨⟨shape, traits⟩, Outcome.map_eq_ok.mpr ⟨shape, hshape, rfl⟩⟩

theorem read_isOk (hpolicy : ∀ typeName, policy ≠ .unset typeName) (file text : String) :
    ∃ a, (read policy file text).result = .ok a := by
  choose f hf using declared_isOk hpolicy (namespaceIn text)
  exact ⟨_, congrArg Logged.result (read_eq hf file)⟩

end Reading

end SmithyGen.Idl
