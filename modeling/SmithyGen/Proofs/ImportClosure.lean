import SmithyGen.Proofs.Package
import SmithyGen.Proofs.Resolution

namespace SmithyGen

def dottedParts (module : String) : List String :=
  (Text.splitWhere (· == '.') module.toList).map String.ofList

/-- The parts of the module that a relative import leads to, seen from a module. Each dot leaves one
package, the first one that of the module itself; the rest names a module from there, or nothing
for the package. An import beyond the outermost package leads nowhere, nor does an empty name. -/
def Imports.target? (module relative : String) : Option (List String) :=
  let parts := dottedParts module
  let level := (relative.toList.takeWhile (· == '.')).length
  let path := relative.toList.dropWhile (· == '.')
  let names := if path.isEmpty then [] else dottedParts (String.ofList path)
  if 0 < level ∧ level < parts.length ∧ "" ∉ names then
    some (parts.take (parts.length - level) ++ names)
  else none

namespace Imports

@[simp] theorem relative_add (i : Imports) (module : String) (names : List String) :
    (i.add module names).relative = i.relative := by
  unfold Imports.add
  split_ifs <;> rfl

/-- What a sequence of steps imports was there before, or one of the steps imports it. -/
theorem mem_relative_foldl {α : Type} {step : Imports → α → Imports}
    {P : α → String × List String → Prop}
    (hstep : ∀ i a r, r ∈ (step i a).relative → r ∈ i.relative ∨ P a r) {xs : List α} {i : Imports}
    {r : String × List String} (h : r ∈ (xs.foldl step i).relative) :
    r ∈ i.relative ∨ ∃ a ∈ xs, P a r := by
  induction xs generalizing i with
  | nil => exact Or.inl h
  | cons x xs ih =>
    rcases ih h with h | ⟨a, ha, hp⟩
    · rcases hstep i x r h with h | hp
      · exact Or.inl h
      · exact Or.inr ⟨x, by simp, hp⟩
    · exact Or.inr ⟨a, List.mem_cons_of_mem _ ha, hp⟩

theorem target?_eq {module relative : String} (path : String) (level : ℕ)
    (hr : relative.toList = List.replicate level '.' ++ path.toList)
    (hhead : path.toList.head? ≠ some '.') (hne : path ≠ "") (hpos : 0 < level)
    (hlt : level < (dottedParts module).length) (hnames : "" ∉ dottedParts path) :
    target? module relative
      = some ((dottedParts module).take ((dottedParts module).length - level)
          ++ dottedParts path) := by
  obtain ⟨c, cs, hp⟩ : ∃ c cs, path.toList = c :: cs :=
    List.exists_cons_of_ne_nil fun he => hne (String.toList_inj.mp he)
  have hc : c ≠ '.' := by simpa [hp] using hhead
  have htake : relative.toList.takeWhile (· == '.') = List.replicate level '.' := by
    rw [hr, hp, List.takeWhile_append_of_pos (by simp)]
    simp [hc]
  have hdrop : relative.toList.dropWhile (· == '.') = path.toList := by
    rw [hr, hp, List.dropWhile_append_of_pos (by simp)]
    simp [hc]
  have hpath : path.toList.isEmpty = false := by rw [hp]; rfl
  simp only [target?, htake, hdrop, hpath, List.length_replicate, String.ofList_toList]
  simp [hpos, hlt, hnames]

end Imports

namespace Emit

theorem dottedParts_module (base : String) {package file : String} (hp : IsSnake package)
    (hf : IsSnake file) :
    dottedParts (base ++ "." ++ package ++ "." ++ file) = dottedParts base ++ [package, file] := by
  rw [dottedParts, splitWhere_module base hp hf]
  simp [dottedParts]

theorem dottedParts_of_isSnake {file : String} (h : IsSnake file) : dottedParts file = [file] := by
  have hnone : ∀ c ∈ file.toList, (c == '.') = false := by
    intro c hc
    simpa using fun he : c = '.' => h.not_mem (by decide) (he ▸ hc)
  rw [dottedParts, Text.splitWhere_of_none hnone]
  simp

theorem IsSnake.head?_ne_dot {file : String} (h : IsSnake file) : file.toList.head? ≠ some '.' :=
  fun he => h.not_mem (by decide) (List.mem_of_head? he)

theorem target?_sibling (base : String) {package file other : String} (hp : IsSnake package)
    (hf : IsSnake file) (ho : IsSnake other) (hne : other ≠ "") :
    Imports.target? (base ++ "." ++ package ++ "." ++ file) ("." ++ other)
      = some (dottedParts (base ++ "." ++ package ++ "." ++ other)) := by
  have hparts := dottedParts_module base hp hf
  have hnames := dottedParts_of_isSnake ho
  rw [Imports.target?_eq other 1 (by simp [String.toList_append])
    ho.head?_ne_dot hne (by decide) (by simp [hparts]) (by simpa [hnames] using hne.symm),
    hparts, hnames, dottedParts_module base hp ho]
  simp [List.take_append, List.take_of_length_le]

theorem target?_type (base : String) {package file other : String} (hp : IsSnake package)
    (hf : IsSnake file) (ho : IsSnake other) (hne : other ≠ "") :
    Imports.target? (base ++ "." ++ package ++ "." ++ file) (".." ++ ("types." ++ other))
      = some (dottedParts (base ++ "." ++ "types" ++ "." ++ other)) := by
  have hparts := dottedParts_module base hp hf
  have hnames : dottedParts ("types." ++ other) = ["types", other] := by
    have hlist : ("types." ++ other).toList = "types".toList ++ '.' :: other.toList := by
      simp [String.toList_append]
    have htypes := dottedParts_of_isSnake (by decide : IsSnake "types")
    have hother := dottedParts_of_isSnake ho
    rw [dottedParts] at htypes hother ⊢
    rw [hlist, Text.splitWhere_append_cons (by rfl), List.map_append, htypes, hother]
    rfl
  rw [Imports.target?_eq ("types." ++ other) 2 (by simp [String.toList_append])
    (by simp [String.toList_append]) ?_ (by decide) ?_ ?_,
    hparts, hnames, dottedParts_module base (by decide) ho]
  · simp
  · intro he
    simpa [String.toList_append] using congrArg String.toList he
  · -- two dots lead up to the base, which is left with a part at least
    have hbase : 0 < (dottedParts base).length := by
      simpa [dottedParts, List.length_pos_iff] using Text.splitWhere_ne_nil _ base.toList
    rw [hparts, List.length_append]
    simpa using hbase
  · simpa [hnames] using hne.symm

/-- The import of a generated type from the packages beside that of the types. -/
def typeRequest (s : Shape) : String × List String :=
  (".." ++ ("types." ++ Naming.snake s.name), [s.name])

def siblingRequest (s : Shape) : String × List String := ("." ++ Naming.snake s.name, [s.name])

theorem mem_relative_addType {x : Option Shape} {i : Imports} {r : String × List String}
    (h : r ∈ (addType x i).relative) : r ∈ i.relative ∨ ∃ s ∈ x, r = typeRequest s := by
  cases x with
  | none => exact Or.inl h
  | some s =>
    rcases List.mem_append.mp h with h | h
    · exact Or.inl h
    · exact Or.inr ⟨s, rfl, List.mem_singleton.mp h⟩

def ends (o : Operation) : List Shape := o.input.toList ++ o.output.toList

theorem mem_relative_addTypes {s : Service} {i : Imports} {r : String × List String}
    (h : r ∈ (addTypes s i).relative) :
    r ∈ i.relative ∨ ∃ o ∈ s.operations, ∃ x ∈ ends o, r = typeRequest x := by
  refine Imports.mem_relative_foldl (P := fun o r => ∃ x ∈ ends o, r = typeRequest x) ?_ h
  intro i o r hr
  rcases mem_relative_addType hr with hr | ⟨x, hx, rfl⟩
  · rcases mem_relative_addType hr with hr | ⟨x, hx, rfl⟩
    · exact Or.inl hr
    · exact Or.inr ⟨x, by simp [ends, Option.mem_def.mp hx], rfl⟩
  · exact Or.inr ⟨x, by simp [ends, Option.mem_def.mp hx], rfl⟩

theorem mem_structures_of_kind {m : Model} {target : Option String}
    (h : (resolve m.shapes target).kind = .reference) :
    (resolve m.shapes target).shape ∈ m.structures := by
  have hscalar : ∀ entry ∈ Prelude.shapes, ShapeType.ofName? entry.2 ≠ some .struct := by decide
  have hstruct : ∀ t : ShapeType, t.kind = .reference → t = .struct := by
    intro t ht
    cases t <;> simp [ShapeType.kind] at ht ⊢
  unfold resolve at h ⊢
  -- A shape of the model, a built-in one, or none: the last two are scalars.
  split
  · next s hs =>
    obtain ⟨id, -, hid⟩ := Option.bind_eq_some_iff.mp hs
    rw [hs] at h
    have htype : s.type = .struct := hstruct _ h
    exact List.mem_filter.mpr ⟨(Shape.mem_of_lookup? hid).1, by simp [htype]⟩
  · next hs =>
    rw [hs] at h
    split
    · next s hb =>
      rw [hb] at h
      obtain ⟨id, -, hid⟩ := Option.bind_eq_some_iff.mp hb
      obtain ⟨typeName, hlookup, htype⟩ := Option.bind_eq_some_iff.mp hid
      obtain ⟨type, hname, rfl⟩ := Option.map_eq_some_iff.mp htype
      obtain ⟨before, after, he, -⟩ := List.lookup_eq_some_iff.mp hlookup
      have htypeName := hscalar (id, typeName) (by rw [he]; simp)
      exact absurd (hname.trans (congrArg some (hstruct type h))) htypeName
    · next hb =>
      rw [hb] at h
      exact absurd h (by simp [Resolved.kind])

/-- The base of a type expression is a structure of the model or a scalar. -/
theorem mem_structures_of_typeFrom {m : Model} {left : ℕ} {target : Option String}
    {id name : String} (h : (typeFrom m.shapes left target).base = .reference id name) :
    ∃ s ∈ m.structures, s.id = id ∧ s.name = name := by
  induction left generalizing target with
  | zero => exact absurd h (by simp [typeFrom])
  | succ left ih =>
    simp only [typeFrom] at h
    split at h
    · next hk => exact ⟨_, mem_structures_of_kind hk, Base.reference.inj h⟩
    · exact ih h
    · exact ih h
    · exact absurd h (by simp)

/-- Some member of the structure has a type with the base. -/
def Types.HasBase (shapes : List Shape) (s : Shape) (b : Base) : Prop :=
  ∃ x ∈ s.members, (typeExpr shapes x.target).base = b

/-- The types beside it that a structure needs are the others that its types end in. -/
theorem Types.mem_siblingImports_iff {m : Model} {s : Shape} {r : String × List String} :
    r ∈ (siblingImports m.shapes s).relative
      ↔ ∃ x ∈ m.structures, x.id ≠ s.id ∧ HasBase m.shapes s (.reference x.id x.name)
        ∧ r = siblingRequest x := by
  rw [siblingImports, List.mem_flatMap]
  constructor
  · rintro ⟨y, hy, hr⟩
    cases hbase : (typeExpr m.shapes y.target).base with
    | scalar kind => simp [hbase, Base.siblings] at hr
    | reference id name =>
      obtain ⟨x, hx, rfl, rfl⟩ := mem_structures_of_typeFrom hbase
      rw [hbase, Base.siblings] at hr
      split_ifs at hr with hid
      · cases hr
      · exact ⟨x, hx, hid, ⟨y, hy, hbase⟩, List.mem_singleton.mp hr⟩
  · rintro ⟨x, -, hid, ⟨y, hy, hbase⟩, rfl⟩
    exact ⟨y, hy, by simp [hbase, Base.siblings, hid, siblingRequest]⟩

/-- All relative imports of a module. -/
def requests (d : Document) : List (String × List String) :=
  d.imports.relative ++ d.lateImports.relative

theorem mem_imports_of_requests {d : Document} (hlate : d.lateImports = {})
    {r : String × List String} (hr : r ∈ requests d) : r ∈ d.imports.relative := by
  rwa [requests, hlate, List.append_nil] at hr

theorem mem_requests_type {m : Model} {o : Options} {s : Shape} {d : Document}
    (hd : Types.document m.shapes o s = .ok d) {r : String × List String} (hr : r ∈ requests d) :
    ∃ x ∈ m.structures, r = siblingRequest x := by
  obtain ⟨checks, -, -, -, -, himports, hlate⟩ := Types.document_cases hd
  rw [requests, himports, Types.headImports, Types.baseImports_eq, List.nil_append, hlate] at hr
  obtain ⟨x, hx, -, -, rfl⟩ := Types.mem_siblingImports_iff.mp hr
  exact ⟨x, hx, rfl⟩

def contractRequest (s : Service) : String × List String :=
  ("." ++ (Naming.snake s.name ++ "_contract"), [Server.contractName s])

def handlersRequest (s : Service) : String × List String :=
  ("." ++ (Naming.snake s.name ++ "_handlers"), [Server.handlersName s])

theorem mem_requests_of_addTypes {d : Document} {i : Imports} {s : Service}
    (hlate : d.lateImports = {}) (himports : d.imports = addTypes s i) (hi : i.relative = [])
    {r : String × List String} (hr : r ∈ requests d) :
    ∃ op ∈ s.operations, ∃ x ∈ ends op, r = typeRequest x := by
  have hmem := mem_imports_of_requests hlate hr
  rw [himports] at hmem
  rcases mem_relative_addTypes hmem with hmem | h
  · simp [hi] at hmem
  · exact h

theorem mem_requests_contract {o : Options} {s : Service} {r : String × List String}
    (hr : r ∈ requests (Server.contract o s)) :
    ∃ op ∈ s.operations, ∃ x ∈ ends op, r = typeRequest x :=
  mem_requests_of_addTypes rfl rfl (by simp) hr

theorem mem_requests_handlers {o : Options} {shapes : List Shape} {appName : Value} {s : Service}
    {r : String × List String} (hr : r ∈ requests (Server.handlers o shapes appName s)) :
    r = contractRequest s ∨ ∃ op ∈ s.operations, ∃ x ∈ ends op, r = typeRequest x := by
  have hstep : ∀ (i : Imports) (op : Operation) (r : String × List String),
      r ∈ (addType op.input i).relative → r ∈ i.relative ∨ ∃ x ∈ ends op, r = typeRequest x := by
    intro i op r hr
    rcases mem_relative_addType hr with hr | ⟨x, hx, rfl⟩
    · exact Or.inl hr
    · exact Or.inr ⟨x, by simp [ends, Option.mem_def.mp hx], rfl⟩
  rcases Imports.mem_relative_foldl hstep (mem_imports_of_requests rfl hr) with hr | h
  · simp only [Imports.addRelative, Imports.relative_add, List.nil_append] at hr
    exact Or.inl (List.mem_singleton.mp hr)
  · exact Or.inr h

theorem mem_requests_routes {o : Options} {s : Service} {r : String × List String}
    (hr : r ∈ requests (Server.routes o s)) : r = contractRequest s ∨ r = handlersRequest s := by
  have hr' : r ∈ [contractRequest s, handlersRequest s] := mem_imports_of_requests rfl hr
  simpa using hr'

theorem mem_requests_client {o : Options} {appName : String} {s : Service}
    {r : String × List String} (hr : r ∈ requests (Client.client o appName s)) :
    ∃ op ∈ s.operations, ∃ x ∈ ends op, r = typeRequest x :=
  mem_requests_of_addTypes rfl rfl (by simp) hr

/-- A relative import finds a class: it leads to a module of the package that declares it. -/
def Finds (ds : List Document) (d : Document) (relative name : String) : Prop :=
  ∃ d' ∈ ds, Imports.target? d.module relative = some (dottedParts d'.module)
    ∧ name ∈ d'.declarations.map (·.name)

/-- A structure whose module has no name, for want of letters and digits in its own. -/
def IsNameless (m : Model) (name : String) : Prop :=
  Naming.snake name = "" ∧ ∃ s ∈ m.structures, s.name = name

section Types

variable {m : Model} {o : Options} {types ds : List Document}

theorem exists_typeDocument (htypes : Types.documents m o = .ok types) {s : Shape}
    (hs : s ∈ m.structures) :
    ∃ d ∈ types, d.module = o.moduleName "types" s.name ∧ s.name ∈ d.declarations.map (·.name) := by
  obtain ⟨d, hd, hdoc⟩ := Outcome.exists_image_of_mapM_eq_ok htypes hs
  obtain ⟨checks, -, hmodule, hclass, -⟩ := Types.document_cases hdoc
  exact ⟨d, hd, hmodule, by simp [hclass, Types.classOf]⟩

/-- The class of a structure is found by an import that leads to the module of its name. -/
theorem finds_structure (htypes : Types.documents m o = .ok types) (hsub : types ⊆ ds) {s : Shape}
    (hs : s ∈ m.structures) {d : Document} {relative : String}
    (htarget : Naming.snake s.name ≠ "" →
      Imports.target? d.module relative = some (dottedParts (o.moduleName "types" s.name))) :
    Finds ds d relative s.name ∨ IsNameless m s.name := by
  by_cases hne : Naming.snake s.name = ""
  · exact Or.inr ⟨hne, s, hs, rfl⟩
  · obtain ⟨d', hd', hmodule, hname⟩ := exists_typeDocument htypes hs
    exact Or.inl ⟨d', hsub hd', by rw [hmodule]; exact htarget hne, hname⟩

theorem finds_type (htypes : Types.documents m o = .ok types) (hsub : types ⊆ ds) {s : Shape}
    (hs : s ∈ m.structures) {package file : String} {d : Document}
    (hd : IsModule o package file d) :
    Finds ds d (typeRequest s).1 s.name ∨ IsNameless m s.name := by
  refine finds_structure htypes hsub hs fun hne => ?_
  rw [hd.module_eq]
  exact target?_type o.baseModule hd.isSnake_package hd.isSnake_file (isSnake_snake s.name) hne

theorem finds_sibling (htypes : Types.documents m o = .ok types) (hsub : types ⊆ ds) {s : Shape}
    (hs : s ∈ m.structures) {file : String} {d : Document} (hd : IsModule o "types" file d) :
    Finds ds d (siblingRequest s).1 s.name ∨ IsNameless m s.name := by
  refine finds_structure htypes hsub hs fun hne => ?_
  rw [hd.module_eq]
  exact target?_sibling o.baseModule hd.isSnake_package hd.isSnake_file (isSnake_snake s.name) hne

end Types

theorem finds_server {o : Options} {s : Service} {ds : List Document} {file : String}
    {d d' : Document} (hd : IsModule o "server" file d) {ending tail name : String}
    (he : IsSnake ending) (htail : "_" ++ ending = tail) (hmem : d' ∈ ds)
    (hd' : d'.module = Server.moduleName o s ending)
    (hname : name ∈ d'.declarations.map (·.name)) :
    Finds ds d ("." ++ (Naming.snake s.name ++ tail)) name := by
  have hother := isModule_server hd' he
  have hfile : Naming.snake s.name ++ tail = Naming.snake s.name ++ "_" ++ ending := by
    rw [← htail, String.append_assoc]
  rw [hfile]
  refine ⟨d', hmem, ?_, hname⟩
  rw [hd.module_eq, hother.module_eq]
  refine target?_sibling o.baseModule hd.isSnake_package hd.isSnake_file hother.isSnake_file ?_
  intro h
  simpa [String.toList_append] using congrArg String.toList h

/-- What a module of a package imports from the package is found there, or its class is that of a
nameless module. -/
def IsClosed (m : Model) (ds : List Document) (d : Document) : Prop :=
  ∀ r ∈ requests d, ∀ name ∈ r.2, Finds ds d r.1 name ∨ IsNameless m name

section Closure

variable {m : Model} {o : Options} {types ds : List Document}

theorem isClosed_type (htypes : Types.documents m o = .ok types) (hsub : types ⊆ ds) {d : Document}
    (hd : d ∈ types) : IsClosed m ds d := by
  intro r hr name hname
  obtain ⟨s, -, hdoc⟩ := Outcome.exists_mem_of_mapM_eq_ok htypes hd
  obtain ⟨x, hx, rfl⟩ := mem_requests_type hdoc hr
  obtain rfl := List.mem_singleton.mp hname
  exact finds_sibling htypes hsub hx (isModule_type hdoc)

theorem finds_ends (htypes : Types.documents m o = .ok types) (hsub : types ⊆ ds) {s : Service}
    (hends : ∀ op ∈ s.operations, ∀ x ∈ ends op, x ∈ m.structures) {package file : String}
    {d : Document} (hd : IsModule o package file d) {r : String × List String}
    (hr : ∃ op ∈ s.operations, ∃ x ∈ ends op, r = typeRequest x) {name : String}
    (hname : name ∈ r.2) : Finds ds d r.1 name ∨ IsNameless m name := by
  obtain ⟨op, hop, x, hx, rfl⟩ := hr
  obtain rfl := List.mem_singleton.mp hname
  exact finds_type htypes hsub (hends op hop x hx) hd

theorem finds_contract {s : Service} (hmem : Server.contract o s ∈ ds) {file : String}
    {d : Document} (hd : IsModule o "server" file d) {name : String}
    (hname : name ∈ (contractRequest s).2) : Finds ds d (contractRequest s).1 name :=
  finds_server hd (by decide : IsSnake "contract") rfl hmem rfl hname

theorem finds_handlers {shapes : List Shape} {appName : Value} {s : Service}
    (hmem : Server.handlers o shapes appName s ∈ ds) {file : String} {d : Document}
    (hd : IsModule o "server" file d) {name : String} (hname : name ∈ (handlersRequest s).2) :
    Finds ds d (handlersRequest s).1 name :=
  finds_server hd (by decide : IsSnake "handlers") rfl hmem rfl hname

theorem isClosed_server (htypes : Types.documents m o = .ok types) (hsub : types ⊆ ds)
    {server : List Document} (hserver : Server.documents m o = .ok server) (hsub' : server ⊆ ds)
    (hends : ∀ s, m.service = some s → ∀ op ∈ s.operations, ∀ x ∈ ends op, x ∈ m.structures)
    {d : Document} (hd : d ∈ server) : IsClosed m ds d := by
  intro r hr name hname
  unfold Server.documents at hserver
  split at hserver
  · obtain rfl := Except.ok.inj hserver
    simp at hd
  · next s hs =>
    obtain ⟨appName, -, hserver⟩ := Outcome.bind_eq_ok.mp hserver
    obtain rfl := Except.ok.inj hserver
    simp only [List.cons_subset] at hsub'
    simp only [List.mem_cons, List.not_mem_nil, or_false] at hd
    rcases hd with rfl | rfl | rfl
    · exact finds_ends htypes hsub (hends s hs) (isModule_server rfl (by decide))
        (mem_requests_contract hr) hname
    · rcases mem_requests_handlers hr with rfl | hr
      · exact Or.inl (finds_contract hsub'.1 (isModule_server rfl (by decide)) hname)
      · exact finds_ends htypes hsub (hends s hs) (isModule_server rfl (by decide)) hr hname
    · rcases mem_requests_routes hr with rfl | rfl
      · exact Or.inl (finds_contract hsub'.1 (isModule_server rfl (by decide)) hname)
      · exact Or.inl (finds_handlers hsub'.2.1 (isModule_server rfl (by decide)) hname)

theorem isClosed_client (htypes : Types.documents m o = .ok types) (hsub : types ⊆ ds)
    {client : List Document} (hclient : Client.documents m o = .ok client)
    (hends : ∀ s, m.service = some s → ∀ op ∈ s.operations, ∀ x ∈ ends op, x ∈ m.structures)
    {d : Document} (hd : d ∈ client) : IsClosed m ds d := by
  intro r hr name hname
  unfold Client.documents at hclient
  split at hclient
  · obtain rfl := Except.ok.inj hclient
    simp at hd
  · next s hs =>
    obtain ⟨appName, -, hclient⟩ := Outcome.bind_eq_ok.mp hclient
    split at hclient
    · obtain rfl := Except.ok.inj hclient
      obtain rfl := List.mem_singleton.mp hd
      exact finds_ends htypes hsub (hends s hs) isModule_client (mem_requests_client hr) hname
    · simp [throw, throwThe, MonadExceptOf.throw] at hclient

/-- A package whose operations take and return structures of its model is closed. -/
theorem isClosed_of_documents (hds : documents m o = .ok ds)
    (hends : ∀ s, m.service = some s → ∀ op ∈ s.operations, ∀ x ∈ ends op, x ∈ m.structures) :
    ∀ d ∈ ds, IsClosed m ds d := by
  intro d hd
  obtain ⟨types, htypes, hds⟩ := Outcome.bind_eq_ok.mp hds
  obtain ⟨server, hserver, hds⟩ := Outcome.bind_eq_ok.mp hds
  obtain ⟨client, hclient, hds⟩ := Outcome.bind_eq_ok.mp hds
  obtain rfl := Except.ok.inj hds
  have hsub : types ⊆ types ++ server ++ client := by simp
  have hsub' : server ⊆ types ++ server ++ client := by simp
  rcases List.mem_append.mp hd with hd | hd
  · rcases List.mem_append.mp hd with hd | hd
    · exact isClosed_type htypes hsub hd
    · exact isClosed_server htypes hsub hserver hsub' hends hd
  · exact isClosed_client htypes hsub hclient hends hd

end Closure

end Emit

/-- The modules of a package built from a strict model import from each other what is there. For
every name imported, the module that the import leads to is one of the package and declares the
class of that name, unless it is the class of a structure whose module has no name. -/
theorem generate_imports_closed {doc : Value} {m : Model} {c : Config} {as : List Artifact}
    (hbuild : (Model.build .strict doc).result = .ok m)
    (hstruct : ∀ s, m.service = some s → ∀ op ∈ s.operations,
      ∀ x ∈ op.input.toList ++ op.output.toList, x.type = .struct)
    (hall : c.parts = [.types, .server, .client]) (h : (generate c m).result = .ok as) :
    ∃ o ds, c.options = .ok o ∧ Emit.documents m o = .ok ds ∧ ds.mapM o.render = .ok as
      ∧ ∀ d ∈ ds, ∀ r ∈ d.imports.relative ++ d.lateImports.relative, ∀ name ∈ r.2,
        (∃ d' ∈ ds, Imports.target? d.module r.1 = some (dottedParts d'.module)
          ∧ name ∈ d'.declarations.map (·.name))
        ∨ Naming.snake name = "" ∧ ∃ s ∈ m.structures, s.name = name := by
  obtain ⟨o, ds, ho, hds, hrender⟩ := documents_of_generate hall h
  refine ⟨o, ds, ho, hds, hrender, Emit.isClosed_of_documents hds ?_⟩
  intro s hs op hop x hx
  have hmem : x ∈ op.shapes := List.mem_append_left _ hx
  have hshape := (mem_shapes_of_build_strict hbuild hs hop).2 x hmem
  exact List.mem_filter.mpr ⟨hshape, by simp [hstruct s hs op hop x hx]⟩

def appOptions : Emit.Options := ⟨"app", .str ".", .str "app", true⟩

theorem generate_app_isOk (m : Model) : ∃ as, (generate appConfig m).result = .ok as := by
  have hparts : ∀ p : Part, ∃ as, p.artifacts m appOptions = .ok as := fun _ =>
    Part.artifacts_isOk (by decide) rfl (Or.inr ⟨"app", rfl⟩) (Or.inr (Or.inr rfl))
  choose f hf using hparts
  exact ⟨_, generate_eq_ok (o := appOptions) rfl fun p _ => hf p⟩

def authorDocument : Value :=
  .map [("shapes", .map [
    ("blog#Author", .map [("type", .str "structure")]),
    ("blog#Authors", .map [("type", .str "list"),
      ("members", .map [("member", .str "blog#Author")])]),
    ("blog#Post", .map [("type", .str "structure"),
      ("members", .map [("authors", .str "blog#Authors")])]),
    ("blog#PostKey", .map [("type", .str "structure")]),
    ("blog#GetPost", .map [("type", .str "operation"), ("input", .str "blog#PostKey"),
      ("output", .str "blog#Post")]),
    ("blog#Blog", .map [("type", .str "service"), ("operations", .list [.str "blog#GetPost"])])])]

theorem build_authorDocument :
    ∃ m ds, (Model.build .strict authorDocument).result = .ok m
      ∧ (m.service.elim [] fun s => s.operations.flatMap Emit.ends).map (·.type)
        = List.replicate 2 .struct
      ∧ (m.structures.map fun s => Naming.snake s.name) = ["author", "post", "post_key"]
      ∧ Emit.documents m appOptions = .ok ds ∧ (ds.flatMap Emit.requests).length = 9 :=
  ⟨_, _, rfl, rfl, by decide, rfl, rfl⟩

theorem generate_imports_closed_author :
    ∃ m as ds, (Model.build .strict authorDocument).result = .ok m
      ∧ (generate appConfig m).result = .ok as
      ∧ Emit.documents m appOptions = .ok ds ∧ ds.mapM appOptions.render = .ok as
      ∧ (ds.flatMap Emit.requests).length = 9
      ∧ ∀ d ∈ ds, ∀ r ∈ d.imports.relative ++ d.lateImports.relative, ∀ name ∈ r.2,
        ∃ d' ∈ ds, Imports.target? d.module r.1 = some (dottedParts d'.module)
          ∧ name ∈ d'.declarations.map (·.name) := by
  obtain ⟨m, ds, hm, htypes, hnames, hds, hlength⟩ := build_authorDocument
  obtain ⟨as, has⟩ := generate_app_isOk m
  have hstruct : ∀ s, m.service = some s → ∀ op ∈ s.operations,
      ∀ x ∈ op.input.toList ++ op.output.toList, x.type = .struct := by
    intro s hs op hop x hx
    have hmem : x.type ∈
        (m.service.elim [] fun s => s.operations.flatMap Emit.ends).map (·.type) := by
      rw [hs]
      exact List.mem_map_of_mem (List.mem_flatMap.mpr ⟨op, hop, hx⟩)
    rw [htypes] at hmem
    exact (List.mem_replicate.mp hmem).2
  obtain ⟨o, ds', ho, hds', hrender, hclosed⟩ := generate_imports_closed hm hstruct rfl has
  obtain rfl : appOptions = o := Except.ok.inj ho
  obtain rfl : ds = ds' := Except.ok.inj (hds.symm.trans hds')
  refine ⟨m, as, ds, hm, has, hds, hrender, hlength, ?_⟩
  intro d hd r hr name hname
  rcases hclosed d hd r hr name hname with hfound | ⟨hnameless, s, hs, rfl⟩
  · exact hfound
  · have hmem : Naming.snake s.name ∈ m.structures.map fun s => Naming.snake s.name :=
      List.mem_map_of_mem hs
    rw [hnames, hnameless] at hmem
    exact absurd hmem (by decide)

/-- A post whose draft is of a type with no letter or digit in its name. -/
def draftDocument : Value :=
  .map [("shapes", .map [
    ("blog#_", .map [("type", .str "structure")]),
    ("blog#Post", .map [("type", .str "structure"),
      ("members", .map [("draft", .str "blog#_")])])])]

theorem build_draftDocument :
    ∃ m ds, (Model.build .strict draftDocument).result = .ok m ∧ m.service.isNone = true
      ∧ Emit.documents m appOptions = .ok ds
      ∧ ds.map (·.module) = ["app.types.", "app.types.post"]
      ∧ ∃ d ∈ ds, d.lateImports.relative = [(".", ["_"])] ∧ d.module = "app.types.post" :=
  ⟨_, _, rfl, rfl, rfl, by decide, _, List.mem_cons_of_mem _ List.mem_cons_self, by decide,
    by decide⟩

/-- The module of a name without letters and digits has no name of its own, and the import of its
class leads to the package, which is no module of it. -/
theorem generate_imports_open_draft :
    ∃ m as ds, (Model.build .strict draftDocument).result = .ok m ∧ m.service.isNone = true
      ∧ (generate appConfig m).result = .ok as
      ∧ Emit.documents m appOptions = .ok ds ∧ ds.mapM appOptions.render = .ok as
      ∧ ds.map (·.module) = ["app.types.", "app.types.post"]
      ∧ ∃ d ∈ ds, (".", ["_"]) ∈ d.lateImports.relative
        ∧ ∀ d' ∈ ds, Imports.target? d.module "." ≠ some (dottedParts d'.module) := by
  obtain ⟨m, ds, hm, hservice, hds, hmodules, d, hd, hlate, hmodule⟩ := build_draftDocument
  obtain ⟨as, has⟩ := generate_app_isOk m
  obtain ⟨o, ds', ho, hds', hrender⟩ := documents_of_generate rfl has
  obtain rfl : appOptions = o := Except.ok.inj ho
  obtain rfl : ds = ds' := Except.ok.inj (hds.symm.trans hds')
  refine ⟨m, as, ds, hm, hservice, has, hds, hrender, hmodules, d, hd, ?_, ?_⟩
  · rw [hlate]
    exact List.mem_singleton.mpr rfl
  · intro d' hd'
    have htarget : Imports.target? "app.types.post" "." = some ["app", "types"] := by decide
    have hmem : d'.module ∈ ds.map (·.module) := List.mem_map_of_mem hd'
    rw [hmodules] at hmem
    rw [hmodule, htarget]
    rcases List.mem_pair.mp hmem with he | he
    · rw [he]
      decide
    · rw [he]
      decide

end SmithyGen
