import SmithyGen.Proofs.EmitterView
import SmithyGen.Proofs.ReferenceSpelling
import SmithyGen.Proofs.Resolution

namespace SmithyGen

open Build Outcome

/-- A reference to an id, which may come with traits. -/
inductive Refers (id : String) : Value → Prop
  | bare : Refers id (.str id)
  | targeted {es traits : Entries Value} : Value.field es "target" = .str id →
    entriesOf (Value.field es "traits") = .ok traits → Refers id (.map es)

/-- One of the three forms of an element, beside members that do not give it. -/
inductive GivesElement (key id : String) (others es : Entries Value) : Prop
  | target : Refers id (Value.field es "target") → Value.field es key = .null →
    entriesOf (Value.field es "members") = .ok others → GivesElement key id others es
  | property : Value.field es "target" = .null → Refers id (Value.field es key) →
    entriesOf (Value.field es "members") = .ok others → GivesElement key id others es
  | member {before after : Entries Value} {v : Value} : Value.field es "target" = .null →
    Value.field es key = .null →
    entriesOf (Value.field es "members") = .ok (before ++ (key, v) :: after) →
    others = before ++ after → Refers id v → GivesElement key id others es

/-- The types of raw lists and maps, and the key under which each gives its element. -/
def elementKeys : List (String × String) :=
  [("list", "member"), ("set", "member"), ("map", "value")]

/-- Two raw lists or maps with one element, in forms of their own. -/
inductive SameElement : Value → Value → Prop
  | intro {es es' others : Entries Value} {type key id : String} : (type, key) ∈ elementKeys →
    Value.field es "type" = .str type → key ∉ others.keys →
    (∀ k, k ∉ ["target", key, "members"] → Value.field es k = Value.field es' k) →
    GivesElement key id others es → GivesElement key id others es' →
    SameElement (.map es) (.map es')

/-- One raw shape, or two forms of one of those that were moved. -/
def SameForm (moved : List String) (id : String) (v w : Value) : Prop :=
  v = w ∨ id ∈ moved ∧ SameElement v w

/-- Two documents that give the elements of some lists and maps in different forms. -/
def SameButForms (moved : List String) : Value → Value → Prop := SameButShapes (SameForm moved)

def fixedFields : List String := ["type", "traits", "enum", "input", "output", "errors"]

def Model.inputs (m : Model) : List Shape :=
  (m.service.elim [] (·.operations)).filterMap (·.input)

theorem Refers.reference?_eq {id : String} {v : Value} (h : Refers id v) :
    Prelude.reference? v = Prelude.nonEmpty? id := by
  cases h with
  | bare => rfl
  | targeted htarget => simp [Prelude.reference?, htarget, Value.str?]

theorem SameElement.cases {v w : Value} (h : SameElement v w) :
    ∃ es es' type, v = .map es ∧ w = .map es' ∧ Value.field es "type" = .str type
      ∧ type ≠ "service" ∧ ∀ k ∈ fixedFields, Value.field es k = Value.field es' k := by
  have hkeys : ∀ entry ∈ elementKeys, entry.1 ≠ "service"
      ∧ ∀ k ∈ fixedFields, k ∉ ["target", entry.2, "members"] := by decide
  obtain @⟨es, es', others, type, key, id, hmem, htype, -, hother, -, -⟩ := h
  obtain ⟨hservice, hfixed⟩ := hkeys (type, key) hmem
  exact ⟨es, es', type, rfl, rfl, htype, hservice, fun k hk => hother k (hfixed k hk)⟩

theorem SameForm.fixed {moved : List String} {id : String} {es : Entries Value} {w : Value}
    (h : SameForm moved id (.map es) w) :
    ∃ es', w = .map es' ∧ ∀ k ∈ fixedFields, Value.field es k = Value.field es' k := by
  obtain rfl | ⟨-, hsame⟩ := h
  · exact ⟨es, rfl, fun _ _ => rfl⟩
  · obtain ⟨_, es', -, he, rfl, -, -, hfield⟩ := hsame.cases
    obtain rfl := Value.map.inj he
    exact ⟨es', rfl, hfield⟩

namespace Build

theorem member_of_refers (name : String) {id : String} {v : Value} (h : Refers id v) :
    ∃ m, member name v = .ok m ∧ m.name = name
      ∧ Prelude.nonEmpty? m.target = Prelude.nonEmpty? id := by
  have hid : Prelude.nonEmpty? ((Prelude.nonEmpty? id).getD "") = Prelude.nonEmpty? id := by
    unfold Prelude.nonEmpty?
    split_ifs <;> simp_all
  cases h with
  | bare => exact ⟨_, rfl, rfl, hid⟩
  | @targeted es traits htarget htraits =>
    refine ⟨⟨name, (Prelude.nonEmpty? id).getD "", bindingOf traits, traits,
      documentationOf traits⟩, ?_, rfl, hid⟩
    simp only [member, htraits, htarget]
    rfl

theorem find?_name_eq_none {es : Entries Value} {ms : List Member} {key : String}
    (h : members es = .ok ms) (hkey : key ∉ es.keys) : ms.find? (·.name == key) = none := by
  refine List.find?_eq_none.mpr fun m hm hname => hkey ?_
  rw [← names_of_members h]
  exact List.mem_map.mpr ⟨m, hm, by simpa using hname⟩

theorem members_append {before after : Entries Value} {ms : List Member} :
    members (before ++ after) = .ok ms ↔
      ∃ bs as, members before = .ok bs ∧ members after = .ok as ∧ ms = bs ++ as := by
  simp only [members_eq_mapM, List.mapM_append]
  constructor
  · intro h
    obtain ⟨bs, hbs, h⟩ := bind_eq_ok.mp h
    obtain ⟨as, has, h⟩ := bind_eq_ok.mp h
    obtain rfl := Except.ok.inj h
    exact ⟨bs, as, hbs, has, rfl⟩
  · rintro ⟨bs, as, hbs, has, rfl⟩
    rw [hbs, has]
    rfl

theorem members_cons {key : String} {v : Value} {rest : Entries Value} {ms : List Member} :
    members ((key, v) :: rest) = .ok ms ↔
      ∃ m as, member key v = .ok m ∧ members rest = .ok as ∧ ms = m :: as := by
  constructor
  · intro h
    obtain ⟨m, hm, h⟩ := bind_eq_ok.mp h
    obtain ⟨as, has, h⟩ := bind_eq_ok.mp h
    obtain rfl := Except.ok.inj h
    exact ⟨m, as, hm, has, rfl⟩
  · rintro ⟨m, as, hm, has, rfl⟩
    rw [members, hm, has]
    rfl

theorem members_of_gives {key id : String} {others es : Entries Value}
    (h : GivesElement key id others es) {ms : List Member} (hms : members others = .ok ms) :
    ∃ ms', (entriesOf (Value.field es "members") >>= members) = .ok ms' := by
  cases h with
  | target _ _ hmembers => exact ⟨ms, bind_eq_ok.mpr ⟨others, hmembers, hms⟩⟩
  | property _ _ hmembers => exact ⟨ms, bind_eq_ok.mpr ⟨others, hmembers, hms⟩⟩
  | member _ _ hmembers hothers href =>
    subst hothers
    obtain ⟨bs, as, hbs, has, -⟩ := members_append.mp hms
    obtain ⟨m, hm, -⟩ := member_of_refers key href
    have hmore := members_cons.mpr ⟨m, as, hm, has, rfl⟩
    exact ⟨_, bind_eq_ok.mpr ⟨_, hmembers, members_append.mpr ⟨bs, _, hbs, hmore, rfl⟩⟩⟩

/-- Whatever the form, the element target is the id that was given. -/
theorem elementTarget_of_gives {key id : String} {others es : Entries Value}
    (h : GivesElement key id others es) (hkey : key ∉ others.keys) {type : ShapeType}
    (htype : type.elementKey? = some key) {ms : List Member}
    (hms : (entriesOf (Value.field es "members") >>= members) = .ok ms) :
    elementTarget type es ms = Prelude.nonEmpty? id ∧ ∃ ms', members others = .ok ms' := by
  obtain ⟨raw, hraw, hms⟩ := bind_eq_ok.mp hms
  rw [elementTarget_eq htype, elementProperty?, elementMember?]
  cases h with
  | target href hproperty hmembers =>
    obtain rfl := Except.ok.inj (hmembers.symm.trans hraw)
    rw [href.reference?_eq, hproperty, find?_name_eq_none hms hkey]
    exact ⟨by simp [Prelude.reference?], ms, hms⟩
  | property htarget href hmembers =>
    obtain rfl := Except.ok.inj (hmembers.symm.trans hraw)
    rw [href.reference?_eq, htarget, find?_name_eq_none hms hkey]
    exact ⟨by simp [Prelude.reference?], ms, hms⟩
  | @member before after v htarget hproperty hmembers hothers href =>
    subst hothers
    obtain rfl := Except.ok.inj (hmembers.symm.trans hraw)
    obtain ⟨bs, _, hbs, hmore, rfl⟩ := members_append.mp hms
    obtain ⟨m, as, hm, has, rfl⟩ := members_cons.mp hmore
    obtain ⟨m', hm', hname, hid⟩ := member_of_refers key href
    obtain rfl := Except.ok.inj (hm'.symm.trans hm)
    -- No member before it has its name, so it is the one that is found.
    have hbefore : key ∉ before.keys := fun hb => hkey (by
      rw [Entries.keys, List.map_append]
      exact List.mem_append_left _ hb)
    have hfind : (bs ++ m' :: as).find? (·.name == key) = some m' := by
      rw [List.find?_append, find?_name_eq_none hbs hbefore]
      simp [hname]
    refine ⟨?_, _, members_append.mpr ⟨bs, as, hbs, has, rfl⟩⟩
    rw [htarget, hproperty, hfind]
    exact hid

theorem elementKey?_of_mem {type key : String} (h : (type, key) ∈ elementKeys) (id : String)
    {t : ShapeType} (ht : (shapeType id (.str type)).result = .ok t) :
    t.elementKey? = some key := by
  simp only [elementKeys, List.mem_cons, Prod.mk.injEq, List.not_mem_nil, or_false] at h
  obtain ⟨rfl, rfl⟩ | ⟨rfl, rfl⟩ | ⟨rfl, rfl⟩ := h
  · obtain rfl : ShapeType.list = t := Except.ok.inj ht
    rfl
  · obtain rfl : ShapeType.list = t := Except.ok.inj ht
    rfl
  · obtain rfl : ShapeType.map = t := Except.ok.inj ht
    rfl

theorem shape_of_sameElement {id : String} {v w : Value} (h : SameElement v w) {s : Shape}
    (hs : (shape id v).result = .ok s) :
    s.type ≠ .struct ∧ ∃ ms, (shape id w).result = .ok { s with members := ms } := by
  obtain ⟨_, _, -, he, he', -, -, hfield⟩ := h.cases
  obtain @⟨es, es', others, type, key, target, hmem, htype, hkey, -, hgives, hgives'⟩ := h
  obtain rfl := Value.map.inj he
  obtain rfl := Value.map.inj he'
  obtain ⟨t, ms, traits, ht, hms, htraits, rfl⟩ := shape_eq_ok_iff.mp hs
  have hkind : t.elementKey? = some key := elementKey?_of_mem hmem id (by rwa [htype] at ht)
  -- Both forms stand beside the same other members, which are read on both sides.
  obtain ⟨htarget, ms₀, hms₀⟩ := elementTarget_of_gives hgives hkey hkind hms
  obtain ⟨ms', hms'⟩ := members_of_gives hgives' hms₀
  obtain ⟨htarget', -⟩ := elementTarget_of_gives hgives' hkey hkind hms'
  refine ⟨fun hstruct : t = .struct => ?_, ms', ?_⟩
  · rw [hstruct] at hkind
    cases hkind
  · rw [hfield "type" (by decide)] at ht
    rw [hfield "traits" (by decide)] at htraits
    refine shape_eq_ok_iff.mpr ⟨t, ms', traits, ht, hms', htraits, ?_⟩
    rw [htarget, htarget', hfield "enum" (by decide)]

end Build

/-- One shape, or a list or map that was moved and differs in its members. -/
inductive SameButMembers (moved : List String) : Shape → Shape → Prop
  | same (s : Shape) : SameButMembers moved s s
  | members {s : Shape} (ms : List Member) : s.id ∈ moved → s.type ≠ .struct →
    SameButMembers moved s { s with members := ms }

namespace SameButMembers

variable {moved : List String} {s s' : Shape}

theorem bare_eq (h : SameButMembers moved s s') : s.bare = s'.bare := by
  cases h <;> rfl

theorem id_eq (h : SameButMembers moved s s') : s.id = s'.id := by
  cases h <;> rfl

theorem eq_of_not_mem (h : SameButMembers moved s s') (hs : s.id ∉ moved) : s = s' := by
  cases h with
  | same => rfl
  | members ms hmem => exact absurd hmem hs

end SameButMembers

section Shapes

variable {moved : List String} {all all' : List Shape}

theorem bare_eq_of_forall₂ (h : List.Forall₂ (SameButMembers moved) all all') :
    all.map Shape.bare = all'.map Shape.bare := by
  induction h with
  | nil => rfl
  | cons hs _ ih => rw [List.map_cons, List.map_cons, hs.bare_eq, ih]

theorem structures_eq_of_forall₂ (h : List.Forall₂ (SameButMembers moved) all all') :
    all.filter (·.type == .struct) = all'.filter (·.type == .struct) := by
  induction h with
  | nil => rfl
  | cons hs _ ih =>
    cases hs with
    | same => rw [List.filter_cons, List.filter_cons, ih]
    | members ms hmem hne =>
      rw [List.filter_cons_of_neg, List.filter_cons_of_neg, ih]
      · simpa using hne
      · simpa using hne

theorem lookup?_of_forall₂ (h : List.Forall₂ (SameButMembers moved) all all') (id : String) :
    Option.Rel (SameButMembers moved) (Shape.lookup? all id) (Shape.lookup? all' id) := by
  induction h with
  | nil => exact .none
  | cons hs _ ih =>
    unfold Shape.lookup? at ih ⊢
    rw [List.find?_cons, List.find?_cons, ← hs.id_eq]
    split
    · exact .some hs
    · exact ih

end Shapes

namespace Build

section Lenient

variable {moved : List String} {all all' : List Shape}

theorem checkMembers_lenient (s : Shape) (ms : List Member) :
    (checkMembers .lenient all s ms).result = .ok () := by
  induction ms with
  | nil => rfl
  | cons m ms ih =>
    rw [checkMembers]
    split_ifs
    · exact ih
    · exact result_bind_eq_ok.mpr ⟨(), rfl, ih⟩

theorem checkTargets_lenient (ss : List Shape) :
    (checkTargets .lenient all ss).result = .ok () := by
  induction ss with
  | nil => rfl
  | cons s ss ih => exact result_bind_eq_ok.mpr ⟨(), checkMembers_lenient s s.members, ih⟩

theorem operationShape_lenient (h : List.Forall₂ (SameButMembers moved) all all')
    (operation : String) (ref : Value) :
    ∃ s s', (operationShape .lenient all operation ref).result = .ok s
      ∧ (operationShape .lenient all' operation ref).result = .ok s'
      ∧ Option.Rel (SameButMembers moved) s s' := by
  unfold operationShape
  split
  · exact ⟨none, none, rfl, rfl, .none⟩
  · next id _ =>
    split_ifs
    · exact ⟨none, none, rfl, rfl, .none⟩
    · obtain ⟨hs, hs'⟩ | ⟨s, s', hs, hs', hsame⟩ := rel_cases (lookup?_of_forall₂ h id)
      · rw [hs, hs']
        exact ⟨_, _, rfl, rfl, .some (.same _)⟩
      · rw [hs, hs']
        exact ⟨some s, some s', rfl, rfl, .some hsame⟩

theorem operationShapes_lenient (h : List.Forall₂ (SameButMembers moved) all all')
    (operation : String) (refs : List Value) :
    ∃ ss ss', (operationShapes .lenient all operation refs).result = .ok ss
      ∧ (operationShapes .lenient all' operation refs).result = .ok ss'
      ∧ ss.map Shape.bare = ss'.map Shape.bare := by
  induction refs with
  | nil => exact ⟨[], [], rfl, rfl, rfl⟩
  | cons ref refs ih =>
    obtain ⟨s, s', hs, hs', hrel⟩ := operationShape_lenient h operation ref
    obtain ⟨ss, ss', hss, hss', hbare⟩ := ih
    refine ⟨s.toList ++ ss, s'.toList ++ ss', ?_, ?_, ?_⟩
    · exact result_bind_eq_ok.mpr ⟨s, hs, result_bind_eq_ok.mpr ⟨ss, hss, rfl⟩⟩
    · exact result_bind_eq_ok.mpr ⟨s', hs', result_bind_eq_ok.mpr ⟨ss', hss', rfl⟩⟩
    · rw [List.map_append, List.map_append, hbare]
      cases hrel with
      | none => rfl
      | some hrel => simp [hrel.bare_eq]

theorem httpBinding_isOk {operation : String} {raw : Value} {input : Option Shape} {b : HttpBinding}
    (h : httpBinding operation raw input = .ok b) (input' : Option Shape) :
    ∃ b', httpBinding operation raw input' = .ok b' := by
  obtain ⟨code, hcode, h⟩ := bind_eq_ok.mp h
  split at h
  · next uri huri =>
    refine ⟨{ b with queryParams := namesBoundTo .query input',
                     headerParams := namesBoundTo .header input' }, ?_⟩
    obtain rfl := Except.ok.inj h
    refine bind_eq_ok.mpr ⟨code, hcode, ?_⟩
    rw [huri]
    rfl
  · cases h

/-- The same operation over shapes that differ in members, but for an input that was moved. -/
theorem operation_lenient (h : List.Forall₂ (SameButMembers moved) all all') (id : String)
    {es es' : Entries Value}
    (hfield : ∀ k ∈ fixedFields, Value.field es k = Value.field es' k)
    {o : Operation} (ho : (operation .lenient all id es).result = .ok o) :
    ∃ o', (operation .lenient all' id es').result = .ok o'
      ∧ ((∀ i ∈ o.input, i.id ∉ moved) → o.bare = o'.bare) := by
  rw [operation, hfield "traits" (by decide), hfield "input" (by decide),
    hfield "output" (by decide), hfield "errors" (by decide)] at ho
  obtain ⟨traits, htraits, ho⟩ := result_bind_eq_ok.mp ho
  obtain ⟨input, hinput, ho⟩ := result_bind_eq_ok.mp ho
  obtain ⟨output, houtput, ho⟩ := result_bind_eq_ok.mp ho
  obtain ⟨refs, hrefs, ho⟩ := result_bind_eq_ok.mp ho
  obtain ⟨errors, herrors, ho⟩ := result_bind_eq_ok.mp ho
  obtain ⟨http, hhttp, ho⟩ := result_bind_eq_ok.mp ho
  obtain rfl := Except.ok.inj ho
  obtain ⟨i, input', hi, hinput', hinputs⟩ :=
    operationShape_lenient h id (Value.field es' "input")
  obtain rfl := Except.ok.inj (hi.symm.trans hinput)
  obtain ⟨x, output', hx, houtput', houtputs⟩ :=
    operationShape_lenient h id (Value.field es' "output")
  obtain rfl := Except.ok.inj (hx.symm.trans houtput)
  obtain ⟨xs, errors', hxs, herrors', hbare⟩ := operationShapes_lenient h id refs
  obtain rfl := Except.ok.inj (hxs.symm.trans herrors)
  obtain ⟨http', hhttp'⟩ := httpBinding_isOk hhttp input'
  refine ⟨⟨id, Naming.shapeName id, input', output', errors', http', traits,
    documentationOf traits⟩, ?_, ?_⟩
  · refine result_bind_eq_ok.mpr ⟨traits, htraits, ?_⟩
    refine result_bind_eq_ok.mpr ⟨input', hinput', ?_⟩
    refine result_bind_eq_ok.mpr ⟨output', houtput', ?_⟩
    refine result_bind_eq_ok.mpr ⟨refs, hrefs, ?_⟩
    refine result_bind_eq_ok.mpr ⟨errors', herrors', ?_⟩
    exact result_bind_eq_ok.mpr ⟨http', hhttp', rfl⟩
  · intro hmoved
    -- The binding of an operation reads the members of its input, so the two have to be equal.
    obtain rfl : i = input' := by
      cases hinputs with
      | none => rfl
      | some hrel => rw [hrel.eq_of_not_mem (hmoved _ rfl)]
    obtain rfl := Except.ok.inj (hhttp'.symm.trans hhttp)
    have houtputs : x.map Shape.bare = output'.map Shape.bare := by
      cases houtputs with
      | none => rfl
      | some hrel => exact congrArg some hrel.bare_eq
    simp only [Operation.bare, houtputs, hbare]

variable {raw raw' : Entries Value}

theorem operations_lenient (h : List.Forall₂ (SameButMembers moved) all all')
    (hraw : SameEntries (SameForm moved) raw raw')
    (service : String) (refs : List Value) {os : List Operation}
    (hos : (operations .lenient all raw service refs).result = .ok os) :
    ∃ os', (operations .lenient all' raw' service refs).result = .ok os'
      ∧ ((∀ o ∈ os, ∀ i ∈ o.input, i.id ∉ moved) →
          os.map Operation.bare = os'.map Operation.bare) := by
  induction refs generalizing os with
  | nil =>
    obtain rfl := Except.ok.inj hos
    exact ⟨[], rfl, fun _ => rfl⟩
  | cons ref refs ih =>
    rw [operations] at hos ⊢
    cases href : Prelude.reference? ref with
    | none =>
      rw [href] at hos
      obtain ⟨-, -, hos⟩ := result_bind_eq_ok.mp hos
      obtain ⟨os', hos', hbare⟩ := ih hos
      exact ⟨os', result_bind_eq_ok.mpr ⟨(), rfl, hos'⟩, hbare⟩
    | some id =>
      simp only [href, Option.bind_some] at hos ⊢
      obtain ⟨hv, hw⟩ | ⟨v, w, hv, hw, hform⟩ := rel_cases (hraw.get? id)
      · rw [hv] at hos
        obtain ⟨-, -, hos⟩ := result_bind_eq_ok.mp hos
        obtain ⟨os', hos', hbare⟩ := ih hos
        exact ⟨os', by rw [hw]; exact result_bind_eq_ok.mpr ⟨(), rfl, hos'⟩, hbare⟩
      · rw [hv] at hos
        rw [hw]
        obtain ⟨es, rfl⟩ : ∃ es, v = .map es := by
          cases v <;> first | exact ⟨_, rfl⟩ | cases hos
        obtain ⟨es', rfl, hfield⟩ := hform.fixed
        obtain ⟨o, ho, hos⟩ := result_bind_eq_ok.mp hos
        obtain ⟨rest, hrest, hos⟩ := result_bind_eq_ok.mp hos
        obtain rfl := Except.ok.inj hos
        obtain ⟨o', ho', hbare⟩ := operation_lenient h id hfield ho
        obtain ⟨rest', hrest', hbares⟩ := ih hrest
        refine ⟨o' :: rest', ?_, fun hmoved => ?_⟩
        · exact result_bind_eq_ok.mpr ⟨o', ho', result_bind_eq_ok.mpr ⟨rest', hrest', rfl⟩⟩
        · rw [List.map_cons, List.map_cons, hbare (hmoved o (by simp)),
            hbares fun o ho => hmoved o (List.mem_cons_of_mem _ ho)]

theorem find?_isServiceEntry_of_forms (hraw : SameEntries (SameForm moved) raw raw') :
    raw.find? isServiceEntry = raw'.find? isServiceEntry := by
  induction hraw with
  | nil => rfl
  | @cons a b raw raw' hab _ ih =>
    obtain ⟨id, v⟩ := a
    obtain ⟨id', w⟩ := b
    obtain ⟨rfl, hvw⟩ := hab
    dsimp only at hvw
    obtain rfl | ⟨-, hsame⟩ := hvw
    · rw [List.find?_cons, List.find?_cons, ih]
    · obtain ⟨es, es', type, rfl, rfl, htype, hne, hfield⟩ := hsame.cases
      have htype' : Value.field es' "type" = .str type := by rw [← htype, hfield "type" (by decide)]
      rw [List.find?_cons_of_neg, List.find?_cons_of_neg, ih]
      · simpa [isServiceEntry, htype', Value.str?] using hne
      · simpa [isServiceEntry, htype, Value.str?] using hne

theorem service_lenient (h : List.Forall₂ (SameButMembers moved) all all')
    (hraw : SameEntries (SameForm moved) raw raw')
    (ns : String) {s : Option Service} (hs : (service .lenient all raw ns).result = .ok s) :
    ∃ s', (service .lenient all' raw' ns).result = .ok s'
      ∧ ((∀ o ∈ s.elim [] (·.operations), ∀ i ∈ o.input, i.id ∉ moved) →
          s.map Service.bare = s'.map Service.bare) := by
  unfold service at hs ⊢
  rw [← find?_isServiceEntry_of_forms hraw]
  split at hs
  · next id es hfind =>
    obtain ⟨traits, htraits, hs⟩ := result_bind_eq_ok.mp hs
    obtain ⟨refs, hrefs, hs⟩ := result_bind_eq_ok.mp hs
    obtain ⟨os, hos, hs⟩ := result_bind_eq_ok.mp hs
    obtain ⟨errors, herrors, hs⟩ := result_bind_eq_ok.mp hs
    obtain ⟨os', hos', hbare⟩ := operations_lenient h hraw id refs hos
    obtain ⟨s, rfl⟩ : ∃ t, s = some t := ⟨_, (Except.ok.inj hs).symm⟩
    refine ⟨some { s with operations := os' }, ?_, ?_⟩
    · obtain rfl := Option.some.inj (Except.ok.inj hs)
      refine result_bind_eq_ok.mpr ⟨traits, htraits, ?_⟩
      refine result_bind_eq_ok.mpr ⟨refs, hrefs, ?_⟩
      refine result_bind_eq_ok.mpr ⟨os', hos', ?_⟩
      exact result_bind_eq_ok.mpr ⟨errors, herrors, rfl⟩
    · obtain rfl := Option.some.inj (Except.ok.inj hs)
      intro hmoved
      simp only [Option.map_some, Service.bare, hbare hmoved]
  · obtain rfl := Except.ok.inj hs
    exact ⟨none, rfl, fun _ => rfl⟩

theorem shapes_lenient (hraw : SameEntries (SameForm moved) raw raw')
    {ss : List Shape} (hss : (shapes raw).result = .ok ss) :
    ∃ ss', (shapes raw').result = .ok ss' ∧ List.Forall₂ (SameButMembers moved) ss ss' := by
  induction hraw generalizing ss with
  | nil =>
    obtain rfl := Except.ok.inj hss
    exact ⟨[], rfl, .nil⟩
  | @cons a b raw raw' hab _ ih =>
    obtain ⟨id, v⟩ := a
    obtain ⟨id', w⟩ := b
    obtain ⟨rfl, hvw⟩ := hab
    obtain ⟨s, hs, hss⟩ := result_bind_eq_ok.mp hss
    obtain ⟨rest, hrest, hss⟩ := result_bind_eq_ok.mp hss
    obtain rfl := Except.ok.inj hss
    obtain ⟨rest', hrest', hall⟩ := ih hrest
    obtain ⟨s', hs', hsame⟩ : ∃ s', (shape id w).result = .ok s' ∧ SameButMembers moved s s' := by
      dsimp only at hvw
      obtain rfl | ⟨hmem, helement⟩ := hvw
      · exact ⟨s, hs, .same s⟩
      · obtain ⟨hne, ms, hs'⟩ := shape_of_sameElement helement hs
        obtain ⟨-, -, hid, -⟩ := shape_cases hs
        exact ⟨_, hs', .members ms (by rwa [hid]) hne⟩
    exact ⟨s' :: rest', result_bind_eq_ok.mpr ⟨s', hs', result_bind_eq_ok.mpr ⟨rest', hrest', rfl⟩⟩,
      .cons hsame hall⟩

end Lenient

/-- A lenient build goes on where elements are given in other forms, and makes the same model but
for members that were moved. -/
theorem build_lenient {moved : List String} {doc doc' : Value} (h : SameButForms moved doc doc')
    {m : Model} (hm : (Model.build .lenient doc).result = .ok m) :
    ∃ m', (Model.build .lenient doc').result = .ok m'
      ∧ List.Forall₂ (SameButMembers moved) m.shapes m'.shapes
      ∧ ((∀ s ∈ m.inputs, s.id ∉ moved) → m.bare = m'.bare) := by
  cases h with
  | same => exact ⟨m, hm, List.forall₂_same.mpr fun s _ => .same s, fun _ => rfl⟩
  | @shapes es es' raw raw' hother hshapes hshapes' hraw =>
    have hmetadata : Value.field es "metadata" = Value.field es' "metadata" :=
      hother "metadata" (by decide)
    simp only [Model.build, sectionOf, hshapes, hshapes', hmetadata, orElse_map, lift_ok_bind,
      namespaceOf_congr _ hraw.keys_eq, entriesOf_map] at hm ⊢
    obtain ⟨metadata, hmeta, hm⟩ := result_bind_eq_ok.mp hm
    obtain ⟨ns, hns, hm⟩ := result_bind_eq_ok.mp hm
    obtain ⟨all, hall, hm⟩ := result_bind_eq_ok.mp hm
    obtain ⟨⟨⟩, -, hm⟩ := result_bind_eq_ok.mp hm
    obtain ⟨service?, hservice, hm⟩ := result_bind_eq_ok.mp hm
    obtain ⟨⟨⟩, -, hm⟩ := result_bind_eq_ok.mp hm
    obtain rfl := Except.ok.inj hm
    obtain ⟨all', hall', hsame⟩ := shapes_lenient hraw hall
    obtain ⟨service', hservice', hbare⟩ := service_lenient hsame hraw ns hservice
    refine ⟨⟨ns, all', service', metadata⟩, ?_, hsame, fun hinputs => ?_⟩
    · refine result_bind_eq_ok.mpr ⟨metadata, hmeta, ?_⟩
      refine result_bind_eq_ok.mpr ⟨ns, hns, ?_⟩
      refine result_bind_eq_ok.mpr ⟨all', hall', ?_⟩
      refine result_bind_eq_ok.mpr ⟨(), checkTargets_lenient all', ?_⟩
      refine result_bind_eq_ok.mpr ⟨service', hservice', ?_⟩
      exact result_bind_eq_ok.mpr ⟨(), rfl, rfl⟩
    · have hservices : service?.map Service.bare = service'.map Service.bare := by
        refine hbare fun o ho i hi => hinputs i ?_
        exact List.mem_filterMap.mpr ⟨o, ho, hi⟩
      simp only [Model.bare, bare_eq_of_forall₂ hsame, hservices]

end Build

/-- How a document writes its references does not matter. Bare or as a map with a target, they give
the same outcome of a build, notices included. The element of a list or map that is no operation's
input gives the same target and the same artifacts in each of its forms. -/
theorem reference_forms_agree :
    (∀ (policy : ReferencePolicy) (doc doc' : Value), SameButSpelling doc doc' →
      Model.build policy doc = Model.build policy doc')
    ∧ ∀ (moved : List String) (doc doc' : Value) (m : Model), SameButForms moved doc doc' →
      (Model.build .lenient doc).result = .ok m → (∀ s ∈ m.inputs, s.id ∉ moved) →
      ∃ m', (Model.build .lenient doc').result = .ok m'
        ∧ m'.shapes.map (fun s => (s.id, s.target)) = m.shapes.map (fun s => (s.id, s.target))
        ∧ ∀ (p : Part) (o : Emit.Options), p.artifacts m' o = p.artifacts m o := by
  refine ⟨fun policy doc doc' h => build_congr policy h, ?_⟩
  intro moved doc doc' m h hm hinputs
  obtain ⟨m', hm', hsame, hbare⟩ := build_lenient h hm
  have hmodel := hbare hinputs
  refine ⟨m', hm', ?_, fun p o => ?_⟩
  · have hshapes := congrArg (·.map fun s => (s.id, s.target)) (bare_eq_of_forall₂ hsame)
    simpa [Function.comp_def, Shape.bare] using hshapes.symm
  · exact (Part.artifacts_congr hmodel (structures_eq_of_forall₂ hsame) p o).symm

theorem sameButShapes_tagsDocument {R : String → Value → Value → Prop} (hR : ∀ id v, R id v v)
    {element element' : Entries Value}
    (h : R "blog#Tags" (.map (("type", .str "list") :: element))
      (.map (("type", .str "list") :: element'))) :
    SameButShapes R (tagsDocument element) (tagsDocument element') := by
  refine .shapes (fun key hkey => ?_) rfl rfl (.cons ⟨rfl, h⟩ ?_)
  · have hne : (key == "shapes") = false := by simpa using hkey
    simp only [Value.field, Entries.get?, List.lookup_cons, hne]
  · exact List.forall₂_same.mpr fun entry _ => ⟨rfl, hR entry.1 entry.2⟩

/-- A list whose element is a property on one side and a member on the other. -/
theorem reference_forms_agree_tags :
    Model.build .strict (tagsDocument [("member", .str "blog#Post")])
        = Model.build .strict (tagsDocument [("member", .map [("target", .str "blog#Post")])])
    ∧ ∃ m m', (Model.build .lenient (tagsDocument [("member", .str "blog#Post")])).result = .ok m
      ∧ (Model.build .lenient (tagsDocument
          [("members", .map [("member", .map [("target", .str "blog#Post")])])])).result = .ok m'
      ∧ m'.shapes.map (fun s => (s.id, s.target)) = m.shapes.map (fun s => (s.id, s.target))
      ∧ ∀ (p : Part) (o : Emit.Options), p.artifacts m' o = p.artifacts m o := by
  obtain ⟨hspelling, hforms⟩ := reference_forms_agree
  refine ⟨hspelling .strict _ _ (sameButShapes_tagsDocument (fun _ => .same) ?_), ?_⟩
  · exact .fields (.cons ⟨rfl, rfl⟩ (.cons ⟨rfl, .spelled .bare .targeted⟩ .nil))
  · obtain ⟨m, hm, hinputs⟩ : ∃ m,
        (Model.build .lenient (tagsDocument [("member", .str "blog#Post")])).result = .ok m
        ∧ m.inputs = [] := ⟨_, rfl, rfl⟩
    have hmoved : SameButForms ["blog#Tags"] (tagsDocument [("member", .str "blog#Post")])
        (tagsDocument [("members", .map [("member", .map [("target", .str "blog#Post")])])]) := by
      have hproperty : GivesElement "member" "blog#Post" []
          [("type", .str "list"), ("member", .str "blog#Post")] := .property rfl .bare rfl
      have hmember : GivesElement "member" "blog#Post" []
          [("type", .str "list"),
            ("members", .map [("member", .map [("target", .str "blog#Post")])])] :=
        @GivesElement.member _ _ _ _ [] [] _ rfl rfl rfl rfl (.targeted rfl rfl)
      refine sameButShapes_tagsDocument (fun _ _ => Or.inl rfl) (Or.inr ⟨by simp, ?_⟩)
      refine .intro (by decide) rfl List.not_mem_nil (fun key hkey => ?_) hproperty hmember
      simp only [List.mem_cons, List.not_mem_nil, or_false, not_or] at hkey
      obtain ⟨-, hmember, hmembers⟩ := hkey
      have hne : (key == "member") = false := by simpa using hmember
      have hne' : (key == "members") = false := by simpa using hmembers
      simp only [Value.field, Entries.get?, List.lookup_cons, hne, hne']
    obtain ⟨m', hm', htargets, hartifacts⟩ :=
      hforms ["blog#Tags"] _ _ m hmoved hm (by simp [hinputs])
    exact ⟨m, m', hm, hm', htargets, hartifacts⟩

end SmithyGen
