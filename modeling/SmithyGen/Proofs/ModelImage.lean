import SmithyGen.Proofs.DistinctKeys
import SmithyGen.Proofs.Building

namespace SmithyGen

namespace Build

open Outcome Value

theorem hasDistinctKeys_entriesOf {v : Value} {es : Entries Value}
    (hv : hasDistinctKeys v = true) (h : entriesOf v = .ok es) :
    hasDistinctKeys (.map es) = true := by
  unfold entriesOf at h
  split at h
  next es' horElse =>
    obtain rfl := Except.ok.inj h
    rw [← horElse, Value.orElse]
    split_ifs
    · exact hv
    · rfl
  next => cases h

theorem hasDistinctKeys_rawShapes {doc : Value} {raw : Entries Value}
    (hdoc : hasDistinctKeys doc = true) (h : rawShapes doc = .ok raw) :
    hasDistinctKeys (.map raw) = true := by
  obtain ⟨v, hv, hraw⟩ := bind_eq_ok.mp h
  refine hasDistinctKeys_entriesOf ?_ hraw
  unfold sectionOf at hv
  split at hv
  next es =>
    obtain rfl := Except.ok.inj hv
    rw [Value.orElse]
    split_ifs
    · exact hasDistinctKeys_field hdoc "shapes"
    · rfl
  next => cases hv

def operationIds (raw : Entries Value) (refs : List Value) : List String :=
  refs.filterMap fun ref => (Prelude.reference? ref).filter raw.contains

end Build

open Build Outcome

/-- A shape with the key of a raw one as its id, and with its members in order. -/
def Shape.Images (entry : String × Value) (s : Shape) : Prop :=
  s.id = entry.1 ∧ ∃ es raw, entry.2 = .map es ∧ entriesOf (Value.field es "members") = .ok raw
    ∧ s.members.map (·.name) = raw.keys
    ∧ List.Forall₂ (fun e m => member e.1 e.2 = .ok m) raw s.members

/-- A service with the key of a raw one as its id, and with the operations that this names. -/
def Service.Images (raw : Entries Value) (entry : String × Value) (s : Service) : Prop :=
  s.id = entry.1 ∧ ∃ es refs, entry.2 = .map es ∧ itemsOf (Value.field es "operations") = .ok refs
    ∧ s.operations.map (·.id) = operationIds raw refs

def Operation.namesBoundTo (o : Operation) (location : Location) : List String :=
  ((o.input.elim [] (·.members)).filter (·.binding == some location)).map (·.name)

namespace Build

variable {policy : ReferencePolicy} {all : List Shape}

theorem shape_images {id : String} {v : Value} {s : Shape} (h : (shape id v).result = .ok s) :
    s.Images (id, v) := by
  obtain ⟨es, rfl, -⟩ := shape_cases h
  obtain ⟨_, ms, _, -, hms, -, rfl⟩ := shape_eq_ok_iff.mp h
  obtain ⟨raw, hraw, hms⟩ := bind_eq_ok.mp hms
  refine ⟨rfl, es, raw, rfl, hraw, names_of_members hms, ?_⟩
  rw [members_eq_mapM] at hms
  exact forall₂_of_mapM_eq_ok hms

theorem shapes_image {raw : Entries Value} {ss : List Shape} (h : (shapes raw).result = .ok ss) :
    List.Forall₂ (fun entry s => Shape.Images entry s) raw ss :=
  (forall₂_shapes h).imp fun _ _ hs => shape_images hs

theorem ids_of_images {raw : Entries Value} {ss : List Shape}
    (h : List.Forall₂ (fun entry s => Shape.Images entry s) raw ss) :
    ss.map (·.id) = raw.keys := by
  induction h with
  | nil => rfl
  | cons hs _ ih => rw [List.map_cons, ih, hs.1]; rfl

theorem operations_ids {raw : Entries Value} {service : String} {refs : List Value}
    {os : List Operation} (h : (operations policy all raw service refs).result = .ok os) :
    os.map (·.id) = operationIds raw refs := by
  induction refs generalizing os with
  | nil =>
    obtain rfl := Except.ok.inj h
    rfl
  | cons ref refs ih =>
    simp only [operations] at h
    split at h
    next id es hid =>
      obtain ⟨o, ho, h⟩ := result_bind_eq_ok.mp h
      obtain ⟨rest, hrest, h⟩ := result_bind_eq_ok.mp h
      obtain rfl := Except.ok.inj h
      obtain ⟨id', href, hget⟩ := Option.bind_eq_some_iff.mp hid
      obtain ⟨v, hv, heq⟩ := Option.map_eq_some_iff.mp hget
      obtain ⟨rfl, -⟩ := Prod.mk.inj heq
      have hkept : (Prelude.reference? ref).filter raw.contains = some id' := by
        simp [href, Option.filter, Entries.contains, hv]
      rw [List.map_cons, (operation_cases ho).1, ih hrest, operationIds, operationIds,
        List.filterMap_cons, hkept]
    next => cases h
    next hnone =>
      obtain ⟨_, -, h⟩ := result_bind_eq_ok.mp h
      have hdropped : (Prelude.reference? ref).filter raw.contains = none := by
        cases href : Prelude.reference? ref with
        | none => rfl
        | some id =>
          rw [href] at hnone
          have hget : raw.get? id = none := by simpa using hnone
          simp [Option.filter, Entries.contains, hget]
      rw [ih h, operationIds, operationIds, List.filterMap_cons, hdropped]

theorem service_image {raw : Entries Value} {ns : String} {s? : Option Service}
    (h : (service policy all raw ns).result = .ok s?) :
    Option.Rel (Service.Images raw) (raw.find? isServiceEntry) s? := by
  unfold service at h
  split at h
  next id es hfind =>
    obtain ⟨_, -, h⟩ := result_bind_eq_ok.mp h
    obtain ⟨refs, hrefs, h⟩ := result_bind_eq_ok.mp h
    obtain ⟨os, hos, h⟩ := result_bind_eq_ok.mp h
    obtain ⟨_, -, h⟩ := result_bind_eq_ok.mp h
    obtain rfl := Except.ok.inj h
    rw [hfind]
    exact .some ⟨rfl, es, refs, rfl, hrefs, operations_ids hos⟩
  next hother =>
    obtain rfl := Except.ok.inj h
    have hnone : raw.find? isServiceEntry = none := by
      cases hfind : raw.find? isServiceEntry with
      | none => rfl
      | some entry =>
        obtain ⟨id, v⟩ := entry
        have hservice : isServiceEntry (id, v) = true := List.find?_some hfind
        cases v with
        | map es => exact absurd hfind (hother id es)
        | _ => cases hservice
    rw [hnone]
    exact .none

end Build

section Disjoint

variable {policy : ReferencePolicy} {raw : Entries Value} {all : List Shape}

/-- The members of a shape of the model have different names where the document has no key twice. -/
theorem Shape.nodup_names_of_images {entry : String × Value} {s : Shape} (h : s.Images entry)
    (hdistinct : Value.hasDistinctKeys entry.2 = true) : (s.members.map (·.name)).Nodup := by
  obtain ⟨-, es, members, hes, hmembers, hnames, -⟩ := h
  rw [hes] at hdistinct
  rw [hnames]
  have hmap := hasDistinctKeys_entriesOf (Value.hasDistinctKeys_field hdistinct "members") hmembers
  exact ((Value.hasDistinctKeys_map_iff members).mp hmap).1

theorem Shape.nodup_names_of_isHeld
    (himages : List.Forall₂ (fun entry s => Shape.Images entry s) raw all)
    (hdistinct : Value.hasDistinctKeys (.map raw) = true) {s : Shape}
    (h : s.IsHeld policy all) : (s.members.map (·.name)).Nodup := by
  rcases h with h | ⟨-, -, -, h⟩
  · obtain ⟨entry, hentry, himage⟩ := exists_left_of_forall₂ himages (Shape.mem_of_lookup? h).1
    exact Shape.nodup_names_of_images himage
      (((Value.hasDistinctKeys_map_iff raw).mp hdistinct).2 entry hentry)
  · rw [h]
    exact List.nodup_nil

/-- A member travels in one place. -/
theorem Operation.disjoint_namesBoundTo {o : Operation} {l l' : Location} (hne : l ≠ l')
    (h : ∀ s ∈ o.input, (s.members.map (·.name)).Nodup) :
    (o.namesBoundTo l).Disjoint (o.namesBoundTo l') := by
  intro name hl hl'
  obtain ⟨x, hx, rfl⟩ := List.mem_map.mp hl
  obtain ⟨y, hy, hname⟩ := List.mem_map.mp hl'
  obtain ⟨hx, hxl⟩ := List.mem_filter.mp hx
  obtain ⟨hy, hyl⟩ := List.mem_filter.mp hy
  cases hinput : o.input with
  | none =>
    rw [hinput] at hx
    cases hx
  | some s =>
    rw [hinput] at hx hy
    obtain rfl : y = x := List.inj_on_of_nodup_map (h s hinput) hy hx hname
    exact hne (Option.some.inj ((beq_iff_eq.mp hxl).symm.trans (beq_iff_eq.mp hyl)))

end Disjoint

/-- A model that was built is an image of its document. Its shapes are those of the document, and
its service is the first one there, with the operations that are listed and known. What an operation
names it holds as the model has it, or as an empty structure where a lenient build found none; its
query and its headers are the members that are bound to them, and no member is in both. -/
theorem build_image {policy : ReferencePolicy} {doc : Value} {m : Model}
    (h : (Model.build policy doc).result = .ok m) :
    ∃ raw, rawShapes doc = .ok raw
      ∧ m.shapes.map (·.id) = raw.keys
      ∧ List.Forall₂ (fun entry s => Shape.Images entry s) raw m.shapes
      ∧ Option.Rel (Service.Images raw) (raw.find? isServiceEntry) m.service
      ∧ ∀ service, m.service = some service → ∀ o ∈ service.operations,
        (∃ es, raw.get? o.id = some (.map es) ∧ o.HoldsNamed es)
        ∧ (∀ s ∈ o.shapes, s.IsHeld policy m.shapes)
        ∧ o.http.queryParams = o.namesBoundTo .query
        ∧ o.http.headerParams = o.namesBoundTo .header
        ∧ (doc.hasDistinctKeys = true → o.http.queryParams.Disjoint o.http.headerParams) := by
  obtain ⟨raw, hraw, hshapes, -, hservice⟩ := build_cases h
  have himages := shapes_image hshapes
  refine ⟨raw, hraw, ids_of_images himages, himages, service_image hservice, ?_⟩
  intro service hs o ho
  rw [hs] at hservice
  obtain ⟨refs, hos⟩ := service_cases hservice
  obtain ⟨es, hes, hop⟩ := operations_cases hos ho
  obtain ⟨-, hnamed, hheld, _, hhttp⟩ := operation_cases hop
  obtain ⟨-, hquery, hheader⟩ := httpBinding_cases hhttp
  refine ⟨⟨es, hes, hnamed⟩, hheld, hquery, hheader, fun hdoc => ?_⟩
  rw [hquery, hheader]
  refine Operation.disjoint_namesBoundTo (by decide) fun s hinput => ?_
  have hmem : s ∈ o.shapes := by simp [Operation.shapes, Option.mem_def.mp hinput]
  exact Shape.nodup_names_of_isHeld himages (hasDistinctKeys_rawShapes hdoc hraw) (hheld s hmem)

def listingDocument : Value :=
  .map [("shapes", .map
    [("blog#ListInput", .map [("type", .str "structure"), ("members", .map
        [("page", .map [("target", .str "smithy.api#Integer"),
            ("traits", .map [("smithy.api#httpQuery", .str "p")])]),
          ("etag", .map [("target", .str "smithy.api#String"),
            ("traits", .map [("smithy.api#httpHeader", .str "ETag")])])])]),
      ("blog#List", .map [("type", .str "operation"), ("input", .str "blog#ListInput"),
        ("output", .map [("target", .str "blog#Page")])]),
      ("blog#Blog", .map [("type", .str "service"), ("operations", .list
        [.str "blog#List", .str "blog#Lost", .map [("target", .str "blog#List")]])])])]

theorem build_image_listing :
    ∃ m service, (Model.build .lenient listingDocument).result = .ok m
      ∧ m.service = some service
      ∧ m.shapes.map (·.id) = ["blog#ListInput", "blog#List", "blog#Blog"]
      ∧ service.operations.map (fun o => (o.id, o.output.map (·.id)))
          = [("blog#List", some "blog#Page"), ("blog#List", some "blog#Page")]
      ∧ ∀ o ∈ service.operations, (∀ s ∈ o.shapes, s.IsHeld .lenient m.shapes)
        ∧ o.http.queryParams.Disjoint o.http.headerParams := by
  obtain ⟨m, service, h, hservice, hoperations⟩ : ∃ m service,
      (Model.build .lenient listingDocument).result = .ok m ∧ m.service = some service
      ∧ service.operations.map (fun o => (o.id, o.output.map (·.id)))
          = [("blog#List", some "blog#Page"), ("blog#List", some "blog#Page")] :=
    ⟨_, _, rfl, rfl, rfl⟩
  obtain ⟨raw, hraw, hids, -, -, hheld⟩ := build_image h
  obtain rfl := Except.ok.inj hraw
  refine ⟨m, service, h, hservice, hids, hoperations, fun o ho => ?_⟩
  obtain ⟨-, hshapes, -, -, hdisjoint⟩ := hheld service hservice o ho
  exact ⟨hshapes, hdisjoint (by decide)⟩

end SmithyGen
