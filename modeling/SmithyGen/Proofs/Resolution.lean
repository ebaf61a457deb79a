import SmithyGen.Proofs.Building

namespace SmithyGen

theorem isSome_builtinShape? (id : String) :
    (builtinShape? id).isSome = Prelude.isBuiltin id := by
  have hknown : ∀ entry ∈ Prelude.shapes, (ShapeType.ofName? entry.2).isSome = true := by decide
  unfold builtinShape? Prelude.isBuiltin
  cases h : Prelude.shapes.lookup id with
  | none => rfl
  | some typeName =>
    obtain ⟨before, after, he, -⟩ := List.lookup_eq_some_iff.mp h
    have htype := hknown (id, typeName) (by rw [he]; simp)
    simpa using htype

theorem isDangling_resolve_some (shapes : List Shape) (id : String) :
    (resolve shapes (some id)).isDangling = !isResolvable shapes id := by
  have hbuiltin := isSome_builtinShape? id
  by_cases he : id = ""
  · subst he
    rfl
  · have hne : Prelude.nonEmpty? id = some id := by simp [Prelude.nonEmpty?, he]
    simp only [resolve, isResolvable, Option.bind_some, hne]
    cases hs : Shape.lookup? shapes id with
    | some s => simp [he]
    | none =>
      cases hb : builtinShape? id with
      | some s => simp [he, ← hbuiltin, hb]
      | none => simp [← hbuiltin, hb]

/-- The name of the member, or of the property, that gives the elements of a list or map. -/
def ShapeType.elementKey? : ShapeType → Option String
  | .list => some "member"
  | .map => some "value"
  | _ => none

namespace Build

def elementProperty? (key : String) (raw : Entries Value) : Option String :=
  (Prelude.reference? (Value.field raw "target")).or (Prelude.reference? (Value.field raw key))

theorem elementTarget_eq {type : ShapeType} {key : String} (h : type.elementKey? = some key)
    (raw : Entries Value) (ms : List Member) :
    elementTarget type raw ms = (elementProperty? key raw).or (elementMember? key ms) := by
  cases type <;> simp only [ShapeType.elementKey?, Option.some.injEq, reduceCtorEq] at h
  · subst h
    exact Option.or_assoc.symm
  · subst h
    exact Option.or_assoc.symm

/-- A strict check ends at the first member whose target is not found. -/
theorem isResolvable_of_checkMembers {all : List Shape} {s : Shape} {ms : List Member}
    (h : (checkMembers .strict all s ms).result = .ok ()) {x : Member} (hx : x ∈ ms) :
    isResolvable all x.target = true := by
  induction ms with
  | nil => simp at hx
  | cons m ms ih =>
    simp only [checkMembers] at h
    split_ifs at h with hm
    · rcases List.mem_cons.mp hx with rfl | hx
      · exact hm
      · exact ih h hx
    · obtain ⟨⟨⟩, hmeet, -⟩ := Outcome.result_bind_eq_ok.mp h
      exact absurd hmeet (by simp [ReferencePolicy.meet, Logged.fail])

theorem isResolvable_of_checkTargets {all ss : List Shape}
    (h : (checkTargets .strict all ss).result = .ok ()) {s : Shape} (hs : s ∈ ss) {x : Member}
    (hx : x ∈ s.members) : isResolvable all x.target = true := by
  induction ss with
  | nil => simp at hs
  | cons s' ss ih =>
    obtain ⟨⟨⟩, hcheck, h⟩ := Outcome.result_bind_eq_ok.mp h
    rcases List.mem_cons.mp hs with rfl | hs
    · exact isResolvable_of_checkMembers hcheck hx
    · exact ih h hs

end Build

open Build

theorem isResolvable_of_build_strict {doc : Value} {m : Model}
    (h : (Model.build .strict doc).result = .ok m) {s : Shape} (hs : s ∈ m.shapes) {x : Member}
    (hx : x ∈ s.members) : isResolvable m.shapes x.target = true := by
  obtain ⟨raw, -, -, hcheck, -⟩ := build_cases h
  exact isResolvable_of_checkTargets hcheck hs hx

theorem mem_shapes_of_build_strict {doc : Value} {m : Model}
    (h : (Model.build .strict doc).result = .ok m) {service : Service}
    (hservice : m.service = some service) {o : Operation} (ho : o ∈ service.operations) :
    (∃ s ∈ m.shapes, s.id = o.id) ∧ ∀ s ∈ o.shapes, s ∈ m.shapes := by
  obtain ⟨raw, -, hshapes, -, hs⟩ := build_cases h
  rw [hservice] at hs
  obtain ⟨refs, hos⟩ := service_cases hs
  obtain ⟨es, hraw, hop⟩ := operations_cases hos ho
  obtain ⟨-, -, hheld, -⟩ := operation_cases hop
  exact ⟨exists_shape_of_get? hshapes hraw, fun s hmem => (hheld s hmem).mem_of_strict⟩

/-- The element of a list or map in a strict model dangles only where it is missing, or where the
document gives it by a property and not by a member. -/
theorem element_of_build_strict {doc : Value} {m : Model}
    (h : (Model.build .strict doc).result = .ok m) {s : Shape} (hs : s ∈ m.shapes) {key : String}
    (hkey : s.type.elementKey? = some key)
    (hdangling : (resolve m.shapes s.target).isDangling = true) :
    s.target = none ∨ ∃ raw es, rawShapes doc = .ok raw ∧ (s.id, .map es) ∈ raw
      ∧ s.target = elementProperty? key es := by
  obtain ⟨raw, hraw, hshapes, hcheck, -⟩ := build_cases h
  obtain ⟨es, hmem, htarget⟩ := exists_raw_of_mem hshapes hs
  rw [elementTarget_eq hkey] at htarget
  cases hp : elementProperty? key es with
  | some id => exact Or.inr ⟨raw, es, hraw, hmem, by rw [htarget, hp]; rfl⟩
  | none =>
    left
    rw [hp, Option.none_or] at htarget
    by_contra hne
    obtain ⟨id, hid⟩ := Option.ne_none_iff_exists'.mp hne
    -- the element then is the target of a member, and the check has seen it
    rw [hid] at htarget
    obtain ⟨x, hx, hxid⟩ := Option.bind_eq_some_iff.mp htarget.symm
    have hresolvable := isResolvable_of_checkTargets hcheck hs (List.mem_of_find?_eq_some hx)
    have htext : x.target = id := by
      unfold Prelude.nonEmpty? at hxid
      split_ifs at hxid
      exact Option.some.inj hxid
    rw [hid, isDangling_resolve_some, ← htext, hresolvable] at hdangling
    exact absurd hdangling (by simp)

/-- A strict model leaves no member target and no shape of an operation open. The element of a list
or map can be open, where it is missing or was given by a property of the shape: such an element is
not looked up. -/
theorem build_strict_resolves (doc : Value) (m : Model)
    (h : (Model.build .strict doc).result = .ok m) :
    (∀ s ∈ m.shapes, ∀ x ∈ s.members, (resolve m.shapes (some x.target)).isDangling = false)
    ∧ (∀ s ∈ m.shapes, ∀ key, s.type.elementKey? = some key →
        (resolve m.shapes s.target).isDangling = true →
        s.target = none ∨ ∃ raw es, rawShapes doc = .ok raw ∧ (s.id, .map es) ∈ raw
          ∧ s.target = elementProperty? key es)
    ∧ (∀ service, m.service = some service → ∀ o ∈ service.operations,
        (∃ s ∈ m.shapes, s.id = o.id) ∧ ∀ s ∈ o.shapes, s ∈ m.shapes) := by
  refine ⟨?_, ?_, ?_⟩
  · intro s hs x hx
    rw [isDangling_resolve_some, isResolvable_of_build_strict h hs hx]
    rfl
  · intro s hs key hkey hdangling
    exact element_of_build_strict h hs hkey hdangling
  · intro service hservice o ho
    exact mem_shapes_of_build_strict h hservice ho

/-- A list of tags, with its element given by the fields, and a post that has them. -/
def tagsDocument (element : Entries Value) : Value :=
  .map [("shapes", .map [
    ("blog#Tags", .map (("type", .str "list") :: element)),
    ("blog#Post", .map [("type", .str "structure"),
      ("members", .map [("tags", .str "blog#Tags")])]),
    ("blog#GetPost", .map [("type", .str "operation"), ("output", .str "blog#Post")]),
    ("blog#Blog", .map [("type", .str "service"), ("operations", .list [.str "blog#GetPost"])])])]

theorem build_strict_resolves_tags :
    ∃ m service o,
      (Model.build .strict (tagsDocument [("members", .map [("member", .str "blog#Post")])])).result
        = .ok m
      ∧ m.service = some service ∧ o ∈ service.operations ∧ o.shapes.map (·.id) = ["blog#Post"]
      ∧ (∀ s ∈ m.shapes, ∀ x ∈ s.members, (resolve m.shapes (some x.target)).isDangling = false)
      ∧ ∀ s ∈ o.shapes, s ∈ m.shapes := by
  obtain ⟨m, service, o, hm, hservice, ho, hids⟩ : ∃ m service o,
      (Model.build .strict (tagsDocument [("members", .map [("member", .str "blog#Post")])])).result
        = .ok m
      ∧ m.service = some service ∧ o ∈ service.operations
      ∧ o.shapes.map (·.id) = ["blog#Post"] :=
    ⟨_, _, _, rfl, rfl, List.mem_singleton.mpr rfl, rfl⟩
  obtain ⟨hmembers, -, hshapes⟩ := build_strict_resolves _ m hm
  exact ⟨m, service, o, hm, hservice, ho, hids, hmembers, (hshapes service hservice o ho).2⟩

/-- An element given by the property `member` may lead nowhere in a strict model. Given by a member
of that name, the same element is refused. -/
theorem build_strict_dangling_element :
    (∃ m s,
      (Model.build .strict
        (tagsDocument [("member", .map [("target", .str "blog#Tag")])])).result = .ok m
      ∧ s ∈ m.shapes ∧ s.type = .list ∧ s.target = some "blog#Tag"
      ∧ (resolve m.shapes s.target).isDangling = true)
    ∧ (Model.build .strict
        (tagsDocument [("members", .map [("member", .str "blog#Tag")])])).result
        = .error (.dangling "blog#Tag" "blog#Tags$member") :=
  ⟨⟨_, _, rfl, List.mem_cons_self, rfl, rfl, rfl⟩, rfl⟩

end SmithyGen
