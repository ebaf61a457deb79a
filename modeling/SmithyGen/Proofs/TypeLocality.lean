import SmithyGen.Proofs.ArtifactPaths

namespace SmithyGen

/-- The references that are followed from a structure: the targets of its members, and from a list
or a map on the target of its elements. -/
inductive Shape.Reaches (shapes : List Shape) (s : Shape) : Option String → Prop
  | member {m : Member} (h : m ∈ s.members) : Reaches shapes s (some m.target)
  | element {target : Option String} (h : Reaches shapes s target)
      (htype : (resolve shapes target).shape.type = .list
        ∨ (resolve shapes target).shape.type = .map) :
      Reaches shapes s (resolve shapes target).shape.target

/-- Two structures with the same id, name, members, documentation and traits. -/
structure Shape.SameDeclaration (s s' : Shape) : Prop where
  id : s.id = s'.id
  name : s.name = s'.name
  members : s.members = s'.members
  documentation : s.documentation = s'.documentation
  traits : s.traits = s'.traits

/-- Every reference followed from a structure leads to the same shape among others. -/
def Shape.ReachesSame (shapes shapes' : List Shape) (s : Shape) : Prop :=
  ∀ target, s.Reaches shapes target → resolve shapes target = resolve shapes' target

theorem Resolved.type_of_kind {r : Resolved} :
    (r.kind = .list → r.shape.type = .list) ∧ (r.kind = .map → r.shape.type = .map) := by
  unfold Resolved.kind
  split_ifs
  · simp
  · cases r.shape.type <;> decide

namespace Emit

variable {shapes shapes' : List Shape} {s s' : Shape}

/-- A type goes down the element targets of lists and maps, all of which are reached. -/
theorem typeFrom_congr (h : s.ReachesSame shapes shapes') (left : Nat) {target : Option String}
    (htarget : s.Reaches shapes target) :
    typeFrom shapes left target = typeFrom shapes' left target := by
  induction left generalizing target with
  | zero => rfl
  | succ left ih =>
    have hsame := h target htarget
    simp only [typeFrom, ← hsame]
    cases hkind : (resolve shapes target).kind with
    | list =>
      simp only [ih (htarget.element (Or.inl (Resolved.type_of_kind.1 hkind)))]
    | map =>
      simp only [ih (htarget.element (Or.inr (Resolved.type_of_kind.2 hkind)))]
    | _ => rfl

theorem ofMember_congr (h : s.ReachesSame shapes shapes') {m : Member} (hm : m ∈ s.members) :
    Types.FieldPlan.ofMember shapes m = Types.FieldPlan.ofMember shapes' m := by
  have hreached : s.Reaches shapes (some m.target) := .member hm
  simp only [Types.FieldPlan.ofMember, typeExpr, typeFrom_congr h _ hreached, h _ hreached]

theorem memberRules_congr (h : s.ReachesSame shapes shapes') {m : Member} (hm : m ∈ s.members) :
    m.rules shapes = m.rules shapes' := by
  have hreached : s.Reaches shapes (some m.target) := .member hm
  simp only [Member.rules, Member.constraint?, h _ hreached]

theorem rules_congr (h : s.ReachesSame shapes shapes') : s.rules shapes = s.rules shapes' := by
  have hmembers : s.members.flatMap (·.rules shapes) = s.members.flatMap (·.rules shapes') :=
    List.flatMap_congr fun m hm => memberRules_congr h hm
  simp only [Shape.rules, hmembers]

theorem rules_of_sameDeclaration (hs : s.SameDeclaration s') :
    s.rules shapes = s'.rules shapes := by
  rw [Shape.rules, Shape.rules, Shape.requiredMembers, Shape.requiredMembers, hs.members]

namespace Types

theorem document_congr (h : s.ReachesSame shapes shapes') (hs : s.SameDeclaration s')
    (o : Options) : document shapes o s = document shapes' o s' := by
  have hplans : s.members.map (FieldPlan.ofMember shapes)
      = s'.members.map (FieldPlan.ofMember shapes') := by
    rw [← hs.members]
    exact List.map_congr_left fun m hm => ofMember_congr h hm
  have hrules : s.rules shapes = s'.rules shapes' :=
    (rules_congr h).trans (rules_of_sameDeclaration hs)
  simp only [document, hplans, hrules, hs.id, hs.name, hs.documentation]

theorem artifact_congr (h : s.ReachesSame shapes shapes') (hs : s.SameDeclaration s')
    (o : Options) : artifact shapes o s = artifact shapes' o s' := by
  unfold artifact
  rw [document_congr h hs]

/-- The artifact stands for the structure among those of the types of a model. -/
def Emits (m : Model) (o : Options) (s : Shape) (a : Artifact) : Prop :=
  ∃ as, artifacts m o = .ok as ∧ (s, a) ∈ m.structures.zip as

theorem emits_iff {m : Model} {o : Options} {dir : String} (hb : isModuleName o.baseModule)
    (hdir : o.outputDir = .str dir) (hs : s ∈ m.structures) {a : Artifact} :
    Emits m o s a ↔ artifact m.shapes o s = .ok a := by
  have hzip : ∀ {as}, artifacts m o = .ok as → ∀ {b}, (s, b) ∈ m.structures.zip as →
      artifact m.shapes o s = .ok b := fun has _ hb =>
    List.forall₂_zip (Outcome.forall₂_of_mapM_eq_ok has) hb
  constructor
  · rintro ⟨as, has, ha⟩
    exact hzip has ha
  · intro ha
    obtain ⟨as, has⟩ : ∃ as, artifacts m o = .ok as := artifacts_isOk hb hdir
    have hlength : m.structures.length = as.length :=
      (Outcome.forall₂_of_mapM_eq_ok has).length_eq
    obtain ⟨i, hi, rfl⟩ := List.mem_iff_getElem.mp hs
    have hmem : (m.structures[i], as[i]) ∈ m.structures.zip as :=
      List.mem_iff_getElem.mpr ⟨i, by simp [hi, ← hlength], by simp⟩
    obtain rfl : as[i] = a := Except.ok.inj ((hzip has hmem).symm.trans ha)
    exact ⟨as, has, hmem⟩

/-- A structure has one artifact in a model, and it has the same one in every model where the
references followed from it lead to the same shapes. -/
theorem emits_local {m m' : Model} {o : Options} {dir : String} (hb : isModuleName o.baseModule)
    (hdir : o.outputDir = .str dir) (hs : s ∈ m.structures) (hs' : s' ∈ m'.structures)
    (hsame : s.SameDeclaration s') (hreach : s.ReachesSame m.shapes m'.shapes) :
    ∃ a, ∀ b, (Emits m o s b ↔ b = a) ∧ (Emits m' o s' b ↔ b = a) := by
  obtain ⟨a, ha⟩ : ∃ a, artifact m.shapes o s = .ok a := artifact_isOk hb hdir
  have ha' : artifact m'.shapes o s' = .ok a := by rw [← artifact_congr hreach hsame, ha]
  refine ⟨a, fun b => ?_⟩
  rw [emits_iff hb hdir hs, emits_iff hb hdir hs', ha, ha']
  simp [eq_comm]

def tagShapes : List Shape :=
  [{ id := "blog#Tag", name := "Tag", type := .struct },
   { id := "blog#Tags", name := "Tags", type := .list, target := some "blog#Tag" },
   { id := "blog#Thread", name := "Thread", type := .list, target := some "blog#Thread" }]

def taggedPost : Shape :=
  { id := "blog#Post", name := "Post", type := .struct,
    members := [{ name := "tags", target := "blog#Tags" },
      { name := "thread", target := "blog#Thread" }] }

def draftShape : Shape :=
  { id := "blog#Draft", name := "Draft", type := .struct,
    members := [{ name := "post", target := "blog#Post" }] }

theorem emits_local_post :
    let o : Options := ⟨"app", .str ".", .null, true⟩
    let m : Model := ⟨"blog", draftShape :: taggedPost :: tagShapes, none, []⟩
    let m' : Model := ⟨"blog", tagShapes.reverse ++ [taggedPost], none, []⟩
    taggedPost.ReachesSame m.shapes m'.shapes
      ∧ ∃ a, ∀ b, (Emits m o taggedPost b ↔ b = a) ∧ (Emits m' o taggedPost b ↔ b = a) := by
  intro o m m'
  have hreached : ∀ target, taggedPost.Reaches m.shapes target →
      target = some "blog#Tags" ∨ target = some "blog#Thread" ∨ target = some "blog#Tag" := by
    intro target h
    induction h with
    | member hm =>
      rcases List.mem_cons.mp hm with rfl | hm
      · exact Or.inl rfl
      · obtain rfl := List.mem_singleton.mp hm
        exact Or.inr (Or.inl rfl)
    | element _ htype ih =>
      rcases ih with rfl | rfl | rfl
      · exact Or.inr (Or.inr rfl)
      · exact Or.inr (Or.inl rfl)
      · exact absurd htype (by decide)
  have hreach : taggedPost.ReachesSame m.shapes m'.shapes := by
    intro target h
    rcases hreached target h with rfl | rfl | rfl <;> rfl
  have hs : taggedPost ∈ m.structures := List.mem_filter.mpr ⟨by simp [m], rfl⟩
  have hs' : taggedPost ∈ m'.structures := List.mem_filter.mpr ⟨by simp [m'], rfl⟩
  exact ⟨hreach, emits_local (by decide) rfl hs hs' ⟨rfl, rfl, rfl, rfl, rfl⟩ hreach⟩

end Types

end Emit

end SmithyGen
