import SmithyGen.Proofs.FieldDefaults
import SmithyGen.Proofs.TypeModule
import SmithyGen.Proofs.Wire

namespace SmithyGen.Emit.Types

open Code Emit.Client Emit.Server

/-- What the code says of a field. A field with settings is made by a call, which may pass a default
value. -/
structure FieldReading where
  name : String
  hasDefault : Bool
  settings : List (String × Symbol)

/-- The name of the attribute, unless a setting overrides it. -/
def FieldReading.wireName (f : FieldReading) : String :=
  match f.settings.lookup "field_name" with
  | some (.text name) => name
  | _ => f.name

section Reading

def settings? : List Symbol → Option (List (String × Symbol) × List Symbol)
  | .word key :: .sign "=" :: value :: .sign "," :: ss =>
    (settings? ss).map fun (settings, ss) => ((key, value) :: settings, ss)
  | .word key :: .sign "=" :: value :: .sign ")" :: ss => some ([(key, value)], ss)
  | _ => none

def config? : List Symbol → Option (List (String × Symbol))
  | .word "config" :: .sign "(" :: ss =>
    match settings? ss with
    | some (settings, [.sign ")"]) => some settings
    | _ => none
  | _ => none

def default? : List Symbol → Option (Bool × List (String × Symbol))
  | [.word "None"] => some (true, [])
  | .word "field" :: .sign "(" :: .word "metadata" :: .sign "=" :: ss => (config? ss).map (false, ·)
  | .word "field" :: .sign "(" :: .word "default" :: .sign "=" :: .word "None" :: .sign ","
      :: .word "metadata" :: .sign "=" :: ss => (config? ss).map (true, ·)
  | _ => none

def reading? (f : FieldDecl) : Option FieldReading :=
  match f.default? with
  | none => some ⟨f.name, false, []⟩
  | some text => (default? (symbols text.toList)).map fun (hasDefault, settings) =>
    ⟨f.name, hasDefault, settings⟩

end Reading

namespace FieldPlan

def readSettings (p : FieldPlan) : List (String × Symbol) :=
  (if Naming.fieldAttribute p.member.name == p.member.name then []
    else [("field_name", .text p.member.name)])
    ++ if p.isBinary then [("encoder", .word "_encode_blob"), ("decoder", .word "_decode_blob")]
      else []

def reading (p : FieldPlan) : FieldReading :=
  ⟨Naming.fieldAttribute p.member.name, !p.member.isRequired, p.readSettings⟩

/-- A member goes over the wire under its own name, whatever the attribute is. -/
theorem wireName_reading (p : FieldPlan) : p.reading.wireName = p.member.name := by
  unfold FieldReading.wireName reading readSettings
  by_cases hname : Naming.fieldAttribute p.member.name = p.member.name
  · cases p.isBinary <;> simp [hname, List.lookup_cons]
  · simp [hname]

section Lines

def settingSymbols (setting : String × Symbol) : List Symbol :=
  [.word setting.1, .sign "=", setting.2]

def listSymbols (p : FieldPlan) : List Symbol :=
  comma.intercalate (p.readSettings.map settingSymbols)

theorem toList_overrides (p : FieldPlan) :
    (", ".intercalate p.overrides).toList = spell p.listSymbols := by
  unfold overrides listSymbols readSettings
  split_ifs
  · rfl
  · rfl
  · simp [settingSymbols, spell, Symbol.chars, Text.quoted, comma, blobCodec]
  · simp [settingSymbols, spell, Symbol.chars, Text.quoted, comma]

theorem spelled_listSymbols (p : FieldPlan) : Spelled p.listSymbols := by
  refine Spelled.intercalate_comma fun ss hss => ?_
  obtain ⟨setting, hsetting, rfl⟩ := List.mem_map.mp hss
  rcases List.mem_append.mp hsetting with h | h
  · split_ifs at h
    · cases h
    · obtain rfl := List.mem_singleton.mp h
      change Spelled [.word "field_name", .sign "=", .text p.member.name]
      exact .of_all (by rfl) (by rfl)
  · split_ifs at h
    · rcases List.mem_pair.mp h with rfl | rfl <;> exact .of_all (by rfl) (by rfl)
    · cases h

theorem settings?_listSymbols {p : FieldPlan} (h : p.overrides ≠ []) (ss : List Symbol) :
    settings? (p.listSymbols.filter (· != .blank) ++ .sign ")" :: ss)
      = some (p.readSettings, ss) := by
  unfold overrides at h
  unfold listSymbols readSettings
  split_ifs at h ⊢
  · rfl
  · exact absurd rfl h
  · rfl
  · rfl

def callStart : (isRequired : Bool) → List Symbol
  | true =>
    [.word "field", .sign "(", .word "metadata", .sign "=", .word "config", .sign "("]
  | false =>
    [.word "field", .sign "(", .word "default", .sign "=", .word "None", .sign ",", .blank,
      .word "metadata", .sign "=", .word "config", .sign "("]

def callSymbols (p : FieldPlan) : List Symbol :=
  callStart p.member.isRequired ++ p.listSymbols ++ [Symbol.sign ")"] ++ [Symbol.sign ")"]

theorem spelled_callSymbols (p : FieldPlan) : Spelled p.callSymbols := by
  have hstart : ∀ isRequired, Spelled (callStart isRequired)
      ∧ (callStart isRequired).getLast? = some (.sign "(") := by decide
  obtain ⟨hspelled, hlast⟩ := hstart p.member.isRequired
  have hsettings := hspelled.append_of_opener p.spelled_listSymbols (by decide) hlast
  exact (hsettings.snoc_closer (by decide)).snoc_closer (by decide)

theorem default?_callSymbols {p : FieldPlan} (h : p.overrides ≠ []) :
    default? (p.callSymbols.filter (· != .blank))
      = some (!p.member.isRequired, p.readSettings) := by
  have hsettings : config? (.word "config" :: .sign "("
      :: (p.listSymbols.filter (· != .blank) ++ [.sign ")", .sign ")"])) = some p.readSettings := by
    rw [config?, settings?_listSymbols h]
    rfl
  simp only [callSymbols, List.filter_append, List.append_assoc]
  generalize p.listSymbols.filter (· != .blank) = ss at hsettings ⊢
  cases p.member.isRequired
  · exact congrArg (Option.map (true, ·)) hsettings
  · exact congrArg (Option.map (false, ·)) hsettings

end Lines

theorem readSettings_of_overrides {p : FieldPlan} (h : p.overrides = []) :
    p.readSettings = [] := by
  obtain ⟨hname, hcodec⟩ := List.append_eq_nil_iff.mp h
  unfold readSettings
  split_ifs at hname hcodec ⊢
  rfl

/-- The declaration of a field is read back as the field of its member. -/
theorem reading?_decl (p : FieldPlan) : reading? p.decl = some p.reading := by
  have hdefault := default?_decl p
  rw [metadata?_eq] at hdefault
  by_cases h : p.overrides = []
  · rw [if_pos h] at hdefault
    rw [reading?, hdefault, name_decl, reading, readSettings_of_overrides h]
    generalize Naming.fieldAttribute p.member.name = name
    cases p.member.isRequired <;> rfl
  · rw [if_neg h] at hdefault
    obtain ⟨text, hsome, htext⟩ : ∃ text, p.decl.default? = some text
        ∧ text.toList = spell p.callSymbols := by
      have hlist := toList_overrides p
      rw [hdefault, callSymbols]
      cases p.member.isRequired
      all_goals
        refine ⟨_, rfl, ?_⟩
        simp [hlist, callStart, spell, Symbol.chars]
    rw [reading?, hsome, name_decl]
    simp only [htext, symbols_spell p.spelled_callSymbols, default?_callSymbols h]
    rfl

end FieldPlan

theorem mapM_reading? (shapes : List Shape) (ms : List Member) :
    (ms.map fun m => (FieldPlan.ofMember shapes m).decl).mapM reading?
      = some (ms.map fun m => (FieldPlan.ofMember shapes m).reading) := by
  induction ms with
  | nil => rfl
  | cons m ms ih => simp [FieldPlan.reading?_decl, ih]

theorem reading_ofMember (shapes : List Shape) (m : Member) :
    (FieldPlan.ofMember shapes m).reading.name = Naming.fieldAttribute m.name
      ∧ (FieldPlan.ofMember shapes m).reading.wireName = m.name
      ∧ (FieldPlan.ofMember shapes m).reading.hasDefault = !m.isRequired := by
  refine ⟨?_, FieldPlan.wireName_reading _, ?_⟩
    <;> simp only [FieldPlan.reading, FieldPlan.ofMember]

theorem map_wireName_reading (shapes : List Shape) (ms : List Member) :
    (ms.map fun m => (FieldPlan.ofMember shapes m).reading).map (·.wireName)
      = ms.map (·.name) := by
  simp only [List.map_map, Function.comp_def, reading_ofMember]

theorem pairwise_fieldMembers (s : Shape) :
    (fieldMembers s).Pairwise fun m n => m.isRequired = false → n.isRequired = false := by
  have hrequired : ∀ m ∈ s.members.filter (·.isRequired), m.isRequired = true :=
    fun m hm => (List.mem_filter.mp hm).2
  have hoptional : ∀ m ∈ s.members.filter (!·.isRequired), m.isRequired = false :=
    fun m hm => by simpa using (List.mem_filter.mp hm).2
  refine List.pairwise_append.mpr ⟨?_, ?_, fun m hm n hn _ => hoptional n hn⟩
  · refine List.pairwise_of_forall_mem_list fun m hm n _ h => ?_
    rw [hrequired m hm] at h
    cases h
  · exact List.pairwise_of_forall_mem_list fun m _ n hn _ => hoptional n hn

/-- A class has one field for each member of its structure: those of required members in their
order, then the others in theirs. A field has a default value where its member is not required, so
that none without one comes after it. Its name on the wire is the name of the member, and the
methods that send or read the structure look up nothing else. -/
theorem class_fields_read (shapes : List Shape) (o : Options) (s : Shape) :
    ∃ d c fields, document shapes o s = .ok d ∧ d.declarations = [c]
      ∧ c.fields.mapM reading? = some fields
      ∧ fields.map (fun f => (f.name, f.wireName, f.hasDefault))
          = (s.members.filter (·.isRequired) ++ s.members.filter (!·.isRequired)).map
              (fun m => (Naming.fieldAttribute m.name, m.name, !m.isRequired))
      ∧ fields.Pairwise (fun f g => f.hasDefault = true → g.hasDefault = true)
      ∧ ∀ op : Operation, op.input = some s → ∃ request handling,
        Call.request? (callMethod op).body = some request
        ∧ Handler.handling? (handlerMethod shapes op).body = some handling
        ∧ (∀ name, name ∈ request.taken ∨ request.body = some (.member name) →
            name ∈ fields.map (·.wireName))
        ∧ ∀ take ∈ handling.takes, take.1 ∈ fields.map (·.wireName) := by
  obtain ⟨d, hd⟩ := document_isOk shapes o s
  obtain ⟨checks, -, -, hclass, -⟩ := document_cases hd
  have hread := mapM_reading? shapes (fieldMembers s)
  have hmem : ∀ {name}, name ∈ s.members.map (·.name) → name ∈ (fieldMembers s).map (·.name) :=
    fun h => ((fieldMembers_perm s).map _).mem_iff.mpr h
  refine ⟨d, classOf shapes s checks, _, hd, hclass, hread, ?_, ?_, fun op hop => ?_⟩
  · rw [List.map_map]
    refine List.map_congr_left fun m _ => ?_
    obtain ⟨hname, hwire, hdefault⟩ := reading_ofMember shapes m
    simp only [Function.comp_apply, hname, hwire, hdefault]
  · refine List.pairwise_map.mpr ((pairwise_fieldMembers s).imp fun {m n} hmn hdefault => ?_)
    rw [(reading_ofMember shapes n).2.2, hmn, Bool.not_false]
    simpa [reading_ofMember] using hdefault
  · refine ⟨_, _, request?_callMethod op, handling?_handlerMethod shapes op, ?_, ?_⟩
    all_goals rw [map_wireName_reading]
    · exact fun name hname => hmem (Call.mem_names_of_requestOf hop hname)
    · exact fun take htake => hmem (Handler.mem_names_of_handlingFor hop htake)

def uploadInput : Shape :=
  { id := "blog#UploadInput", name := "UploadInput", type := .struct
    members := [
      { name := "altText", target := "smithy.api#String" },
      { name := "validate", target := "smithy.api#Blob", binding := some .body
        traits := [(Prelude.requiredTrait, .map []), (Prelude.httpPayloadTrait, .map [])] },
      { name := "id", target := "smithy.api#String", binding := some .path
        traits := [(Prelude.requiredTrait, .map []), (Prelude.httpLabelTrait, .map [])] }] }

def upload : Operation :=
  { id := "blog#Upload", name := "Upload", input := some uploadInput, output := none, errors := []
    http := { method := "PUT", uri := "/media/\x7bid\x7d", code := 204, pathParams := ["id"]
              queryParams := [], headerParams := [] }
    traits := [], documentation := none }

theorem class_fields_read_upload :
    ∃ d c fields request handling,
      document [] ⟨"app", .str ".", .null, true⟩ uploadInput = .ok d ∧ d.declarations = [c]
      ∧ c.fields.mapM reading? = some fields
      ∧ fields.map (fun f => (f.name, f.wireName, f.hasDefault))
          = [("validate_", "validate", false), ("id", "id", false), ("alt_text", "altText", true)]
      ∧ Call.request? (callMethod upload).body = some request
      ∧ Handler.handling? (handlerMethod [] upload).body = some handling
      ∧ (∀ name ∈ request.taken, name ∈ fields.map (·.wireName))
      ∧ ∀ take ∈ handling.takes, take.1 ∈ fields.map (·.wireName) := by
  obtain ⟨d, c, fields, hd, hc, hfields, hread, -, hwire⟩ :=
    class_fields_read [] ⟨"app", .str ".", .null, true⟩ uploadInput
  obtain ⟨request, handling, hrequest, hhandling, htaken, htakes⟩ := hwire upload rfl
  refine ⟨d, c, fields, request, handling, hd, hc, hfields, ?_, hrequest, hhandling,
    fun name hname => htaken name (Or.inl hname), htakes⟩
  rw [hread]
  decide +kernel

end SmithyGen.Emit.Types
