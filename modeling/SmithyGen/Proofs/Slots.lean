import Mathlib.Data.List.Nodup
import SmithyGen.Proofs.Sending
import SmithyGen.Proofs.Serving

namespace SmithyGen

open Code Emit.Client Emit.Server

namespace Operation

/-- Some member of a shape is the whole body. -/
def hasPayload (input : Shape) : Bool := input.members.any (·.binding == some .body)

/-- Where a member of the input travels: in the label of its name, else as its binding says, else in
the object that is the body, unless some member is the whole body. -/
def slot? (o : Operation) (input : Shape) (m : Member) : Option Slot :=
  if m.name ∈ o.http.pathParams then some (.label m.name)
  else match m.binding with
    | some .query => some (.query m.wireName)
    | some .header => some (.header m.wireName)
    | some .body => some .document
    | _ => if hasPayload input then none else some (.field m.name)

/-- An input whose members have different names, and in which at most one member is the body, under
a name that is no label of the URI. -/
structure HasPlainInput (o : Operation) (input : Shape) : Prop where
  input_eq : o.input = some input
  labels_eq : o.http.pathParams = UriTemplate.params o.http.uri
  names : (input.members.map (·.name)).Nodup
  payloads : (input.members.filter (·.binding == some .body)).length ≤ 1
  free : ∀ m ∈ input.members, m.binding = some .body → m.name ∉ o.http.pathParams

variable {o : Operation} {input : Shape} {m : Member}

section Slot

theorem slot?_eq_label_iff {l : String} :
    o.slot? input m = some (.label l) ↔ m.name ∈ o.http.pathParams ∧ m.name = l := by
  by_cases h : m.name ∈ o.http.pathParams
  · simp [slot?, h]
  · rcases hbinding : m.binding with _ | _ | _ | _ | _ <;> simp [slot?, h, hbinding]

theorem slot?_eq_query_iff {key : String} :
    o.slot? input m = some (.query key)
      ↔ m.name ∉ o.http.pathParams ∧ m.binding = some .query ∧ m.wireName = key := by
  by_cases h : m.name ∈ o.http.pathParams
  · simp [slot?, h]
  · rcases hbinding : m.binding with _ | _ | _ | _ | _ <;> simp [slot?, h, hbinding]

theorem slot?_eq_header_iff {key : String} :
    o.slot? input m = some (.header key)
      ↔ m.name ∉ o.http.pathParams ∧ m.binding = some .header ∧ m.wireName = key := by
  by_cases h : m.name ∈ o.http.pathParams
  · simp [slot?, h]
  · rcases hbinding : m.binding with _ | _ | _ | _ | _ <;> simp [slot?, h, hbinding]

theorem slot?_eq_document_iff :
    o.slot? input m = some .document
      ↔ m.name ∉ o.http.pathParams ∧ m.binding = some .body := by
  by_cases h : m.name ∈ o.http.pathParams
  · simp [slot?, h]
  · rcases hbinding : m.binding with _ | _ | _ | _ | _ <;> simp [slot?, h, hbinding]

theorem binding_ne_body (hm : m ∈ input.members) (h : hasPayload input = false) :
    m.binding ≠ some .body := by
  intro hbody
  have hany : hasPayload input = true := List.any_eq_true.mpr ⟨m, hm, beq_iff_eq.mpr hbody⟩
  rw [h] at hany
  exact absurd hany Bool.false_ne_true

theorem slot?_eq_field_iff (hm : m ∈ input.members) {f : String} :
    o.slot? input m = some (.field f)
      ↔ (m.name ∉ o.http.pathParams ∧ m.binding ≠ some .query ∧ m.binding ≠ some .header)
        ∧ hasPayload input = false ∧ m.name = f := by
  by_cases h : m.name ∈ o.http.pathParams
  · simp [slot?, h]
  · rcases hbinding : m.binding with _ | _ | _ | _ | _ <;> simp [slot?, h, hbinding]
    intro hnone
    exact absurd hbinding (binding_ne_body hm hnone)

end Slot

theorem HasPlainInput.eq_of_name (h : o.HasPlainInput input) {n : Member}
    (hm : m ∈ input.members) (hn : n ∈ input.members) (heq : n.name = m.name) : n = m :=
  List.inj_on_of_nodup_map h.names hn hm heq

theorem find?_reverse_of_length_le_one {α : Type} {p : α → Bool} {xs : List α}
    (h : (xs.filter p).length ≤ 1) : xs.reverse.find? p = xs.find? p := by
  rw [← List.head?_filter, ← List.head?_filter, List.filter_reverse, List.head?_reverse]
  cases hxs : xs.filter p with
  | nil => rfl
  | cons x ys =>
    rw [hxs] at h
    obtain rfl : ys = [] := by simpa using h
    rfl

/-- The member that a call sends as the body is the one that the handler reads there. -/
theorem HasPlainInput.payload_eq (h : o.HasPlainInput input) :
    (sendPlan o).payload = payload? input := by
  have hbound : input.members.filter (Call.isBoundTo .body o.http.pathParams)
      = input.members.filter (·.binding == some .body) := by
    refine List.filter_congr fun n hn => ?_
    unfold Call.isBoundTo
    by_cases hbody : n.binding = some .body
    · have hfree := h.free n hn hbody
      simp [hbody, hfree]
    · simp [hbody]
  rw [Call.sendPlan_eq h.input_eq,
    find?_reverse_of_length_le_one (by rw [hbound]; exact h.payloads), payload?,
    ← List.head?_filter, hbound, List.head?_filter]

theorem isBoundTo_iff {location : Location} {labels : List String} :
    Call.isBoundTo location labels m = true ↔ m.name ∉ labels ∧ m.binding = some location := by
  simp [Call.isBoundTo]

theorem HasPlainInput.query_eq (h : o.HasPlainInput input) :
    (sendPlan o).query = input.members.filter (Call.isBoundTo .query o.http.pathParams) := by
  rw [Call.sendPlan_eq h.input_eq]

theorem HasPlainInput.headers_eq (h : o.HasPlainInput input) :
    (sendPlan o).headers = input.members.filter (Call.isBoundTo .header o.http.pathParams) := by
  rw [Call.sendPlan_eq h.input_eq]

theorem HasPlainInput.mem_names (h : o.HasPlainInput input) (hm : m ∈ input.members)
    {p : Member → Bool} : m.name ∈ (input.members.filter p).map (·.name) ↔ p m = true := by
  rw [List.mem_map]
  constructor
  · rintro ⟨n, hn, heq⟩
    obtain ⟨hn, hp⟩ := List.mem_filter.mp hn
    rwa [← h.eq_of_name hm hn heq]
  · intro hp
    exact ⟨m, List.mem_filter.mpr ⟨hm, hp⟩, rfl⟩

theorem HasPlainInput.mem_labelsOf (h : o.HasPlainInput input) (hm : m ∈ input.members) :
    m.name ∈ Call.labelsOf o (sendPlan o) ↔ m.name ∈ o.http.pathParams := by
  rw [Call.labelsOf, ← h.labels_eq, List.mem_filter, List.contains_iff_mem,
    Call.sendPlan_eq h.input_eq, h.mem_names hm, List.contains_iff_mem, and_self]

theorem HasPlainInput.mem_taken (h : o.HasPlainInput input) (hm : m ∈ input.members) :
    m.name ∈ (Call.requestOf o (sendPlan o)).taken
      ↔ m.name ∈ o.http.pathParams ∨ m.binding = some .query ∨ m.binding = some .header := by
  simp only [Call.requestOf, List.mem_append, h.mem_labelsOf hm]
  rw [h.query_eq, h.headers_eq, h.mem_names hm, h.mem_names hm, isBoundTo_iff, isBoundTo_iff]
  tauto

theorem HasPlainInput.payload?_eq_some_iff (h : o.HasPlainInput input) {n : Member} :
    payload? input = some n ↔ n ∈ input.members ∧ n.binding = some .body := by
  have hpayloads := h.payloads
  rw [payload?, ← List.head?_filter]
  have hmem : n ∈ input.members.filter (·.binding == some .body)
      ↔ n ∈ input.members ∧ n.binding = some .body := by simp
  rw [← hmem]
  cases hf : input.members.filter (·.binding == some .body) with
  | nil => simp
  | cons x xs =>
    rw [hf] at hpayloads
    obtain rfl : xs = [] := by simpa using hpayloads
    simp [eq_comm]

theorem HasPlainInput.body_eq (h : o.HasPlainInput input) :
    (Call.requestOf o (sendPlan o)).body
      = some ((payload? input).elim .rest fun n => .member n.name) := by
  simp only [Call.requestOf, Call.bodyOf, h.payload_eq, h.input_eq]
  cases payload? input <;> rfl

theorem HasPlainInput.body_eq_member_iff (h : o.HasPlainInput input) (hm : m ∈ input.members) :
    (Call.requestOf o (sendPlan o)).body = some (.member m.name) ↔ m.binding = some .body := by
  rw [h.body_eq, Option.some_inj]
  cases hp : payload? input with
  | none =>
    have hnone : m.binding ≠ some .body := by
      intro hbody
      rw [h.payload?_eq_some_iff.mpr ⟨hm, hbody⟩] at hp
      exact absurd hp (by simp)
    simp [hnone]
  | some n =>
    obtain ⟨hn, hbody⟩ := h.payload?_eq_some_iff.mp hp
    rw [Option.elim_some, Call.Body.member.injEq]
    constructor
    · intro heq
      rwa [← h.eq_of_name hm hn heq]
    · intro hmbody
      rw [h.payload?_eq_some_iff.mpr ⟨hm, hmbody⟩] at hp
      rw [Option.some.inj hp]

theorem HasPlainInput.body_eq_rest_iff (h : o.HasPlainInput input) :
    (Call.requestOf o (sendPlan o)).body = some .rest
      ↔ hasPayload input = false := by
  rw [hasPayload, h.body_eq, Option.some_inj, ← List.isSome_find?]
  change _ ↔ (payload? input).isSome = false
  cases payload? input <;> simp

/-- The member that a slot carries: of those that travel in it, the last. -/
def carrier? (o : Operation) (input : Shape) (slot : Slot) : Option Member :=
  (input.members.filter (o.slot? input · == some slot)).getLast?

theorem carrier?_slot {slot : Slot} (h : o.carrier? input slot = some m) :
    o.slot? input m = some slot :=
  eq_of_beq (List.mem_filter.mp (List.mem_of_getLast? h)).2

/-- Where no two members travel in a slot, the slot carries what travels in it. -/
theorem carrier?_eq_some_iff {slot : Slot} (hm : m ∈ input.members)
    (h : ∀ n ∈ input.members, o.slot? input n = some slot → o.slot? input m = some slot → n = m) :
    o.carrier? input slot = some m ↔ o.slot? input m = some slot := by
  constructor
  · exact carrier?_slot
  · intro hslot
    have hmem : m ∈ input.members.filter (o.slot? input · == some slot) :=
      List.mem_filter.mpr ⟨hm, beq_iff_eq.mpr hslot⟩
    have hne := List.ne_nil_of_mem hmem
    have hlast := List.mem_filter.mp (List.getLast_mem hne)
    rw [carrier?, List.getLast?_eq_some_getLast hne, h _ hlast.1 (eq_of_beq hlast.2) hslot]

theorem HasPlainInput.carrier?_label_iff (h : o.HasPlainInput input) (hm : m ∈ input.members)
    {l : String} :
    o.carrier? input (.label l) = some m ↔ m.name ∈ o.http.pathParams ∧ m.name = l := by
  rw [carrier?_eq_some_iff hm, slot?_eq_label_iff]
  intro n hn hnslot hmslot
  refine h.eq_of_name hm hn ?_
  rw [(slot?_eq_label_iff.mp hnslot).2, (slot?_eq_label_iff.mp hmslot).2]

theorem HasPlainInput.carrier?_document_iff (h : o.HasPlainInput input) (hm : m ∈ input.members) :
    o.carrier? input .document = some m
      ↔ m.name ∉ o.http.pathParams ∧ m.binding = some .body := by
  rw [carrier?_eq_some_iff hm, slot?_eq_document_iff]
  intro n hn hnslot hmslot
  have hpayload := h.payload?_eq_some_iff.mpr ⟨hn, (slot?_eq_document_iff.mp hnslot).2⟩
  rw [h.payload?_eq_some_iff.mpr ⟨hm, (slot?_eq_document_iff.mp hmslot).2⟩] at hpayload
  exact (Option.some.inj hpayload).symm

theorem HasPlainInput.carrier?_field_iff (h : o.HasPlainInput input) (hm : m ∈ input.members)
    {f : String} :
    o.carrier? input (.field f) = some m
      ↔ (m.name ∉ o.http.pathParams ∧ m.binding ≠ some .query ∧ m.binding ≠ some .header)
        ∧ hasPayload input = false ∧ m.name = f := by
  rw [carrier?_eq_some_iff hm, slot?_eq_field_iff hm]
  intro n hn hnslot hmslot
  refine h.eq_of_name hm hn ?_
  rw [((slot?_eq_field_iff hn).mp hnslot).2.2, ((slot?_eq_field_iff hm).mp hmslot).2.2]

theorem HasPlainInput.mem_lastOfEach (h : o.HasPlainInput input) (hm : m ∈ input.members)
    {p : Member → Bool} {slot : String → Slot}
    (hslot : ∀ n key, o.slot? input n = some (slot key) ↔ p n = true ∧ n.wireName = key)
    (key : String) :
    (key, m.name) ∈ lastOfEach (·.1) ((input.members.filter p).map Call.entryOf)
      ↔ o.carrier? input (slot key) = some m := by
  have hmembers : ((input.members.filter p).map Call.entryOf).filter (·.1 == key)
      = (input.members.filter (o.slot? input · == some (slot key))).map Call.entryOf := by
    rw [List.filter_map, List.filter_filter]
    refine congrArg (List.map Call.entryOf) (List.filter_congr fun n _ => ?_)
    rw [Bool.eq_iff_iff, Bool.and_eq_true, beq_iff_eq, hslot]
    simp [Call.entryOf, and_comm]
  rw [mem_lastOfEach_iff, hmembers, List.getLast?_map, Option.map_eq_some_iff]
  constructor
  · rintro ⟨n, hn, heq⟩
    have hmem := (List.mem_filter.mp (List.mem_of_getLast? hn)).1
    rwa [carrier?, ← h.eq_of_name hm hmem (congrArg Prod.snd heq)]
  · intro hcarrier
    have hlast := (carrier?_slot hcarrier)
    exact ⟨m, hcarrier, by rw [Call.entryOf, ((hslot m key).mp hlast).2]⟩

/-- Where all members that are bound to a location are left, what is sent there has the last entry
of each key. -/
theorem HasPlainInput.dictionary_eq (h : o.HasPlainInput input) {location : Location}
    {labels left : List String} (hleft : ∀ n ∈ input.members,
      Call.isBoundTo location labels n = true → n.name ∈ left) :
    Call.dictionary left ((input.members.filter (Call.isBoundTo location labels)).map Call.entryOf)
      = lastOfEach (·.1)
        ((input.members.filter (Call.isBoundTo location labels)).map Call.entryOf) := by
  refine Call.dictionary_eq ?_ fun e he => ?_
  · rw [List.map_map]
    exact h.names.sublist (List.filter_sublist.map _)
  · obtain ⟨n, hn, rfl⟩ := List.mem_map.mp he
    obtain ⟨hn, hbound⟩ := List.mem_filter.mp hn
    exact hleft n hn hbound

theorem HasPlainInput.mem_left (h : o.HasPlainInput input) (hm : m ∈ input.members)
    {names : List String} (hnames : m.name ∈ names) :
    m.name ∈ (Call.sentOf o (sendPlan o) names).left
      ↔ m.name ∉ o.http.pathParams ∧ m.binding ≠ some .query ∧ m.binding ≠ some .header := by
  change m.name ∈ names.filter (!(Call.requestOf o (sendPlan o)).taken.contains ·) ↔ _
  rw [List.mem_filter, Bool.not_eq_true', Bool.eq_false_iff, ne_eq, List.contains_iff_mem,
    h.mem_taken hm]
  simp [hnames]

theorem HasPlainInput.mem_unlabelled (h : o.HasPlainInput input) (hm : m ∈ input.members)
    {names : List String} (hname : m.name ∈ names) (hlabel : m.name ∉ o.http.pathParams) :
    m.name ∈ names.filter (!(Call.labelsOf o (sendPlan o)).contains ·) := by
  rw [List.mem_filter, Bool.not_eq_true', Bool.eq_false_iff, ne_eq, List.contains_iff_mem,
    h.mem_labelsOf hm]
  exact ⟨hname, hlabel⟩

theorem HasPlainInput.mem_query_iff (h : o.HasPlainInput input) {names : List String}
    (hnames : ∀ m ∈ input.members, m.name ∈ names) (hm : m ∈ input.members) (key : String) :
    (key, m.name) ∈ (Call.sentOf o (sendPlan o) names).query
      ↔ o.carrier? input (.query key) = some m := by
  change (key, m.name) ∈ Call.dictionary _ ((sendPlan o).query.map Call.entryOf) ↔ _
  rw [h.query_eq, h.dictionary_eq fun n hn hbound =>
    h.mem_unlabelled hn (hnames n hn) (isBoundTo_iff.mp hbound).1]
  refine h.mem_lastOfEach hm (fun n key => ?_) key
  rw [slot?_eq_query_iff, isBoundTo_iff, and_assoc]

theorem HasPlainInput.mem_header_iff (h : o.HasPlainInput input) {names : List String}
    (hnames : ∀ m ∈ input.members, m.name ∈ names) (hm : m ∈ input.members) (key : String) :
    (key, m.name) ∈ (Call.sentOf o (sendPlan o) names).headers
      ↔ o.carrier? input (.header key) = some m := by
  have hleft : ∀ n ∈ input.members, Call.isBoundTo .header o.http.pathParams n = true →
      n.name ∈ Call.without (names.filter (!(Call.labelsOf o (sendPlan o)).contains ·))
        ((sendPlan o).query.map Call.entryOf) := by
    intro n hn hbound
    obtain ⟨hlabel, hbinding⟩ := isBoundTo_iff.mp hbound
    refine List.mem_filter.mpr ⟨h.mem_unlabelled hn (hnames n hn) hlabel, ?_⟩
    rw [Bool.not_eq_true', Bool.eq_false_iff, ne_eq, List.contains_iff_mem, List.map_map,
      h.query_eq]
    -- what the query takes is bound there
    intro hother
    have hboth := isBoundTo_iff.mp ((h.mem_names hn).mp hother)
    rw [hbinding] at hboth
    exact absurd hboth.2 (by decide)
  change (key, m.name) ∈ Call.dictionary (Call.without _ ((sendPlan o).query.map Call.entryOf))
    ((sendPlan o).headers.map Call.entryOf) ↔ _
  rw [h.headers_eq, h.dictionary_eq hleft]
  refine h.mem_lastOfEach hm (fun n key => ?_) key
  rw [slot?_eq_header_iff, isBoundTo_iff, and_assoc]

/-- A call sends in each slot the member that the slot carries, and nothing else. -/
theorem HasPlainInput.has_iff (h : o.HasPlainInput input) {names : List String}
    (hnames : ∀ m ∈ input.members, m.name ∈ names) (hm : m ∈ input.members) (slot : Slot) :
    (Call.sentOf o (sendPlan o) names).Has m.name slot ↔ o.carrier? input slot = some m := by
  cases slot with
  | label l =>
    change (l = m.name ∧ m.name ∈ Call.labelsOf o (sendPlan o)) ↔ _
    rw [h.mem_labelsOf hm, h.carrier?_label_iff hm, and_comm, eq_comm]
  | query key => exact h.mem_query_iff hnames hm key
  | header key => exact h.mem_header_iff hnames hm key
  | document =>
    change ((Call.requestOf o (sendPlan o)).body = some (.member m.name)
      ∧ m.name ∈ (Call.sentOf o (sendPlan o) names).left) ↔ _
    rw [h.body_eq_member_iff hm, h.mem_left hm (hnames m hm), h.carrier?_document_iff hm]
    constructor
    · rintro ⟨hbody, hlabel, -, -⟩
      exact ⟨hlabel, hbody⟩
    · rintro ⟨hlabel, hbody⟩
      exact ⟨hbody, hlabel, by simp [hbody], by simp [hbody]⟩
  | field f =>
    change (f = m.name ∧ (Call.requestOf o (sendPlan o)).body = some .rest
      ∧ m.name ∈ (Call.sentOf o (sendPlan o) names).left) ↔ _
    rw [h.body_eq_rest_iff, h.mem_left hm (hnames m hm), h.carrier?_field_iff hm]
    constructor
    · rintro ⟨hf, hrest, hnot⟩
      exact ⟨hnot, hrest, hf.symm⟩
    · rintro ⟨hnot, hrest, hf⟩
      exact ⟨hf.symm, hrest, hnot⟩

theorem HasPlainInput.mem_takes (h : o.HasPlainInput input) (hm : m ∈ input.members)
    {slot : Slot} :
    (m.name, slot) ∈ (Handler.handlingFor o).takes
      ↔ (payload? input = some m ∧ slot = .document) ∨ (m.name, slot) ∈ Handler.takesOf o m := by
  simp only [Handler.handlingFor, h.input_eq, Option.elim_some, Handler.documentTakes,
    List.mem_append, List.mem_map, Option.mem_toList, List.mem_flatMap, Prod.mk.injEq]
  constructor
  · rintro (⟨n, hn, heq, rfl⟩ | ⟨n, hn, htake⟩)
    · obtain rfl : n = m := h.eq_of_name hm (h.payload?_eq_some_iff.mp hn).1 heq
      exact Or.inl ⟨hn, rfl⟩
    · obtain rfl : n = m := h.eq_of_name hm hn (Handler.name_of_mem_takesOf htake).symm
      exact Or.inr htake
  · rintro (⟨hp, rfl⟩ | htake)
    · exact Or.inl ⟨m, hp, rfl, rfl⟩
    · exact Or.inr ⟨m, hm, htake⟩

theorem mem_takesOf_iff {slot : Slot} :
    (m.name, slot) ∈ Handler.takesOf o m
      ↔ (m.name ∈ o.http.pathParams ∧ slot = .label m.name)
        ∨ (m.name ∉ o.http.pathParams ∧ m.binding = some .query ∧ slot = .query m.wireName)
        ∨ (m.name ∉ o.http.pathParams ∧ m.binding = some .header ∧ slot = .header m.wireName) := by
  by_cases h : m.name ∈ o.http.pathParams
  · simp [Handler.takesOf, source?, h]
  · rcases hbinding : m.binding with _ | _ | _ | _ | _
      <;> simp [Handler.takesOf, source?, h, hbinding]

theorem HasPlainInput.isObject_iff (h : o.HasPlainInput input) :
    (Handler.handlingFor o).isObject = true ↔ hasPayload input = false := by
  rw [hasPayload, ← List.isSome_find?]
  change o.input.any _ = true ↔ (payload? input).isSome = false
  rw [h.input_eq]
  change (payload? input).isNone = true ↔ _
  cases payload? input <;> simp

theorem HasPlainInput.payload?_iff (h : o.HasPlainInput input) (hm : m ∈ input.members) :
    payload? input = some m ↔ m.binding = some .body := by
  rw [h.payload?_eq_some_iff, and_iff_right hm]

/-- A handler takes a member from no place but the body where no binding says so. -/
theorem HasPlainInput.not_mem_takes_iff (h : o.HasPlainInput input) (hm : m ∈ input.members) :
    (∀ slot, (m.name, slot) ∉ (Handler.handlingFor o).takes)
      ↔ (m.name ∉ o.http.pathParams ∧ m.binding ≠ some .query ∧ m.binding ≠ some .header)
        ∧ m.binding ≠ some .body := by
  simp only [h.mem_takes hm, mem_takesOf_iff, h.payload?_iff hm]
  constructor
  · intro hno
    have hlabel : m.name ∉ o.http.pathParams := fun hl =>
      hno (.label m.name) (Or.inr (Or.inl ⟨hl, rfl⟩))
    refine ⟨⟨hlabel, ?_, ?_⟩, ?_⟩
    · intro hq
      exact hno (.query m.wireName) (Or.inr (Or.inr (Or.inl ⟨hlabel, hq, rfl⟩)))
    · intro hh
      exact hno (.header m.wireName) (Or.inr (Or.inr (Or.inr ⟨hlabel, hh, rfl⟩)))
    · intro hb
      exact hno .document (Or.inl ⟨hb, rfl⟩)
  · rintro ⟨⟨hlabel, hq, hh⟩, hb⟩ slot (⟨h', -⟩ | ⟨h', -⟩ | ⟨-, h', -⟩ | ⟨-, h', -⟩)
    · exact hb h'
    · exact hlabel h'
    · exact hq h'
    · exact hh h'

/-- A handler reads a member from its slot and nowhere else. -/
theorem HasPlainInput.reads_iff (h : o.HasPlainInput input) (hm : m ∈ input.members)
    (slot : Slot) :
    (Handler.handlingFor o).Reads m.name slot ↔ o.slot? input m = some slot := by
  cases slot with
  | label l =>
    change (m.name, Slot.label l) ∈ (Handler.handlingFor o).takes ↔ _
    rw [slot?_eq_label_iff, h.mem_takes hm, mem_takesOf_iff]
    simp [eq_comm]
  | query key =>
    change (m.name, Slot.query key) ∈ (Handler.handlingFor o).takes ↔ _
    rw [slot?_eq_query_iff, h.mem_takes hm, mem_takesOf_iff]
    simp [eq_comm]
  | header key =>
    change (m.name, Slot.header key) ∈ (Handler.handlingFor o).takes ↔ _
    rw [slot?_eq_header_iff, h.mem_takes hm, mem_takesOf_iff]
    simp [eq_comm]
  | document =>
    change (m.name, Slot.document) ∈ (Handler.handlingFor o).takes ↔ _
    rw [slot?_eq_document_iff, h.mem_takes hm, mem_takesOf_iff, h.payload?_iff hm]
    simpa using h.free m hm
  | field f =>
    have hbody := binding_ne_body hm
    rw [slot?_eq_field_iff hm, Handler.Handling.Reads, h.isObject_iff, h.not_mem_takes_iff hm]
    constructor
    · rintro ⟨rfl, hrest, hnot, -⟩
      exact ⟨hnot, hrest, rfl⟩
    · rintro ⟨hnot, hrest, rfl⟩
      exact ⟨rfl, hrest, hnot, hbody hrest⟩

end Operation

end SmithyGen
