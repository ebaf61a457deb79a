import Mathlib.Data.List.Induction
import SmithyGen.Proofs.Interchange

namespace SmithyGen

namespace Entries

variable {α : Type}

theorem insertAll_append (es : Entries α) (xs ys : List (String × α)) :
    insertAll es (xs ++ ys) = insertAll (insertAll es xs) ys :=
  List.foldl_append

theorem insertAll_singleton (es : Entries α) (k : String) (v : α) :
    insertAll es [(k, v)] = es.insert k v := rfl

theorem keys_append (xs ys : Entries α) : (xs ++ ys : Entries α).keys = xs.keys ++ ys.keys :=
  List.map_append

theorem keys_flatMap {β : Type} (f : β → Entries α) (bs : List β) :
    keys (bs.flatMap f) = bs.flatMap fun b => (f b).keys :=
  List.map_flatMap

/-- Inserted pairs stand in the order in which their keys are first written. -/
theorem keys_insertAll (pairs : List (String × α)) :
    (insertAll [] pairs).keys = (keys pairs).eraseDups := by
  induction pairs using List.reverseRecOn with
  | nil => rfl
  | append_singleton pairs pair ih =>
    obtain ⟨k, v⟩ := pair
    have hlast : (keys (pairs ++ [(k, v)])).eraseDups
        = (keys pairs).eraseDups ++ ([k].removeAll (keys pairs)).eraseDups := by
      rw [keys_append, List.eraseDups_append]
      rfl
    rw [insertAll_append, insertAll_singleton, hlast]
    by_cases hk : k ∈ keys pairs
    · have hmem : k ∈ (insertAll [] pairs).keys := by rwa [ih, List.mem_eraseDups]
      have hknown : [k].removeAll (keys pairs) = [] := by simp [List.removeAll, hk]
      rw [keys_insert_of_mem hmem, ih, hknown, List.eraseDups_nil, List.append_nil]
    · have hnew : k ∉ (insertAll [] pairs).keys := by rwa [ih, List.mem_eraseDups]
      have hfresh : [k].removeAll (keys pairs) = [k] := by simp [List.removeAll, hk]
      rw [insert_of_not_mem hnew, keys_append, ih, hfresh]
      rfl

/-- The value that is written last under a key. -/
def last? (k : String) (pairs : List (String × α)) : Option α := pairs.reverse.lookup k

theorem last?_append (k : String) (xs ys : List (String × α)) :
    last? k (xs ++ ys) = (last? k ys).or (last? k xs) := by
  rw [last?, List.reverse_append, List.lookup_append]
  rfl

theorem get?_insertAll (k : String) (pairs : List (String × α)) :
    (insertAll [] pairs).get? k = last? k pairs := by
  induction pairs using List.reverseRecOn with
  | nil => rfl
  | append_singleton pairs pair ih =>
    obtain ⟨k', v⟩ := pair
    rw [insertAll_append, insertAll_singleton, last?_append]
    by_cases hk : k = k'
    · subst hk
      rw [get?_insert_self]
      simp [last?]
    · have hne : (k == k') = false := by simpa using hk
      rw [get?_insert_of_ne v _ hk, ih]
      simp [last?, List.lookup_cons, hne]

/-- In lists of pairs put together, the last list that has a key counts. -/
theorem last?_flatMap {β : Type} (k : String) (f : β → List (String × α)) (bs : List β) :
    last? k (bs.flatMap f) = bs.reverse.findSome? fun b => last? k (f b) := by
  induction bs with
  | nil => rfl
  | cons b bs ih =>
    rw [List.flatMap_cons, last?_append, ih, List.reverse_cons, List.findSome?_append]
    simp

theorem insertAll_insertAll (pairs : List (String × α)) :
    insertAll [] (insertAll [] pairs) = insertAll [] pairs :=
  ofList_of_nodup (nodup_keys_ofList pairs)

end Entries

namespace Interchange

/-- What a union takes from a document. -/
structure Sections where
  shapes : Entries Value
  metadata : List (String × Value)

def sectionsOf (doc : Value) : Except Fault Sections := do
  match ← rawSection doc "shapes" with
  | .map shapes => return { shapes, metadata := ← updatePairs (← rawSection doc "metadata") }
  | _ => .error .wrongType

/-- A document whose sections can be read, under the name of its file. -/
structure Source where
  file : String
  doc : Value
  sections : Sections
  sections_eq : sectionsOf doc = .ok sections

namespace Source

def entry (s : Source) : String × Value := (s.file, s.doc)

def shapes (s : Source) : Entries Value := s.sections.shapes

def metadata (s : Source) : List (String × Value) := s.sections.metadata

def definitions (s : Source) : List (String × String) := s.shapes.keys.map (·, s.file)

theorem rawSection_shapes (s : Source) : rawSection s.doc "shapes" = .ok (.map s.shapes) := by
  obtain ⟨v, hv, h⟩ := Outcome.bind_eq_ok.mp s.sections_eq
  split at h
  · obtain ⟨raw, -, h⟩ := Outcome.bind_eq_ok.mp h
    obtain ⟨pairs, -, h⟩ := Outcome.bind_eq_ok.mp h
    rw [hv, shapes, ← Except.ok.inj h]
  · cases h

theorem updatePairs_metadata (s : Source) :
    (rawSection s.doc "metadata" >>= updatePairs) = .ok s.metadata := by
  obtain ⟨v, hv, h⟩ := Outcome.bind_eq_ok.mp s.sections_eq
  split at h
  · obtain ⟨raw, hraw, h⟩ := Outcome.bind_eq_ok.mp h
    obtain ⟨pairs, hpairs, h⟩ := Outcome.bind_eq_ok.mp h
    rw [metadata, ← Except.ok.inj h]
    exact Outcome.bind_eq_ok.mpr ⟨raw, hraw, hpairs⟩
  · cases h

end Source

theorem sectionsOf_of_addFile {file : String} {doc : Value} {u u' : Union}
    (h : (u.addFile file doc).result = .ok u') : ∃ sections, sectionsOf doc = .ok sections := by
  obtain ⟨v, hv, h⟩ := Outcome.result_bind_eq_ok.mp h
  split at h
  next es =>
    obtain ⟨_, -, h⟩ := Outcome.result_bind_eq_ok.mp h
    obtain ⟨raw, hraw, h⟩ := Outcome.result_bind_eq_ok.mp h
    obtain ⟨pairs, hpairs, -⟩ := Outcome.result_bind_eq_ok.mp h
    refine ⟨⟨es, pairs⟩, Outcome.bind_eq_ok.mpr ⟨.map es, hv, ?_⟩⟩
    exact Outcome.bind_eq_ok.mpr ⟨raw, hraw, Outcome.bind_eq_ok.mpr ⟨pairs, hpairs, rfl⟩⟩
  next => cases h

/-- What is told of definitions after earlier ones: of each id that was defined before, which file
did so last. -/
def redefinitions : (earlier : List (String × String)) → List (String × String) → List Notice
  | _, [] => []
  | earlier, (id, file) :: rest =>
    ((Entries.last? id earlier).map fun last => .redefined id last file).toList
      ++ redefinitions (earlier ++ [(id, file)]) rest

theorem redefinitions_append (earlier xs ys : List (String × String)) :
    redefinitions earlier (xs ++ ys)
      = redefinitions earlier xs ++ redefinitions (earlier ++ xs) ys := by
  induction xs generalizing earlier with
  | nil => simp [redefinitions]
  | cons x xs ih =>
    rw [List.cons_append, redefinitions, redefinitions, ih, List.append_assoc, List.append_assoc]
    rfl

def unionOf (shapes metadata : Entries Value) : Value :=
  .map [("smithy", .str "2.0"), ("shapes", .map shapes), ("metadata", .map metadata)]

namespace Union

def after (shapes : Entries Value) (definitions : List (String × String))
    (metadata : Entries Value) : Union :=
  ⟨shapes, Entries.insertAll [] definitions, metadata⟩

variable {shapes metadata : Entries Value} {earlier : List (String × String)}

theorem addShapes_eq (file : String) (es : Entries Value) :
    (after shapes earlier metadata).addShapes file es
      = ⟨redefinitions earlier (es.keys.map (·, file)),
          .ok (after (shapes.insertAll es) (earlier ++ es.keys.map (·, file)) metadata)⟩ := by
  induction es generalizing shapes earlier with
  | nil => simp [addShapes, redefinitions, Entries.keys, Entries.insertAll, Logged.ok]
  | cons entry es ih =>
    obtain ⟨id, shape⟩ := entry
    have hknown : (after shapes earlier metadata).origins.get? id = Entries.last? id earlier :=
      Entries.get?_insertAll id earlier
    have hnext : ({ after shapes earlier metadata with
          shapes := (after shapes earlier metadata).shapes.insert id shape
          origins := (after shapes earlier metadata).origins.insert id file } : Union)
        = after (shapes.insert id shape) (earlier ++ [(id, file)]) metadata := by
      rw [after, after, Entries.insertAll_append]
      rfl
    have hkeys : (Entries.keys ((id, shape) :: es)).map (·, file)
        = (id, file) :: (Entries.keys es).map (·, file) := rfl
    rw [addShapes, hknown, hnext, ih, hkeys, redefinitions, List.append_assoc]
    cases Entries.last? id earlier <;> rfl

theorem addFile_eq (s : Source) :
    (after shapes earlier metadata).addFile s.file s.doc
      = ⟨redefinitions earlier s.definitions,
          .ok (after (shapes.insertAll s.shapes) (earlier ++ s.definitions)
            (metadata.insertAll s.metadata))⟩ := by
  obtain ⟨raw, hraw, hpairs⟩ := Outcome.bind_eq_ok.mp s.updatePairs_metadata
  rw [addFile, s.rawSection_shapes]
  change ((after shapes earlier metadata).addShapes s.file s.shapes >>= _) = _
  rw [addShapes_eq, Logged.bind_ok, hraw]
  change Logged.mk (_ ++ (Logged.ofExcept (updatePairs raw) >>= _ : Logged Union).notices)
    (Logged.ofExcept (updatePairs raw) >>= _ : Logged Union).result = _
  rw [hpairs]
  simp [Logged.ofExcept, Source.definitions, after, Entries.insertAll]

theorem addFiles_eq (batch : List Source) :
    addFiles (batch.map Source.entry) (after shapes earlier metadata)
      = ⟨redefinitions earlier (batch.flatMap Source.definitions),
          .ok (after (shapes.insertAll (batch.flatMap Source.shapes))
            (earlier ++ batch.flatMap Source.definitions)
            (metadata.insertAll (batch.flatMap Source.metadata)))⟩ := by
  induction batch generalizing shapes earlier metadata with
  | nil => simp [addFiles, redefinitions, Entries.insertAll, Logged.ok]
  | cons s batch ih =>
    rw [List.map_cons, Source.entry, addFiles, addFile_eq, Logged.bind_ok, ih]
    simp only [List.flatMap_cons, redefinitions_append, Entries.insertAll_append,
      List.append_assoc]

end Union

def unitedShapes (batch : List Source) : Entries Value :=
  Entries.insertAll [] (batch.flatMap Source.shapes)

def unitedMetadata (batch : List Source) : Entries Value :=
  Entries.insertAll [] (batch.flatMap Source.metadata)

theorem merge_eq (batch : List Source) :
    merge (batch.map Source.entry)
      = ⟨redefinitions [] (batch.flatMap Source.definitions)
            ++ [.merged (unitedShapes batch).length batch.length],
          .ok (unionOf (unitedShapes batch) (unitedMetadata batch))⟩ := by
  change (Union.addFiles (batch.map Source.entry) (Union.after [] [] []) >>= _) = _
  rw [Union.addFiles_eq, Logged.bind_ok, List.length_map]
  rfl

def Source.ofUnion (file : String) (batch : List Source) : Source where
  file := file
  doc := unionOf (unitedShapes batch) (unitedMetadata batch)
  sections := ⟨unitedShapes batch, unitedMetadata batch⟩
  sections_eq := rfl

theorem insertAll_united {f : Source → Entries Value} (xs ys : List Source) {pairs : Entries Value}
    (h : pairs = Entries.insertAll [] (xs.flatMap f)) :
    Entries.insertAll [] (pairs ++ ys.flatMap f) = Entries.insertAll [] ((xs ++ ys).flatMap f) := by
  rw [h, List.flatMap_append, Entries.insertAll_append, Entries.insertAll_append,
    Entries.insertAll_insertAll]

/-- A union stands in for the documents it was made of. -/
theorem merge_ofUnion (file : String) (xs ys : List Source) :
    (merge ((Source.ofUnion file xs :: ys).map Source.entry)).result
      = (merge ((xs ++ ys).map Source.entry)).result := by
  have hshapes : unitedShapes (Source.ofUnion file xs :: ys) = unitedShapes (xs ++ ys) :=
    insertAll_united xs ys rfl
  have hmetadata : unitedMetadata (Source.ofUnion file xs :: ys) = unitedMetadata (xs ++ ys) :=
    insertAll_united xs ys rfl
  rw [merge_eq, merge_eq, hshapes, hmetadata]

/-- Documents have a union exactly where the sections of each of them can be read. -/
theorem merge_isOk_iff (files : List (String × Value)) :
    (∃ v, (merge files).result = .ok v)
      ↔ ∃ batch : List Source, files = batch.map Source.entry := by
  constructor
  · rintro ⟨v, hv⟩
    obtain ⟨u, hu, -⟩ := Outcome.result_bind_eq_ok.mp hv
    clear hv
    generalize (⟨[], [], []⟩ : Union) = start at hu
    induction files generalizing start with
    | nil => exact ⟨[], rfl⟩
    | cons entry files ih =>
      obtain ⟨file, doc⟩ := entry
      obtain ⟨next, hnext, hu⟩ := Outcome.result_bind_eq_ok.mp hu
      obtain ⟨batch, hbatch⟩ := ih next hu
      obtain ⟨sections, hsections⟩ := sectionsOf_of_addFile hnext
      exact ⟨⟨file, doc, sections, hsections⟩ :: batch, by rw [hbatch]; rfl⟩
  · rintro ⟨batch, rfl⟩
    exact ⟨_, congrArg Logged.result (merge_eq batch)⟩

/-- The union of a batch, which may be any that has one. Shapes and metadata have their keys in the
order in which these are first written, and the values of the last documents that have them. Of
every definition of an id after its first it is told which file defined the id right before. The
union of a first part of the batch may stand in its place. -/
theorem merge_last_wins (batch : List Source) :
    ∃ shapes metadata,
      (merge (batch.map Source.entry)).result = .ok (unionOf shapes metadata)
      ∧ shapes.keys = (batch.flatMap fun s => s.shapes.keys).eraseDups
      ∧ (∀ id, shapes.get? id = batch.reverse.findSome? fun s => Entries.last? id s.shapes)
      ∧ metadata.keys = (batch.flatMap fun s => Entries.keys s.metadata).eraseDups
      ∧ (∀ key, metadata.get? key
          = batch.reverse.findSome? fun s => Entries.last? key s.metadata)
      ∧ (merge (batch.map Source.entry)).notices
          = redefinitions [] (batch.flatMap Source.definitions)
            ++ [.merged shapes.length batch.length]
      ∧ ∀ n file, ∃ first, (merge ((batch.take n).map Source.entry)).result = .ok first
          ∧ (merge ((file, first) :: (batch.drop n).map Source.entry)).result
            = .ok (unionOf shapes metadata) := by
  refine ⟨unitedShapes batch, unitedMetadata batch, by rw [merge_eq], ?_, ?_, ?_, ?_,
    by rw [merge_eq], ?_⟩
  · rw [unitedShapes, Entries.keys_insertAll, Entries.keys_flatMap]
  · intro id
    rw [unitedShapes, Entries.get?_insertAll, Entries.last?_flatMap]
  · rw [unitedMetadata, Entries.keys_insertAll, Entries.keys_flatMap]
  · intro key
    rw [unitedMetadata, Entries.get?_insertAll, Entries.last?_flatMap]
  · intro n file
    refine ⟨_, congrArg Logged.result (merge_eq (batch.take n)), ?_⟩
    have hunion := merge_ofUnion file (batch.take n) (batch.drop n)
    rw [List.take_append_drop, merge_eq batch] at hunion
    exact hunion

end Interchange

end SmithyGen
