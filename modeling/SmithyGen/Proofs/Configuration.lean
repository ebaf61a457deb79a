import Mathlib.Data.List.Nodup
import SmithyGen.Config
import SmithyGen.Proofs.Outcome

namespace SmithyGen

namespace Config

/-- What one key of a document sets. -/
inductive Setting where
  | baseModule (v : Value)
  | outputDir (v : Value)
  | appName (v : Value)
  | generateTypes (v : Value)
  | generateServer (v : Value)
  | generateClient (v : Value)
  | addComment (v : Value)
  | parser (s : Section ParserSettings)
  | build (s : Section BuildSettings)
  | formatter (s : Section FormatterSettings)
  | output (s : Section OutputSettings)
  | noDocument
  | noOptions
  | unknown (key : String)

namespace Setting

def key : Setting → String
  | baseModule _ => "base_module"
  | outputDir _ => "output_dir"
  | appName _ => "app_name"
  | generateTypes _ => "generate_types"
  | generateServer _ => "generate_server"
  | generateClient _ => "generate_client"
  | addComment _ => "add_generation_comment"
  | parser _ => "parser"
  | build _ => "build"
  | formatter _ => "formatter"
  | output _ => "output"
  | noDocument => "to_dict"
  | noOptions => "emitter_options"
  | unknown key => key

def ofEntry : String × Value → Except Fault Setting
  | ("base_module", v) => .ok (baseModule v)
  | ("output_dir", v) => .ok (outputDir v)
  | ("app_name", v) => .ok (appName v)
  | ("generate_types", v) => .ok (generateTypes v)
  | ("generate_server", v) => .ok (generateServer v)
  | ("generate_client", v) => .ok (generateClient v)
  | ("add_generation_comment", v) => .ok (addComment v)
  | ("parser", v) => (Section.ofValue ParserSettings.ofEntries v).map parser
  | ("build", v) => (Section.ofValue BuildSettings.ofEntries v).map build
  | ("formatter", v) => (Section.ofValue FormatterSettings.ofEntries v).map formatter
  | ("output", v) => (Section.ofValue OutputSettings.ofEntries v).map output
  | ("to_dict", _) => .ok noDocument
  | ("emitter_options", _) => .ok noOptions
  | ("__class__", _) | ("__dict__", _) | ("__weakref__", _) => .error .wrongType
  | (key, _) => .ok (unknown key)

theorem key_of_ofEntry {e : String × Value} {s : Setting} (h : ofEntry e = .ok s) :
    s.key = e.1 := by
  unfold ofEntry at h
  split at h
  all_goals
    first
      | obtain rfl := Except.ok.inj h
        rfl
      | obtain ⟨_, -, rfl⟩ := Outcome.map_eq_ok.mp h
        rfl
      | cases h

end Setting

def apply (c : Config) : Setting → Config
  | .baseModule v => { c with baseModule := v }
  | .outputDir v => { c with outputDir := v }
  | .appName v => { c with appName := v }
  | .generateTypes v => { c with generateTypes := v }
  | .generateServer v => { c with generateServer := v }
  | .generateClient v => { c with generateClient := v }
  | .addComment v => { c with addComment := v }
  | .parser s => { c with parser := s }
  | .build s => { c with build := s }
  | .formatter s => { c with formatter := s }
  | .output s => { c with output := s }
  | .noDocument => { c with hidesDocument := true }
  | .noOptions => { c with hidesOptions := true }
  | .unknown _ => c

/-- Settings of different keys can be applied in either order. -/
theorem apply_comm {a b : Setting} (h : a.key ≠ b.key) (c : Config) :
    (c.apply a).apply b = (c.apply b).apply a := by
  cases a <;> cases b <;> first | rfl | exact absurd rfl h

theorem set_eq (c : Config) (e : String × Value) : c.set e = (Setting.ofEntry e).map c.apply := by
  unfold set
  split
  -- the sections, which may be refused; the keys that are passed over; all others
  case h_8 v | h_9 v | h_10 v | h_11 v =>
    simp only [Setting.ofEntry]
    cases Section.ofValue _ v <;> rfl
  case h_17 =>
    unfold Setting.ofEntry
    split
    case h_17 => rfl
    all_goals exfalso; solve_by_elim
  all_goals rfl

theorem ofValue_map (es : Entries Value) :
    ofValue (.map es) = (es.mapM Setting.ofEntry).map (List.foldl apply {}) :=
  Outcome.foldlM_eq_map_mapM set_eq es {}

/-- Settings of pairwise different keys can be applied in any order. -/
theorem foldl_apply_perm {ss ss' : List Setting} (hperm : ss'.Perm ss)
    (hkeys : (ss.map Setting.key).Nodup) (c : Config) : ss'.foldl apply c = ss.foldl apply c := by
  refine (hperm.symm.foldl_eq' ?_ c).symm
  intro a ha b hb c
  by_cases hkey : a.key = b.key
  · obtain rfl : a = b := List.inj_on_of_nodup_map hkeys ha hb hkey
    rfl
  · exact apply_comm hkey c

/-- The order of the keys of a document does not matter. -/
theorem ofValue_perm {es es' : Entries Value} {c : Config} (hkeys : es.keys.Nodup)
    (h : ofValue (.map es) = .ok c) (hperm : es'.Perm es) : ofValue (.map es') = .ok c := by
  rw [ofValue_map] at h ⊢
  obtain ⟨ss, hss, rfl⟩ := Outcome.map_eq_ok.mp h
  obtain ⟨ss', hss', hperm'⟩ := Outcome.mapM_eq_ok_of_perm hss hperm
  have hkeys' : ss.map Setting.key = es.keys :=
    Outcome.map_of_mapM_eq_ok (fun _ _ => Setting.key_of_ofEntry) hss
  rw [hss']
  exact congrArg Except.ok (foldl_apply_perm hperm' (hkeys' ▸ hkeys) {})

end Config

section Sections

variable {v : Value}

theorem Section.given_eq_ok {α : Type} {s : Section α} {a : α} (h : s.given = .ok a) :
    s = .settings a := by
  cases s with
  | settings b => rw [Except.ok.inj h]
  | other v => cases h

theorem ParserSettings.ofValue_toValue (s : ParserSettings) :
    Section.ofValue ofEntries s.toValue = .ok (.settings s) := rfl

theorem BuildSettings.ofValue_toValue (s : BuildSettings) :
    Section.ofValue ofEntries s.toValue = .ok (.settings s) := rfl

theorem FormatterSettings.ofValue_toValue (s : FormatterSettings) :
    Section.ofValue ofEntries s.toValue = .ok (.settings s) := rfl

theorem ModeSetting.ofValue_of_toValue {s : ModeSetting} (h : s.toValue = .ok v) :
    ofValue v = .ok s := by
  cases s with
  | mode m =>
    obtain rfl := Except.ok.inj h
    cases m <;> rfl
  | other v => cases h

theorem OutputSettings.ofValue_of_toValue {s : OutputSettings} (h : s.toValue = .ok v) :
    Section.ofValue ofEntries v = .ok (.settings s) := by
  obtain ⟨mode, hmode, h⟩ := Outcome.bind_eq_ok.mp h
  obtain rfl := Except.ok.inj h
  have hread : ModeSetting.ofValue mode = .ok s.mode := ModeSetting.ofValue_of_toValue hmode
  have hentries : ofEntries [("mode", mode), ("backup", s.backup),
      ("validate_before_write", s.validateBeforeWrite), ("atomic_write", s.atomicWrite)]
      = (ModeSetting.ofValue mode).map fun m => { s with mode := m } := rfl
  rw [Section.ofValue, hentries, hread]
  rfl

end Sections

namespace Config

def settings (c : Config) (parser : ParserSettings) (build : BuildSettings)
    (formatter : FormatterSettings) (output : OutputSettings) : List Setting :=
  [.baseModule c.baseModule, .outputDir c.outputDir, .appName c.appName,
    .generateTypes c.generateTypes, .generateServer c.generateServer,
    .generateClient c.generateClient, .addComment c.addComment, .parser (.settings parser),
    .build (.settings build), .formatter (.settings formatter), .output (.settings output)]

theorem foldl_apply_settings (c : Config) (parser : ParserSettings) (build : BuildSettings)
    (formatter : FormatterSettings) (output : OutputSettings) :
    (c.settings parser build formatter output).foldl apply {} =
      { c with
        parser := .settings parser
        build := .settings build
        formatter := .settings formatter
        output := .settings output
        hidesDocument := false
        hidesOptions := false } := by
  simp only [settings, List.foldl_cons, List.foldl_nil, apply]

/-- The document of a configuration is read as the same configuration. Its options, which a document
may put out of reach, are in reach again. -/
theorem ofValue_of_toValue {c : Config} {e : Value} (h : c.toValue = .ok e) :
    ofValue e = .ok { c with hidesOptions := false } := by
  unfold toValue at h
  split_ifs at h with hhides
  · cases h
  obtain ⟨parser, hparser, h⟩ := Outcome.bind_eq_ok.mp h
  obtain ⟨build, hbuild, h⟩ := Outcome.bind_eq_ok.mp h
  obtain ⟨formatter, hformatter, h⟩ := Outcome.bind_eq_ok.mp h
  obtain ⟨output, houtput, h⟩ := Outcome.bind_eq_ok.mp h
  obtain ⟨written, hwritten, h⟩ := Outcome.bind_eq_ok.mp h
  obtain rfl := Except.ok.inj h
  have hsettings : (c.settings parser build formatter output).foldl apply {}
      = { c with hidesOptions := false } := by
    rw [foldl_apply_settings, ← Section.given_eq_ok hparser, ← Section.given_eq_ok hbuild,
      ← Section.given_eq_ok hformatter, ← Section.given_eq_ok houtput,
      ← Bool.eq_false_iff.mpr hhides]
  have hparser' : Setting.ofEntry ("parser", parser.toValue) = .ok (.parser (.settings parser)) :=
    congrArg (Except.map Setting.parser) (ParserSettings.ofValue_toValue parser)
  have hbuild' : Setting.ofEntry ("build", build.toValue) = .ok (.build (.settings build)) :=
    congrArg (Except.map Setting.build) (BuildSettings.ofValue_toValue build)
  have hformatter' : Setting.ofEntry ("formatter", formatter.toValue)
      = .ok (.formatter (.settings formatter)) :=
    congrArg (Except.map Setting.formatter) (FormatterSettings.ofValue_toValue formatter)
  have houtput' : Setting.ofEntry ("output", written) = .ok (.output (.settings output)) :=
    congrArg (Except.map Setting.output) (OutputSettings.ofValue_of_toValue hwritten)
  rw [ofValue_map, ← hsettings]
  refine Outcome.map_eq_ok.mpr ⟨_, Outcome.mapM_eq_ok_of_forall₂ ?_, rfl⟩
  simp only [settings, List.forall₂_cons]
  exact ⟨rfl, rfl, rfl, rfl, rfl, rfl, rfl, hparser', hbuild', hformatter', houtput', .nil⟩

/-- A configuration read from a document gives a document that is read as the same configuration and
gives itself again; and the keys of the first document can stand in any order. -/
theorem toValue_roundTrip {es : Entries Value} {c : Config} (hkeys : es.keys.Nodup)
    (h : ofValue (.map es) = .ok c) :
    (∀ e, c.toValue = .ok e →
      let c' := { c with hidesOptions := false }
      ofValue e = .ok c' ∧ c'.toValue = .ok e)
    ∧ ∀ es' : Entries Value, es'.Perm es → ofValue (.map es') = .ok c :=
  ⟨fun _ he => ⟨ofValue_of_toValue he, he⟩, fun _ hperm => ofValue_perm hkeys h hperm⟩

def looseDocument : Entries Value :=
  [("output", .map [("mode", .str "force"), ("owner", .null)]), ("base_module", .str "app.api"),
    ("parser", .map [("extensions", .str "ab")]), ("emitter_options", .int 1),
    ("generate_client", .null), ("comment", .str "draft")]

theorem toValue_roundTrip_loose :
    looseDocument.keys.Nodup ∧ ∃ c e, ofValue (.map looseDocument) = .ok c ∧ c.toValue = .ok e
      ∧ ofValue e = .ok { c with hidesOptions := false }
      ∧ ofValue (.map looseDocument.reverse) = .ok c := by
  have hkeys : looseDocument.keys.Nodup := by decide
  have h := toValue_roundTrip hkeys rfl
  exact ⟨hkeys, _, _, rfl, rfl, (h.1 _ rfl).1, h.2 _ (List.reverse_perm _)⟩

end Config

end SmithyGen
