import SmithyGen.Emit.Types
import SmithyGen.Proofs.CodeNames

namespace SmithyGen.Emit.Types.FieldPlan

open Code

variable {p : FieldPlan}

def settings (p : FieldPlan) : List Char := (", ".intercalate p.overrides).toList

def starts : List (List Char) := ["metadata=".toList, "default=None, metadata=".toList]

theorem mem_starts {start : List Char} (h : start ∈ starts) :
    hasNoQuote start = true ∧ start.getLast? = some '='
      ∧ start.all (fun c => !isQuote c && c != 'b') = true := by
  rcases List.mem_pair.mp h with rfl | rfl <;> decide

theorem metadata?_eq (p : FieldPlan) :
    p.metadata? = if p.overrides = [] then none
      else some ("config(" ++ ", ".intercalate p.overrides ++ ")") := by
  simp only [metadata?, List.isEmpty_iff]

theorem default?_decl (p : FieldPlan) :
    p.decl.default? = if p.member.isRequired
      then p.metadata?.map fun m => "field(metadata=" ++ m ++ ")"
      else some (p.metadata?.elim "None" fun m => "field(default=None, metadata=" ++ m ++ ")") := by
  simp only [decl, apply_ite FieldDecl.default?]

/-- A field has no default but `None`, or it is made with its settings. -/
theorem default_cases (p : FieldPlan) :
    (p.metadata? = none ∧ ∀ t ∈ p.decl.default?, t = "None")
      ∨ (p.metadata?.isSome = true ∧ ∃ start ∈ starts, ∃ t, p.decl.default? = some t
        ∧ t.toList = "field".toList ++ '(' :: (start ++ ("config".toList ++ '(' :: (p.settings
          ++ "))".toList)))) := by
  rw [default?_decl, metadata?_eq]
  by_cases h : p.overrides = []
  · rw [if_pos h]
    refine Or.inl ⟨rfl, ?_⟩
    split_ifs <;> simp [eq_comm]
  · rw [if_neg h]
    refine Or.inr ⟨rfl, ?_⟩
    split_ifs
    · exact ⟨"metadata=".toList, List.mem_cons_self, _, rfl, by simp [settings]⟩
    · exact ⟨"default=None, metadata=".toList, List.mem_cons_of_mem _ List.mem_cons_self, _, rfl,
        by simp [settings]⟩

/-- What the settings say before the codec, if there is one: the name of the member, where the
attribute has another one. -/
theorem settings_cases (p : FieldPlan) :
    ∃ front, Lacks 'b' front
      ∧ p.settings = front ++ if p.isBinary then blobCodec.toList else [] := by
  have hfield : Lacks 'b' "field_name=".toList := .of_plain (by rfl)
  have hcomma : Lacks 'b' ", ".toList := .of_plain (by rfl)
  have hname := hfield.append (.quoted (by rfl) p.member.name)
  unfold settings overrides
  split_ifs
  · exact ⟨[], .nil, by simp⟩
  · exact ⟨[], .nil, by simp⟩
  · exact ⟨_, hname.append hcomma, by simp⟩
  · exact ⟨_, hname, by simp⟩

section Names

theorem opens_config {start : List Char} (h : start ∈ starts) :
    Opens ("field".toList ++ '(' :: start) := by
  obtain ⟨hplain, hlast, -⟩ := mem_starts h
  have hfield : Complete "field(".toList := .of_plain (of_hasNoQuote (by rfl))
  have hopens := Opens.append hfield hplain hlast (by decide)
  simpa using hopens

theorem lacks_config {start : List Char} (h : start ∈ starts) :
    Lacks 'b' ("field".toList ++ '(' :: (start ++ ("config".toList ++ ['(']))) := by
  have hfield : Lacks 'b' "field(".toList := .of_plain (by rfl)
  have hconfig : Lacks 'b' "config(".toList := .of_plain (by rfl)
  have hlacks := hfield.append ((Lacks.of_plain (mem_starts h).2.2).append hconfig)
  simpa using hlacks

/-- A field is made by a call, with settings made by another one, where it has settings. -/
theorem calls_iff (p : FieldPlan) {name : String} (hname : name ∈ ["field", "config"]) :
    (∃ t ∈ p.decl.default?, Calls name t) ↔ p.metadata?.isSome = true := by
  have hf : 'f' ∈ name.toList := by rcases List.mem_pair.mp hname with rfl | rfl <;> decide
  rcases default_cases p with ⟨hnone, hall⟩ | ⟨hsome, start, hstart, t, ht, htext⟩
  · rw [hnone]
    refine iff_of_false ?_ (by simp)
    rintro ⟨t, ht, hcalls⟩
    rw [hall t ht] at hcalls
    exact not_calls_of_not_mem hf (by decide) hcalls
  · refine iff_of_true ⟨t, ht, ?_⟩ hsome
    rcases List.mem_pair.mp hname with rfl | rfl
    · exact Opens.nil.calls (by rfl) htext
    · exact (opens_config hstart).calls (by rfl) (by rw [htext, List.append_assoc]; rfl)

theorem blobCodec_eq {codec : String} (hcodec : codec ∈ ["_encode_blob", "_decode_blob"]) :
    ∃ mark back, blobCodec.toList = mark ++ (codec.toList ++ back) ∧ hasNoQuote mark = true
      ∧ mark.getLast? = some '=' ∧ hasNoQuote codec.toList = true
      ∧ (back ++ "))".toList).head?.any Text.isWord = false := by
  rcases List.mem_pair.mp hcodec with rfl | rfl
  · exact ⟨"encoder=".toList, ", decoder=_decode_blob".toList, by decide⟩
  · exact ⟨"encoder=_encode_blob, decoder=".toList, [], by decide⟩

theorem metadata?_of_isBinary (h : p.isBinary = true) : p.metadata?.isSome = true := by
  simp [metadata?, overrides, h]

/-- The functions of the codec are named by the fields that hold binary data. -/
theorem names_codec_iff (p : FieldPlan) {codec : String}
    (hmem : codec ∈ ["_encode_blob", "_decode_blob"]) :
    (∃ t ∈ p.decl.default?, Names codec t) ↔ p.isBinary = true := by
  obtain ⟨front, hfront, hsettings⟩ := settings_cases p
  have hb : 'b' ∈ codec.toList := by rcases List.mem_pair.mp hmem with rfl | rfl <;> decide
  constructor
  · rintro ⟨t, ht, hnames⟩
    by_contra hbinary
    rw [if_neg hbinary, List.append_nil] at hsettings
    -- Without the codec nothing but the name of the member may have a `b`, and that is quoted.
    refine not_names_of_not_mem hb ?_ hnames
    rcases default_cases p with ⟨-, hall⟩ | ⟨-, start, hstart, t', ht', htext⟩
    · rw [hall t ht]
      decide
    · obtain rfl := Option.some.inj (ht.symm.trans ht')
      have hclose : Lacks 'b' "))".toList := .of_plain (by rfl)
      have hlacks := (lacks_config hstart).append (hfront.append hclose)
      rw [htext, hsettings]
      simpa using hlacks.not_mem
  · intro hbinary
    rcases default_cases p with ⟨hnone, -⟩ | ⟨-, start, hstart, t, ht, htext⟩
    · have hsome := metadata?_of_isBinary hbinary
      rw [hnone] at hsome
      cases hsome
    · refine ⟨t, ht, ?_⟩
      obtain ⟨mark, back, hcodec, hplain, hlast, hname, hback⟩ := blobCodec_eq hmem
      have hopens := Opens.append ((lacks_config hstart).append hfront).complete hplain hlast
        (by decide)
      have htext : t.toList = ("field".toList ++ '(' :: (start ++ ("config".toList ++ ['(']))
          ++ front ++ mark) ++ (codec.toList ++ (back ++ "))".toList)) := by
        rw [htext, hsettings, if_pos hbinary, hcodec]
        simp
      refine hopens.names hname htext fun c hc => ?_
      rw [Option.mem_def.mp hc] at hback
      exact hback

end Names

end SmithyGen.Emit.Types.FieldPlan
