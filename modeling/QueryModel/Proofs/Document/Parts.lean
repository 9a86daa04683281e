import QueryModel.Proofs.Document.Shown
import QueryModel.Proofs.Syntax.ExecutableShapes
import QueryModel.Proofs.Syntax.TypeSystemShapes

/-!
# Texts of one definition

A text that one of the grammars reads as a single definition, with space before and after it. The
definition keeps its tokens, and so its reading, in any other space. What is asked of a text beside
its reading can be told from its lexemes.
-/

set_option autoImplicit false

namespace QueryModel

open Text Syntax SplitState

inductive AnyDefinition where
  | executable (d : Definition)
  | typeSystem (d : TypeSystemDefinition)

namespace AnyDefinition

def ReadFrom (text : String) : AnyDefinition → Prop
  | .executable d => readExecutable text = .ok [d]
  | .typeSystem d => readTypeSystem text = .ok [d]

def executable? : AnyDefinition → Option Definition
  | .executable d => some d
  | .typeSystem _ => none

def typeSystem? : AnyDefinition → Option TypeSystemDefinition
  | .executable _ => none
  | .typeSystem d => some d

def isShorthand : AnyDefinition → Bool
  | .executable (.shorthand _) => true
  | _ => false

def takesBody : AnyDefinition → Bool
  | .executable _ => false
  | .typeSystem d => Reader.takesBody d

/-- The text is that of the definition alone, comments end their lines in it, and no keyword
stands after the name of a type system definition. -/
structure WrittenAs (d : AnyDefinition) (text : String) : Prop where
  read : d.ReadFrom text
  tidy : Tidy text.toList
  clear : d.typeSystem?.isSome → ∀ w ∈ afterName (outerWords text.toList), w ∉ definitionKeywords

def HasShape (form : DefinitionForm) : AnyDefinition → Prop
  | .executable d => form = Reader.formOf d
  | .typeSystem d => ∃ kind body, form = .typeSystem kind body ∧
      (kind ∈ bodyKinds → body = false → Reader.takesBody d = true)

/-- The tokens are read as the definition: before any others if it is executable, and else
where they are all there are. -/
def Retakes (u : List Token) : AnyDefinition → Prop
  | .executable d => Reader.Repeats Reader.executableDefinition u d fun _ => True
  | .typeSystem d => ∀ ts : Tokens, ts.tokens = u → ts.fault = none →
      ∃ us, Reader.document Reader.typeSystemDefinition ts = .ok ([d], us)

theorem read_ok {α : Type} {r : Reader α} {text : String} {a : α} :
    r.read text = .ok a ↔ ∃ us, r (Tokens.ofText text) = .ok (a, us) := by
  rw [Reader.read]
  rcases r (Tokens.ofText text) with f | ⟨b, us⟩ <;> simp [Except.map]

/-- A text of one definition has no fault, and its tokens have a form and are read as the
definition elsewhere. -/
theorem ReadFrom.tokens {d : AnyDefinition} {text : String} (h : d.ReadFrom text) :
    (Tokens.ofText text).fault = none ∧ d.Retakes (Tokens.ofText text).tokens ∧
      ∃ form, d.HasShape form ∧ DefinitionTokens form (Tokens.ofText text).tokens := by
  cases d with
  | executable d =>
    obtain ⟨us, hus⟩ := read_ok.mp h
    obtain ⟨hfault, units, htokens, hunits⟩ :=
      Reader.document_units Reader.executableDefinition_takes hus
    obtain ⟨u, hu, hrepeats⟩ : ∃ u, units = [u] ∧ (DefinitionTokens (Reader.formOf d) u ∧
        Reader.Repeats Reader.executableDefinition u d fun _ => True) := by
      cases hunits with
      | cons hunit hnil =>
        cases hnil
        exact ⟨_, rfl, hunit⟩
    obtain rfl : (Tokens.ofText text).tokens = u := by simpa [hu] using htokens
    exact ⟨hfault, hrepeats.2, _, rfl, hrepeats.1⟩
  | typeSystem d =>
    obtain ⟨us, hus⟩ := read_ok.mp h
    obtain ⟨hfault, ⟨kind, body, hshape, hbody⟩, hretakes⟩ :=
      Reader.document_one Reader.typeSystemDefinition_takes hus
    exact ⟨hfault, hretakes, _, ⟨kind, body, rfl, hbody⟩, hshape⟩

theorem Retakes.readFrom {d : AnyDefinition} {text : String}
    (h : d.Retakes (Tokens.ofText text).tokens) (hfault : (Tokens.ofText text).fault = none) :
    d.ReadFrom text := by
  cases d with
  | executable d =>
    obtain ⟨us, hus, htokens, hus'⟩ := h (Tokens.ofText text) [] (List.append_nil _).symm trivial
    exact read_ok.mpr ⟨us, Reader.document_single hus htokens (hus'.trans hfault)⟩
  | typeSystem d => exact read_ok.mpr (h _ rfl hfault)

theorem not_executable {text : String} {ds : List Definition} {units : List (List Token)}
    (hunits : Reader.Units (fun _ _ => True) Reader.executableDefinition ds units) {t : Token}
    {rest : List Token} (ht : t ∉ DefinitionTokens.executableStarts)
    (htokens : (Tokens.ofText text).tokens = units.flatten ++ t :: rest) :
    ∃ f, readExecutable text = .error f := by
  cases hread : readExecutable text with
  | error f => exact ⟨f, rfl⟩
  | ok written =>
    obtain ⟨us, hus⟩ := read_ok.mp hread
    exact absurd hus (Reader.document_error hunits
      (fun vs hvs r => executableDefinition_error ht hvs r) htokens written)

theorem not_executable_of_typeSystem {text : String} {d : TypeSystemDefinition}
    (h : readTypeSystem text = .ok [d]) : ∃ f, readExecutable text = .error f := by
  have hread : ReadFrom text (.typeSystem d) := h
  obtain ⟨-, -, form, ⟨kind, body, rfl, -⟩, hshape⟩ := hread.tokens
  obtain ⟨t, rest, htokens, ht⟩ := hshape.head_typeSystem
  exact not_executable .nil ht htokens

end AnyDefinition

structure Part where
  definition : AnyDefinition
  form : DefinitionForm
  tokens : List Token
  words : List String
  lead : List Char
  core : List Char
  trail : List Char
  spacing : Spacing lead
  trailing : Trailing trail
  unspaced : Unspaced core
  written : Written form words core
  clear : ClearWords form words
  hasShape : definition.HasShape form
  shape : DefinitionTokens form tokens
  lexed : ∀ {sp : List Char}, Spacing sp → Lexed (sp ++ core) tokens
  fits : Fits nestingLimit tokens
  retakes : definition.Retakes tokens

namespace Part

def text (p : Part) : List Char := p.lead ++ (p.core ++ p.trail)

theorem exists_of_writtenAs {d : AnyDefinition} {text : String} (h : d.WrittenAs text) :
    ∃ p : Part, p.definition = d ∧ p.text = text.toList := by
  obtain ⟨hfault, hretakes, form, hform, hshape⟩ := h.read.tokens
  obtain ⟨front, trail, htext, hfront, htrail, hfits⟩ := scan_sound h.tidy hfault
  obtain ⟨lead, core, rfl, hlead, hcore, hlexed⟩ := lexed_lead hfront hshape.ne_nil
  have hplain : Lexed core (Tokens.ofText text).tokens := hlexed .nil
  obtain ⟨words, hwritten⟩ := lexed_written hshape hplain hcore
  rw [List.append_assoc] at htext
  have hclear : ClearWords form words := by
    have hwords := outerWords_text hlead hwritten htrail
    cases d with
    | executable d =>
      obtain rfl : form = Reader.formOf d := hform
      cases d <;> trivial
    | typeSystem d =>
      obtain ⟨kind, body, rfl, -⟩ := hform
      have hall := h.clear rfl
      rwa [htext, hwords] at hall
  exact ⟨⟨d, form, _, words, lead, core, trail, hlead, htrail, hcore, hwritten, hclear, hform,
    hshape, hlexed, hfits, hretakes⟩, rfl, htext.symm⟩

end Part

end QueryModel
