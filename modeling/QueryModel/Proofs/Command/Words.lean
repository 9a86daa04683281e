import Mathlib.Logic.ExistsUnique
import QueryModel.Command.Arguments

/-!
# The grammar of command-line words

A command is a sequence of groups: a flag with the word after it, whatever that word is, or the flag
for flattening alone. Every list of words is read as groups in one way, up to its end or to the
first word in group position that no group starts with. Reading gives options exactly for whole
sequences with a schema, and options written as groups in any order that keeps headers and documents
in theirs are read back.
-/

set_option autoImplicit false

namespace QueryModel.CommandOptions

inductive Group where
  | valued (flag : ValueFlag) (value : String)
  | flatten
  deriving DecidableEq

namespace Group

def words : Group → List String
  | .valued flag value => [flag.word, value]
  | .flatten => ["--flatten"]

def value? (flag : ValueFlag) : Group → Option String
  | .valued other value => if other = flag then some value else none
  | .flatten => none

end Group

def written (groups : List Group) : List String := groups.flatMap Group.words

def valuesOf (flag : ValueFlag) (groups : List Group) : List String :=
  groups.filterMap (Group.value? flag)

@[simp] theorem valuesOf_nil (flag : ValueFlag) : valuesOf flag [] = [] := rfl

@[simp] theorem valuesOf_flatten (flag : ValueFlag) (gs : List Group) :
    valuesOf flag (.flatten :: gs) = valuesOf flag gs := rfl

@[simp] theorem valuesOf_valued (flag other : ValueFlag) (value : String) (gs : List Group) :
    valuesOf flag (.valued other value :: gs) =
      if other = flag then value :: valuesOf flag gs else valuesOf flag gs := by
  rw [valuesOf, List.filterMap_cons, Group.value?]
  split <;> simp_all [valuesOf]

theorem mem_valuesOf {flag : ValueFlag} {value : String} {gs : List Group} :
    value ∈ valuesOf flag gs ↔ Group.valued flag value ∈ gs := by
  induction gs with
  | nil => simp
  | cons g gs ih =>
    cases g with
    | flatten => simp [ih]
    | valued other value' =>
      rw [valuesOf_valued]
      split <;> simp_all [eq_comm]

theorem valuesOf_ne_nil {flag : ValueFlag} {gs : List Group} :
    valuesOf flag gs ≠ [] ↔ ∃ value, Group.valued flag value ∈ gs := by
  constructor
  · intro h
    obtain ⟨value, hvalue⟩ := List.exists_mem_of_ne_nil _ h
    exact ⟨value, mem_valuesOf.mp hvalue⟩
  · rintro ⟨value, hvalue⟩
    exact List.ne_nil_of_mem (mem_valuesOf.mpr hvalue)

/-- What the groups ask for: the last schema and file to write, all headers and documents. -/
structure Describes (groups : List Group) (o : CommandOptions) : Prop where
  schema : (valuesOf .schema groups).getLast? = some o.schema
  headers : valuesOf .header groups = o.headers
  documents : valuesOf .document groups = o.documents
  flatten : o.flatten = true ↔ Group.flatten ∈ groups
  out : (valuesOf .out groups).getLast? = o.out

def helpWords : List String := ["--help", "-h"]

def knownWords : List String :=
  ["--schema", "--header", "--document", "--out", "--flatten"] ++ helpWords

/-- The words start with no group, and this is what the user is told, or nothing but the help. -/
inductive Refused : List String → Option String → Prop where
  | help {word : String} (rest : List String) (h : word ∈ helpWords) : Refused (word :: rest) none
  | unknown {word : String} (rest : List String) (h : word ∉ knownWords) :
    Refused (word :: rest) (some ("unknown argument: " ++ word))
  | valueless (flag : ValueFlag) : Refused [flag.word] (some (flag.word ++ " requires a value"))

def Stops (rest : List String) : Prop := rest = [] ∨ ∃ told, Refused rest told

section Words

theorem word_cases (word : String) : (∃ flag : ValueFlag, word = flag.word) ∨ word = "--flatten" ∨
    word ∈ helpWords ∨ word ∉ knownWords := by
  by_cases hknown : word ∈ knownWords
  · rcases List.mem_append.mp hknown with hflag | hhelp
    · simp only [List.mem_cons, List.not_mem_nil, or_false] at hflag
      rcases hflag with rfl | rfl | rfl | rfl | rfl
      · exact .inl ⟨.schema, rfl⟩
      · exact .inl ⟨.header, rfl⟩
      · exact .inl ⟨.document, rfl⟩
      · exact .inl ⟨.out, rfl⟩
      · exact .inr (.inl rfl)
    · exact .inr (.inr (.inl hhelp))
  · exact .inr (.inr (.inr hknown))

theorem ofWord?_of_help {word : String} (h : word ∈ helpWords) :
    Flag.ofWord? word = some .help := by
  simp only [helpWords, List.mem_cons, List.not_mem_nil, or_false] at h
  rcases h with rfl | rfl <;> rfl

theorem ofWord?_of_unknown {word : String} (h : word ∉ knownWords) : Flag.ofWord? word = none := by
  simp only [knownWords, helpWords, List.cons_append, List.nil_append, List.mem_cons,
    List.not_mem_nil, or_false, not_or] at h
  simp [Flag.ofWord?, h]

theorem ofWord?_word (flag : ValueFlag) : Flag.ofWord? flag.word = some (.valued flag) := by
  cases flag <;> rfl

theorem Group.exists_words (g : Group) : ∃ word rest, g.words = word :: rest ∧
    word ∈ knownWords ∧ word ∉ helpWords ∧ ∀ flag : ValueFlag, g.words ≠ [flag.word] := by
  cases g with
  | valued flag value =>
    refine ⟨flag.word, [value], rfl, ?_, ?_, fun other h => ?_⟩
    · cases flag <;> decide
    · cases flag <;> decide
    · simp [words] at h
  | flatten =>
    refine ⟨"--flatten", [], rfl, by decide, by decide, fun flag => ?_⟩
    cases flag <;> decide

theorem Refused.ne_append {told : Option String} {rest : List String} (h : Refused rest told)
    (g : Group) (more : List String) : rest ≠ g.words ++ more := by
  obtain ⟨word, tail, hg, hknown, hhelp, hsingle⟩ := g.exists_words
  intro heq
  rw [hg, List.cons_append] at heq
  cases h with
  | help _ h =>
    obtain ⟨rfl, -⟩ := List.cons.inj heq
    exact hhelp h
  | unknown _ h =>
    obtain ⟨rfl, -⟩ := List.cons.inj heq
    exact h hknown
  | valueless flag =>
    obtain ⟨rfl, hnil⟩ := List.cons.inj heq
    obtain ⟨rfl, -⟩ := List.append_eq_nil_iff.mp hnil.symm
    exact hsingle flag hg

theorem Stops.ne_append {rest : List String} (h : Stops rest) (g : Group) (more : List String) :
    rest ≠ g.words ++ more := by
  rcases h with rfl | ⟨told, h⟩
  · obtain ⟨word, tail, hg, -⟩ := g.exists_words
    simp [hg]
  · exact h.ne_append g more

theorem words_append_inj {g g' : Group} {rest rest' : List String}
    (h : g.words ++ rest = g'.words ++ rest') : g = g' ∧ rest = rest' := by
  have hword (flag : ValueFlag) : flag.word ≠ "--flatten" := by cases flag <;> decide
  cases g with
  | flatten =>
    cases g' with
    | flatten => exact ⟨rfl, (List.cons.inj h).2⟩
    | valued flag value => exact absurd (List.cons.inj h).1.symm (hword flag)
  | valued flag value =>
    cases g' with
    | flatten => exact absurd (List.cons.inj h).1 (hword flag)
    | valued other value' =>
      obtain ⟨hflag, htail⟩ := List.cons.inj h
      obtain ⟨rfl, hrest⟩ := List.cons.inj htail
      have hsame := ofWord?_word flag
      rw [hflag, ofWord?_word other] at hsame
      obtain rfl := Flag.valued.inj (Option.some.inj hsame)
      exact ⟨rfl, hrest⟩

theorem written_append_inj {gs gs' : List Group} {rest rest' : List String} (hrest : Stops rest)
    (hrest' : Stops rest') (h : written gs ++ rest = written gs' ++ rest') :
    gs = gs' ∧ rest = rest' := by
  induction gs generalizing gs' with
  | nil =>
    cases gs' with
    | nil => exact ⟨rfl, h⟩
    | cons g' gs' =>
      rw [written, written, List.flatMap_cons, List.append_assoc] at h
      exact absurd h (hrest.ne_append g' _)
  | cons g gs ih =>
    rw [written, List.flatMap_cons, List.append_assoc] at h
    cases gs' with
    | nil => exact absurd h.symm (hrest'.ne_append g _)
    | cons g' gs' =>
      rw [written, List.flatMap_cons, List.append_assoc] at h
      obtain ⟨rfl, htail⟩ := words_append_inj h
      obtain ⟨rfl, hsame⟩ := ih htail
      exact ⟨rfl, hsame⟩

end Words

section Reading

def Draft.add (d : Draft) : Group → Draft
  | .valued flag value => d.set flag value
  | .flatten => { d with flatten := true }

theorem Draft.read_group (d : Draft) (g : Group) (rest : List String) :
    d.read (g.words ++ rest) = (d.add g).read rest := by
  cases g with
  | valued flag value =>
    rw [Group.words, List.cons_append, Draft.read, ofWord?_word]
    rfl
  | flatten => rfl

theorem Draft.read_written (d : Draft) (gs : List Group) (rest : List String) :
    d.read (written gs ++ rest) = (gs.foldl Draft.add d).read rest := by
  induction gs generalizing d with
  | nil => rfl
  | cons g gs ih =>
    rw [written, List.flatMap_cons, List.append_assoc, read_group]
    exact ih (d.add g)

theorem Draft.read_refused {rest : List String} {told : Option String} (h : Refused rest told) :
    ∃ fault, fault.message? = told ∧ ∀ d : Draft, d.read rest = .error fault := by
  cases h with
  | help _ h => exact ⟨.help, rfl, fun d => by rw [Draft.read, ofWord?_of_help h]⟩
  | unknown _ h => exact ⟨.unknown _, rfl, fun d => by rw [Draft.read, ofWord?_of_unknown h]⟩
  | valueless flag => exact ⟨.valueless flag, rfl, fun d => by rw [Draft.read, ofWord?_word]⟩

/-- Every list of words is read as groups up to a point at which reading stops. -/
theorem exists_groups (words : List String) :
    ∃ gs rest, words = written gs ++ rest ∧ Stops rest := by
  cases words with
  | nil => exact ⟨[], [], rfl, .inl rfl⟩
  | cons word tail =>
    rcases word_cases word with ⟨flag, rfl⟩ | rfl | hhelp | hunknown
    · cases tail with
      | nil => exact ⟨[], _, rfl, .inr ⟨_, .valueless flag⟩⟩
      | cons value tail =>
        obtain ⟨gs, rest, htail, hrest⟩ := exists_groups tail
        exact ⟨.valued flag value :: gs, rest, by rw [htail]; rfl, hrest⟩
    · obtain ⟨gs, rest, htail, hrest⟩ := exists_groups tail
      exact ⟨.flatten :: gs, rest, by rw [htail]; rfl, hrest⟩
    · exact ⟨[], _, rfl, .inr ⟨_, .help tail hhelp⟩⟩
    · exact ⟨[], _, rfl, .inr ⟨_, .unknown tail hunknown⟩⟩
termination_by words.length

theorem getLast?_cons_or {α : Type} (a : α) (as : List α) (before : Option α) :
    (a :: as).getLast?.or before = as.getLast?.or (some a) := by
  rw [List.getLast?_cons]
  cases as.getLast? <;> rfl

theorem Draft.foldl_add (gs : List Group) (d : Draft) : gs.foldl Draft.add d =
    ⟨(valuesOf .schema gs).getLast?.or d.schema, d.headers ++ valuesOf .header gs,
      d.documents ++ valuesOf .document gs, d.flatten || gs.contains .flatten,
      (valuesOf .out gs).getLast?.or d.out⟩ := by
  induction gs generalizing d with
  | nil => simp
  | cons g gs ih =>
    rw [List.foldl_cons, ih]
    cases g with
    | flatten => simp [Draft.add]
    | valued flag value => cases flag <;> simp [Draft.add, Draft.set, getLast?_cons_or]

theorem Draft.read_start (gs : List Group) : Draft.start.read (written gs) =
    .ok ⟨(valuesOf .schema gs).getLast?, valuesOf .header gs, valuesOf .document gs,
      gs.contains .flatten, (valuesOf .out gs).getLast?⟩ := by
  have hread := Draft.read_written .start gs []
  rw [List.append_nil, Draft.foldl_add, Draft.read] at hread
  simpa [Draft.start] using hread

theorem ofWords_written_eq_ok {gs : List Group} {o : CommandOptions} :
    ofWords (written gs) = .ok o ↔ Describes gs o := by
  rw [ofWords, Draft.read_start]
  cases hschema : (valuesOf .schema gs).getLast? with
  | none =>
    constructor
    · intro h
      cases h
    · intro h
      rw [h.schema] at hschema
      cases hschema
  | some schema =>
    constructor
    · intro h
      obtain rfl := Except.ok.inj h
      exact ⟨hschema, rfl, rfl, by simp, rfl⟩
    · intro h
      obtain ⟨schema', headers, documents, flatten, out⟩ := o
      obtain ⟨hlast, rfl, rfl, hflatten, rfl⟩ := h
      obtain rfl : schema = schema' := Option.some.inj (hschema.symm.trans hlast)
      have hcontains : gs.contains .flatten = flatten := by
        rw [Bool.eq_iff_iff, List.contains_iff_mem]
        exact hflatten.symm
      rw [hcontains]
      rfl

theorem ofWords_of_no_schema {gs : List Group} (h : valuesOf .schema gs = []) :
    ofWords (written gs) = .error .noSchema := by
  rw [ofWords, Draft.read_start, h]
  rfl

theorem exists_describes_iff {gs : List Group} :
    (∃ o, Describes gs o) ↔ valuesOf .schema gs ≠ [] := by
  constructor
  · rintro ⟨o, h⟩ hnil
    have hschema := h.schema
    rw [hnil] at hschema
    cases hschema
  · intro h
    obtain ⟨schema, hschema⟩ := Option.isSome_iff_exists.mp (List.getLast?_isSome.mpr h)
    exact ⟨⟨schema, _, _, gs.contains .flatten, _⟩, ⟨hschema, rfl, rfl, by simp, rfl⟩⟩

theorem ofWords_refused {rest : List String} {told : Option String} (h : Refused rest told)
    (gs : List Group) :
    (ofWords (written gs ++ rest)).mapError UsageFault.message? = .error told := by
  obtain ⟨fault, hfault, hread⟩ := Draft.read_refused h
  rw [ofWords, Draft.read_written, hread]
  exact congrArg Except.error hfault

theorem ofWords_eq_ok_iff {words : List String} {o : CommandOptions} :
    ofWords words = .ok o ↔ ∃ gs, words = written gs ∧ Describes gs o := by
  constructor
  · intro h
    obtain ⟨gs, rest, rfl, rfl | ⟨told, hrefused⟩⟩ := exists_groups words
    · rw [List.append_nil] at h ⊢
      exact ⟨gs, rfl, ofWords_written_eq_ok.mp h⟩
    · have herror := ofWords_refused hrefused gs
      rw [h] at herror
      cases herror
  · rintro ⟨gs, rfl, h⟩
    exact ofWords_written_eq_ok.mpr h

theorem ofWords_told_iff {words : List String} {told : Option String} :
    (ofWords words).mapError UsageFault.message? = .error told ↔
      ∃ gs rest, words = written gs ++ rest ∧ (Refused rest told ∨
        rest = [] ∧ valuesOf .schema gs = [] ∧ told = some "--schema is required") := by
  constructor
  · intro h
    obtain ⟨gs, rest, rfl, rfl | ⟨told', hrefused⟩⟩ := exists_groups words
    · refine ⟨gs, [], rfl, .inr ⟨rfl, ?_⟩⟩
      rw [List.append_nil] at h
      by_cases hnone : valuesOf .schema gs = []
      · rw [ofWords_of_no_schema hnone] at h
        exact ⟨hnone, (Except.error.inj h).symm⟩
      · obtain ⟨o, hdescribes⟩ := exists_describes_iff.mpr hnone
        rw [ofWords_written_eq_ok.mpr hdescribes] at h
        cases h
    · refine ⟨gs, rest, rfl, .inl ?_⟩
      have herror := ofWords_refused hrefused gs
      rw [h] at herror
      rw [Except.error.inj herror]
      exact hrefused
  · rintro ⟨gs, rest, rfl, hrefused | ⟨rfl, hnone, rfl⟩⟩
    · exact ofWords_refused hrefused gs
    · rw [List.append_nil, ofWords_of_no_schema hnone]
      rfl

end Reading

section Writing

/-- The options as groups, in one of the orders in which they may be written. -/
def groups (o : CommandOptions) : List Group :=
  .valued .schema o.schema :: (o.headers.map (.valued .header) ++
    o.documents.map (.valued .document) ++ (if o.flatten then [.flatten] else []) ++
    o.out.toList.map (.valued .out))

theorem valuesOf_append (flag : ValueFlag) (gs gs' : List Group) :
    valuesOf flag (gs ++ gs') = valuesOf flag gs ++ valuesOf flag gs' := List.filterMap_append

theorem valuesOf_map_valued (flag other : ValueFlag) (values : List String) :
    valuesOf flag (values.map (.valued other)) = if other = flag then values else [] := by
  induction values with
  | nil => simp
  | cons value values ih =>
    rw [List.map_cons, valuesOf_valued, ih]
    split <;> rfl

theorem valuesOf_groups_schema (o : CommandOptions) : valuesOf .schema o.groups = [o.schema] := by
  cases h : o.flatten <;> simp [groups, valuesOf_append, valuesOf_map_valued, h]

theorem valuesOf_groups_out (o : CommandOptions) : valuesOf .out o.groups = o.out.toList := by
  cases h : o.flatten <;> simp [groups, valuesOf_append, valuesOf_map_valued, h]

theorem flatten_mem_groups (o : CommandOptions) : Group.flatten ∈ o.groups ↔ o.flatten = true := by
  cases h : o.flatten <;> simp [groups, h]

theorem describes_of_perm {o : CommandOptions} {gs : List Group} (hperm : gs.Perm o.groups)
    (hheaders : valuesOf .header gs = o.headers)
    (hdocuments : valuesOf .document gs = o.documents) : Describes gs o where
  schema := by
    have hschema : (valuesOf .schema gs).Perm [o.schema] :=
      valuesOf_groups_schema o ▸ hperm.filterMap _
    rw [List.perm_singleton.mp hschema]
    rfl
  headers := hheaders
  documents := hdocuments
  flatten := (flatten_mem_groups o).symm.trans hperm.mem_iff.symm
  out := by
    have hout : (valuesOf .out gs).Perm o.out.toList :=
      valuesOf_groups_out o ▸ hperm.filterMap _
    cases ho : o.out with
    | none =>
      rw [ho] at hout
      rw [List.perm_nil.mp hout]
      rfl
    | some path =>
      rw [ho] at hout
      rw [List.perm_singleton.mp hout]
      rfl

end Writing

/-- The words are read as groups in one way, up to the end or to the first word in group position
that starts none. They give options exactly if they are read to the end and give a schema: the
options that the groups ask for. Else what the user is told is told by the word at which reading
stops, and only if there is none that a schema is required. Options that are written as groups in
any order, with headers and documents in theirs, are read back. -/
theorem ofWords_grouped (words : List String) :
    (∃! reading : List Group × List String,
      words = written reading.1 ++ reading.2 ∧ Stops reading.2) ∧
    ((∃ o, ofWords words = .ok o) ↔
      ∃ gs, words = written gs ∧ ∃ schema, Group.valued .schema schema ∈ gs) ∧
    (∀ o, ofWords words = .ok o ↔ ∃ gs, words = written gs ∧ Describes gs o) ∧
    (∀ told, (ofWords words).mapError UsageFault.message? = .error told ↔
      ∃ gs rest, words = written gs ++ rest ∧ (Refused rest told ∨
        rest = [] ∧ valuesOf .schema gs = [] ∧ told = some "--schema is required")) ∧
    ∀ o gs, gs.Perm o.groups → valuesOf .header gs = o.headers →
      valuesOf .document gs = o.documents → ofWords (written gs) = .ok o := by
  refine ⟨?_, ?_, fun o => ofWords_eq_ok_iff, fun told => ofWords_told_iff, ?_⟩
  · obtain ⟨gs, rest, hwords, hstops⟩ := exists_groups words
    refine ⟨(gs, rest), ⟨hwords, hstops⟩, ?_⟩
    rintro ⟨gs', rest'⟩ ⟨hwords', hstops'⟩
    obtain ⟨rfl, rfl⟩ := written_append_inj hstops' hstops (hwords'.symm.trans hwords)
    rfl
  · simp only [ofWords_eq_ok_iff, ← valuesOf_ne_nil, ← exists_describes_iff]
    constructor
    · rintro ⟨o, gs, hgs, h⟩
      exact ⟨gs, hgs, o, h⟩
    · rintro ⟨gs, hgs, o, h⟩
      exact ⟨o, gs, hgs, h⟩
  · intro o gs hperm hheaders hdocuments
    exact ofWords_written_eq_ok.mpr (describes_of_perm hperm hheaders hdocuments)

/-- Values that are flags themselves, headers and documents mixed, and the file to write before the
schema. -/
theorem ofWords_grouped_flags :
    let o : CommandOptions := ⟨"--help", ["--header", "-h"], ["--schema", "a"], true, some "--out"⟩
    let gs : List Group := [.valued .header "--header", .valued .document "--schema",
      .valued .out "--out", .flatten, .valued .header "-h", .valued .schema "--help",
      .valued .document "a"]
    gs.Perm o.groups ∧ valuesOf .header gs = o.headers ∧ valuesOf .document gs = o.documents ∧
      ofWords ["--header", "--header", "--document", "--schema", "--out", "--out", "--flatten",
        "--header", "-h", "--schema", "--help", "--document", "a"] = .ok o := by
  intro o gs
  have hperm : gs.Perm o.groups := by decide
  have hheaders : valuesOf .header gs = o.headers := by decide
  have hdocuments : valuesOf .document gs = o.documents := by decide
  obtain ⟨-, -, -, -, hread⟩ := ofWords_grouped (written gs)
  exact ⟨hperm, hheaders, hdocuments, hread o gs hperm hheaders hdocuments⟩

end QueryModel.CommandOptions
