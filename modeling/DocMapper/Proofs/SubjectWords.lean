import DocMapper.Proofs.CompiledQueries
/-!
Names that differ in their subject's word alone. They are read alike, so they are refused
together or they ask for the same documents, in the same order and with the same limit, and
their subjects are all that tells them apart.
-/

namespace DocMapper

namespace MethodName

theorem parseRest_relabelled (text : String) (subject : Subject) (rest : List Char) :
    parseRest text subject rest = (parseRest "" .find rest).map fun read => { read with text, subject } := by
  rw [parseRest_eq, parseRest_eq]
  split
  · rfl
  split
  · rfl
  cases limitOf (subjectText rest) with
  | error reason => rfl
  | ok limit =>
      cases readGroups (predicate? rest) with
      | none => rfl
      | some groups => rfl

theorem parse_words (rest : String) :
    (∀ entry ∈ Subject.words, ∃ e, parse (entry.1 ++ rest) = .error e) ∨
      ∃ read : MethodName, ∀ entry ∈ Subject.words,
        parse (entry.1 ++ rest) = .ok { read with text := entry.1 ++ rest, subject := entry.2 } := by
  cases said : parseRest "" .find (camelCase (Text.dropBlankEnd rest.toList)) with
  | error reason =>
      refine .inl fun entry listed => ⟨.malformedMethodName (entry.1 ++ rest) reason, ?_⟩
      rw [parse_word listed, parseRest_relabelled, said]
      rfl
  | ok read =>
      refine .inr ⟨read, fun entry listed => ?_⟩
      rw [parse_word listed, parseRest_relabelled, said]
      rfl

end MethodName

namespace Query

theorem compile_relabelled (resolve : Resolver) (read : MethodName) (arguments : List Argument) :
    (∀ text subject, ∃ e, compile resolve { read with text, subject } arguments = .error e) ∨
      ∃ criteria sort, ∀ text subject,
        compile resolve { read with text, subject } arguments = .ok ⟨subject, criteria, sort, read.limit⟩ := by
  simp only [compile]
  cases nodes resolve (jointedParts read.groups) arguments with
  | error e => exact .inl fun text subject => ⟨e, rfl⟩
  | ok made =>
      obtain ⟨ns, left⟩ := made
      cases left with
      | cons argument left => exact .inl fun text subject => ⟨_, rfl⟩
      | nil =>
          cases read.sort.mapM (sortKey resolve) with
          | error e => exact .inl fun text subject => ⟨e, rfl⟩
          | ok sort => exact .inr ⟨⟨ns⟩, sort, fun text subject => rfl⟩

/-- A name compiles after no subject's word, or it asks for the same documents after all of them. -/
theorem compile_words (resolve : Resolver) (rest : String) (arguments : List Argument) :
    (∀ entry ∈ Subject.words, ∃ e, compileMethod resolve (entry.1 ++ rest) arguments = .error e) ∨
      ∃ (read : MethodName) (criteria : Criteria) (sort : List SortKey), ∀ entry ∈ Subject.words,
        MethodName.parse (entry.1 ++ rest) = .ok { read with text := entry.1 ++ rest, subject := entry.2 } ∧
          compileMethod resolve (entry.1 ++ rest) arguments = .ok ⟨entry.2, criteria, sort, read.limit⟩ := by
  have parsed {entry : String × Subject} {name : MethodName} (given : MethodName.parse (entry.1 ++ rest) = .ok name) :
      compileMethod resolve (entry.1 ++ rest) arguments = compile resolve name arguments := by
    rw [compileMethod, given]
    rfl
  rcases MethodName.parse_words rest with refused | ⟨read, same⟩
  · refine .inl fun entry listed => ?_
    obtain ⟨e, refused⟩ := refused entry listed
    exact ⟨e, by rw [compileMethod, refused]; rfl⟩
  · rcases compile_relabelled resolve read arguments with refused | ⟨criteria, sort, compiled⟩
    · refine .inl fun entry listed => ?_
      rw [parsed (same entry listed)]
      exact refused _ _
    · refine .inr ⟨read, criteria, sort, fun entry listed => ⟨same entry listed, ?_⟩⟩
      rw [parsed (same entry listed)]
      exact compiled _ _

end Query

end DocMapper
