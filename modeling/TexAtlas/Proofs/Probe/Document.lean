/-
What a listing document says about its file. Names that files come by, from paths or from the
table of a transcript, end with the name of a file. So role and stem of a class or style make up
its name, the document that loads the stem belongs to just that name, and what a session remembers
under names could as well be remembered under documents.
-/

import TexAtlas.Proofs.Probe.Classifier
import TexAtlas.Proofs.Probe.FileNames
import TexAtlas.Proofs.Stem
import TexAtlas.Session.Closure

namespace TexAtlas.Probe

variable {file other : File}

/-! ### Names that files come by -/

/-- A name that a path gives a file, or that the table of a transcript lists. -/
inductive IsFound : String → Prop where
  | ofPath (path : Path) : IsFound (File.ofPath path).name
  | ofTable {transcript name : String} {names : List String} :
      fileTable transcript = some names → name ∈ names → IsFound name

theorem exists_word_of_mem_fileTable {transcript name : String} {names : List String}
    (table : fileTable transcript = some names) (listed : name ∈ names) :
    ∃ word, nameInWord word = some name := by
  obtain ⟨text, _, rfl⟩ := Option.map_eq_some_iff.mp table
  rw [NameSet.mem_ofList, namesInLines] at listed
  obtain ⟨line, _, inLine⟩ := List.mem_flatMap.mp listed
  obtain ⟨word, _, isName⟩ := List.mem_filterMap.mp inLine
  exact ⟨word, isName⟩

/-- The extension that ends a listed name belongs to the last name in it. -/
theorem endsInName_of_isFileName {run name : List Char} (isFileName : IsFileName run name) :
    EndsInName name := by
  obtain ⟨_, stem, extension, known, _, rfl⟩ := isFileName
  have length : extension.toList.length = 4 :=
    length_of_mem_tableExtensions (List.mem_map_of_mem known)
  have noSlashInAny : ∀ each ∈ [".sty", ".tex", ".def", ".cls"], '/' ∉ each.toList := by decide
  have isName : ∀ last : List Char, '/' ∉ last → Path.IsName (last ++ extension.toList) := by
    intro last noSlash
    have long : 4 ≤ (last ++ extension.toList).length := by
      rw [List.length_append]
      omega
    refine ⟨?_, ?_, ?_, ?_⟩
    · exact List.ne_nil_of_length_pos (by omega)
    · intro inside
      rcases List.mem_append.mp inside with inLast | inExtension
      · exact noSlash inLast
      · exact noSlashInAny extension known inExtension
    · intro short
      simp [short] at long
    · intro short
      simp [short] at long
  by_cases separated : '/' ∈ stem
  · obtain ⟨before, last, rfl, noSlash⟩ := Text.exists_last_of_mem separated
    refine ⟨before ++ ['/'], last ++ extension.toList, ?_, ?_, isName last noSlash⟩
    · simp
    · intro c isLast
      rw [List.getLast?_concat] at isLast
      exact (Option.some.inj isLast).symm
  · exact endsInName_of_isName (isName stem separated)

theorem IsFound.endsInName {name : String} (found : IsFound name)
    (component : (Role.ofName name).isComponent = true) : EndsInName name.toList := by
  cases found with
  | ofPath path =>
      exact endsInName_of_isName
        (Role.isName_of_isComponent component (File.slash_not_mem_ofPath path))
  | ofTable table listed =>
      obtain ⟨word, isName⟩ := exists_word_of_mem_fileTable table listed
      have contributes := contributes_nameInWord word
      rw [isName] at contributes
      exact endsInName_of_isFileName contributes.1

/-! ### Documents -/

theorem command_injective {name left right : String}
    (same : command name left = command name right) : left = right := by
  apply String.toList_inj.mp
  have sameChars := congrArg String.toList same
  simp only [command, String.toList_append] at sameChars
  exact List.append_cancel_left (List.append_cancel_right sameChars)

theorem headerLines_of_documentClass (isClass : file.role = .documentClass) :
    headerLines file = [command "documentclass" file.stem] := by
  unfold headerLines
  rw [isClass]

theorem headerLines_of_style (isStyle : file.role = .style) :
    headerLines file = [command "documentclass" hostClass, command "usepackage" file.stem] := by
  unfold headerLines
  rw [isStyle]

/-- The lines that load a class or style say what it is and what its stem is. -/
theorem role_stem_of_headerLines (component : file.role.isComponent = true)
    (otherComponent : other.role.isComponent = true)
    (same : headerLines file = headerLines other) :
    file.role = other.role ∧ file.stem = other.stem := by
  rcases Role.isComponent_iff.mp component with role | role
  · rw [headerLines_of_documentClass role] at same
    rcases Role.isComponent_iff.mp otherComponent with otherRole | otherRole
    · rw [headerLines_of_documentClass otherRole] at same
      exact ⟨role.trans otherRole.symm, command_injective (List.cons.inj same).1⟩
    · rw [headerLines_of_style otherRole] at same
      cases (List.cons.inj same).2
  · rw [headerLines_of_style role] at same
    rcases Role.isComponent_iff.mp otherComponent with otherRole | otherRole
    · rw [headerLines_of_documentClass otherRole] at same
      cases (List.cons.inj same).2
    · rw [headerLines_of_style otherRole] at same
      obtain ⟨_, second⟩ := List.cons.inj same
      exact ⟨role.trans otherRole.symm, command_injective (List.cons.inj second).1⟩

/-- A document whose stem has no line feed can be cut into its lines again. -/
theorem headerLines_of_listingDocument (stemOneLine : '\n' ∉ file.stem.toList)
    (otherStemOneLine : '\n' ∉ other.stem.toList)
    (same : listingDocument file = listingDocument other) :
    headerLines file = headerLines other := by
  have closingOneLine : ∀ line ∈ ["\\listfiles", command "begin" "document",
      command "end" "document"], '\n' ∉ line.toList := by
    decide
  have oneLine : ∀ each : File, '\n' ∉ each.stem.toList →
      ∀ line ∈ headerLines each ++ ["\\listfiles", command "begin" "document",
        command "end" "document"], '\n' ∉ line.toList := by
    intro each eachOneLine line inside
    rcases List.mem_append.mp inside with header | closing
    · exact headerLines_oneLine eachOneLine line header
    · exact closingOneLine line closing
  have sameLines := congrArg (fun document => Text.rawLines document.toList) same
  simp only [listingDocument] at sameLines
  rw [rawLines_closed (oneLine file stemOneLine),
    rawLines_closed (oneLine other otherStemOneLine)] at sameLines
  have mapped := List.append_cancel_right sameLines
  exact List.append_cancel_right
    ((List.map_inj_right fun _ _ => String.toList_inj.mp).mp mapped)

theorem listingDocument_congr (same : file.name = other.name) :
    listingDocument file = listingDocument other := by
  unfold listingDocument headerLines File.role File.stem
  rw [same]

/-! ### Classes and styles that were found -/

theorem IsFound.stem_append (found : IsFound file.name)
    (component : file.role.isComponent = true) :
    file.role = .documentClass ∧ file.stem ++ ".cls" = file.name ∨
      file.role = .style ∧ file.stem ++ ".sty" = file.name :=
  File.stem_append_of_isComponent (found.endsInName component) component

theorem IsFound.stem_oneLine (found : IsFound file.name)
    (component : file.role.isComponent = true) (oneLine : '\n' ∉ file.name.toList) :
    '\n' ∉ file.stem.toList := by
  have shorter : ∃ extension, file.stem ++ extension = file.name := by
    rcases found.stem_append component with ⟨_, whole⟩ | ⟨_, whole⟩
    · exact ⟨_, whole⟩
    · exact ⟨_, whole⟩
  obtain ⟨extension, whole⟩ := shorter
  rw [← whole, String.toList_append] at oneLine
  exact fun inside => oneLine (List.mem_append_left _ inside)

/-- Role and stem fix the name. -/
theorem IsFound.name_eq (found : IsFound file.name) (otherFound : IsFound other.name)
    (component : file.role.isComponent = true) (sameRole : file.role = other.role)
    (sameStem : file.stem = other.stem) : file.name = other.name := by
  have otherComponent : other.role.isComponent = true := sameRole ▸ component
  rcases found.stem_append component with ⟨role, whole⟩ | ⟨role, whole⟩
  · rcases otherFound.stem_append otherComponent with ⟨_, otherWhole⟩ | ⟨otherRole, _⟩
    · rw [← whole, ← otherWhole, sameStem]
    · rw [← sameRole, role] at otherRole
      cases otherRole
  · rcases otherFound.stem_append otherComponent with ⟨otherRole, _⟩ | ⟨_, otherWhole⟩
    · rw [← sameRole, role] at otherRole
      cases otherRole
    · rw [← whole, ← otherWhole, sameStem]

theorem IsFound.listingDocument_eq_iff (found : IsFound file.name)
    (otherFound : IsFound other.name) (component : file.role.isComponent = true)
    (otherComponent : other.role.isComponent = true) (oneLine : '\n' ∉ file.name.toList)
    (otherOneLine : '\n' ∉ other.name.toList) :
    listingDocument file = listingDocument other ↔ file.name = other.name := by
  refine ⟨fun same => ?_, listingDocument_congr⟩
  have sameHeader := headerLines_of_listingDocument (found.stem_oneLine component oneLine)
    (otherFound.stem_oneLine otherComponent otherOneLine) same
  obtain ⟨sameRole, sameStem⟩ := role_stem_of_headerLines component otherComponent sameHeader
  exact found.name_eq otherFound component sameRole sameStem

-- With a separator behind it, a name is that of a style too, but its stem loads another one.
example : (File.unindexed "b.sty/").role = .style ∧
    (File.unindexed "b.sty/").stem ++ ".sty" = "b.sty" := by
  decide +kernel

-- A line feed in the stem of a class can begin the line that loads a package.
example : listingDocument (.unindexed "article\x7d\n\\usepackage\x7bb.cls") =
    listingDocument (.unindexed "b.sty") := by
  decide +kernel

/-- The name of a class or style that was found is its stem with the extension of its role, and
two names are the same just if their listing documents are. So what is remembered of one file is
found for another just where the engine could not tell the two apart. -/
theorem document_names_file (found : IsFound file.name)
    (component : file.role.isComponent = true) (oneLine : '\n' ∉ file.name.toList) :
    (file.role = .documentClass ∧ file.stem ++ ".cls" = file.name ∨
      file.role = .style ∧ file.stem ++ ".sty" = file.name) ∧
    ∀ other : File, IsFound other.name → other.role.isComponent = true →
      '\n' ∉ other.name.toList →
      (listingDocument file = listingDocument other ↔ file.name = other.name) ∧
      ∀ (memo : NameMap Dependency) (dependency : Dependency), dependency.file = file →
        (Session.remember memo dependency).get? other.name =
          if listingDocument file = listingDocument other then
            some ((memo.get? other.name).getD dependency)
          else memo.get? other.name := by
  refine ⟨found.stem_append component, ?_⟩
  intro other otherFound otherComponent otherOneLine
  have sameDocument := found.listingDocument_eq_iff otherFound component otherComponent oneLine
    otherOneLine
  refine ⟨sameDocument, ?_⟩
  rintro memo dependency rfl
  rw [Session.get?_remember]
  exact if_congr sameDocument.symm rfl rfl

/-- A style that a transcript lists with a directory, and a class that a path leads to. -/
theorem sample_document_names_file :
    let style := File.unindexed "./b.c.sty"
    let documentClass := File.ofPath (.ofString "/tex/./b.c.cls/")
    style.stem ++ ".sty" = "./b.c.sty" ∧
      listingDocument style ≠ listingDocument documentClass := by
  have table : fileTable "*File List*\n ./b.c.sty 2024\n ***\n" = some ["./b.c.sty"] := by
    decide +kernel
  have isClass : (File.ofPath (.ofString "/tex/./b.c.cls/")).name = "b.c.cls" := by
    decide +kernel
  have found : IsFound (File.unindexed "./b.c.sty").name :=
    .ofTable table (List.mem_singleton.mpr rfl)
  obtain ⟨whole, others⟩ := document_names_file found (by decide +kernel) (by decide +kernel)
  obtain ⟨sameDocument, _⟩ := others (.ofPath (.ofString "/tex/./b.c.cls/")) (.ofPath _)
    (by decide +kernel) (by decide +kernel)
  constructor
  · rcases whole with ⟨role, _⟩ | ⟨_, whole⟩
    · revert role
      decide +kernel
    · exact whole
  · intro same
    have sameName := sameDocument.mp same
    rw [isClass] at sameName
    revert sameName
    decide +kernel

end TexAtlas.Probe
