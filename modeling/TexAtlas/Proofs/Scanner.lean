/-
What the scanner finds: the matches of the grammar in the sources that can be read, apart from
the names that the kernel or a reached component defines.
-/

import TexAtlas.Proofs.References
import TexAtlas.Scanner

namespace TexAtlas.Scanner

variable {scanner : Scanner} {members : List Dependency} {kernel : Kernel}
  {reached others : List Component} {symbol : String}

theorem isTaken_eq_false_iff : isTaken kernel reached symbol = false ↔
    ¬kernel.Defines symbol ∧ ∀ component ∈ reached, ¬component.Defines symbol := by
  rw [isTaken, Bool.or_eq_false_iff, List.any_eq_false, Kernel.contains_eq_false_iff]
  simp only [Bool.not_eq_true, Component.defines_eq_false_iff]

theorem isTaken_congr (kernel : Kernel)
    (same : ∀ component, component ∈ reached ↔ component ∈ others) :
    isTaken kernel reached = isTaken kernel others := by
  funext name
  have any : reached.any (fun component => component.defines name) =
      others.any (fun component => component.defines name) := by
    rw [Bool.eq_iff_iff, List.any_eq_true, List.any_eq_true]
    simp only [same]
  rw [isTaken, isTaken, any]

/-- The candidates depend on nothing but the set of the components that are reached. -/
theorem candidates_congr (scanner : Scanner) (members : List Dependency) (kernel : Kernel)
    (same : ∀ component, component ∈ reached ↔ component ∈ others) :
    scanner.candidates members kernel reached = scanner.candidates members kernel others := by
  rw [candidates, candidates, isTaken_congr kernel same]

theorem mem_tokensOf {file : File} : symbol ∈ (scanner.tokensOf file).toList ↔
    ∃ text, file.readSource scanner.read = .ok text ∧
      symbol ∈ (scanner.tokenize text).toList := by
  unfold tokensOf
  cases read : file.readSource scanner.read with
  | error fault =>
      constructor
      · intro impossible
        cases impossible
      · rintro ⟨text, impossible, _⟩
        cases impossible
  | ok text =>
      constructor
      · exact fun member => ⟨text, rfl, member⟩
      · rintro ⟨other, same, member⟩
        cases same
        exact member

theorem mem_candidates : symbol ∈ (scanner.candidates members kernel reached).toList ↔
    (∃ file ∈ sources members, symbol ∈ (scanner.tokensOf file).toList) ∧
      ¬kernel.Defines symbol ∧ ∀ component ∈ reached, ¬component.Defines symbol := by
  rw [candidates, SortedNames.mem_filter, SortedNames.mem_foldl_union, Bool.not_eq_true',
    isTaken_eq_false_iff]
  refine and_congr_left' ?_
  constructor
  · rintro (impossible | ⟨tokens, isTokens, member⟩)
    · cases impossible
    · obtain ⟨file, isSource, rfl⟩ := List.mem_map.mp isTokens
      exact ⟨file, isSource, member⟩
  · rintro ⟨file, isSource, member⟩
    exact Or.inr ⟨_, List.mem_map_of_mem isSource, member⟩

end TexAtlas.Scanner
