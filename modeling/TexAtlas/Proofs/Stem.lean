/-
Stems and extensions. The stem of a name is read off its last dot, the extension off the last dot
of the last name in it. Where the name ends with that last name, both mean the same dot, so the
stem, the dot and the extension make up the name again.
-/

import TexAtlas.File.Basic
import TexAtlas.Proofs.Extension
import TexAtlas.Proofs.Path

namespace TexAtlas

open Text (Glyph)

/-! ### The last dot -/

theorem Text.exists_last_of_mem {α : Type} {item : α} {items : List α} (inside : item ∈ items) :
    ∃ before behind, items = before ++ item :: behind ∧ item ∉ behind := by
  obtain ⟨behind, before, reversed, absent⟩ :=
    List.eq_append_cons_of_mem (List.mem_reverse.mpr inside)
  refine ⟨before.reverse, behind.reverse, ?_, fun inBehind => absent (List.mem_reverse.mp inBehind)⟩
  rw [← List.reverse_reverse items, reversed]
  simp

/-- What is found from the end on, up to an item. -/
theorem Text.reverse_takeWhile_reverse {α : Type} [BEq α] [LawfulBEq α] {item : α}
    {behind : List α} (absent : item ∉ behind) (before : List α) :
    ((before ++ item :: behind).reverse.takeWhile (· != item)).reverse = behind := by
  have reversedKept : ∀ other ∈ behind.reverse, (other != item) = true := fun other inside =>
    bne_iff_ne.mpr (ne_of_mem_of_not_mem (List.mem_reverse.mp inside) absent)
  rw [List.reverse_append, List.reverse_cons, List.append_assoc, List.singleton_append,
    List.takeWhile_append_of_pos reversedKept, List.takeWhile_cons_of_neg (by simp),
    List.append_nil, List.reverse_reverse]

theorem File.stemOf_append {base extension : List Char} (present : base ≠ [])
    (noDot : '.' ∉ extension) : stemOf (base ++ '.' :: extension) = base := by
  have behind := Text.reverse_takeWhile_reverse noDot base
  have length : (base ++ '.' :: extension).length - extension.length = base.length + 1 := by
    rw [List.length_append, List.length_cons]
    omega
  obtain ⟨c, rest, rfl⟩ := List.exists_cons_of_ne_nil present
  unfold stemOf
  simp only [behind, length]
  exact List.take_left' rfl

namespace Path

variable {path : Path}

theorem splitAtLastDot_append {extension : List Glyph} (noDot : dot ∉ extension)
    (base : List Glyph) :
    splitAtLastDot (base ++ dot :: extension) = some (base, extension) := by
  have behind := Text.reverse_takeWhile_reverse noDot base
  have length : (base ++ dot :: extension).length - extension.length = base.length + 1 := by
    rw [List.length_append, List.length_cons]
    omega
  unfold splitAtLastDot
  simp only [behind, length]
  rw [List.take_left' rfl]

theorem eq_of_splitAtLastDot {name base extension : List Glyph}
    (splits : splitAtLastDot name = some (base, extension)) :
    name = base ++ dot :: extension ∧ dot ∉ extension := by
  obtain ⟨before, behind, rfl, noDot⟩ := Text.exists_last_of_mem (mem_of_splitAtLastDot splits)
  rw [splitAtLastDot_append noDot, Option.some.injEq, Prod.mk.injEq] at splits
  obtain ⟨rfl, rfl⟩ := splits
  exact ⟨rfl, noDot⟩

/-- The extension stands behind the last dot of the file name, and something before that dot. -/
theorem fileName_of_extension_eq {extension : List Glyph}
    (extended : path.extension = some extension) :
    ∃ base, base ≠ [] ∧ dot ∉ extension ∧ path.fileName = some (base ++ dot :: extension) := by
  unfold Path.extension at extended
  split at extended
  · rename_i first rest found splits
    cases extended
    obtain ⟨name, named, parts⟩ := Option.bind_eq_some_iff.mp splits
    obtain ⟨rfl, noDot⟩ := eq_of_splitAtLastDot parts
    exact ⟨first :: rest, List.cons_ne_nil first rest, noDot, named⟩
  · cases extended

/-- A path that ends with a name leads to a file of that name. -/
theorem fileName_ofChars_append {front name : List Char}
    (starts : ∀ c, front.getLast? = some c → c = '/') (isName : IsName name) :
    (ofChars (front ++ name)).fileName = some (name.map Glyph.char) := by
  apply fileName_of_steps (ofChars front).steps
  have runs : Text.runs (· == '/') (front ++ name) = Text.runs (· == '/') front ++ [name] := by
    rw [Text.runs_append_of_starts (fun c last => beq_iff_eq.mpr (starts c last)),
      runs_of_noSlash isName.present isName.noSlash]
  rw [steps_ofChars, steps_ofChars, runs, List.map_append, List.map_singleton,
    segment_of_isName isName]

theorem slash_not_mem_of_fileName {name : List Glyph} (named : path.fileName = some name) :
    slash ∉ name := by
  intro inside
  have notSlash := (Text.hasRun_of_mem_runs (mem_runs_of_fileName named)).free slash inside
  exact absurd notSlash (by decide)

end Path

/-! ### Names that end with a name -/

/-- The text ends with the name of a file, behind a separator or alone. -/
def EndsInName (chars : List Char) : Prop :=
  ∃ front name, chars = front ++ name ∧ (∀ c, front.getLast? = some c → c = '/') ∧
    Path.IsName name

theorem endsInName_of_isName {name : List Char} (isName : Path.IsName name) : EndsInName name :=
  ⟨[], name, rfl, nofun, isName⟩

/-- Where a name ends with the name of a file, the extension of that file begins behind the last
dot of the whole name. -/
theorem File.stemOf_of_extension {chars extension : List Char} (ends : EndsInName chars)
    (extended : (Path.ofChars chars).extension = some (extension.map Glyph.char)) :
    stemOf chars ++ '.' :: extension = chars := by
  obtain ⟨front, name, rfl, starts, isName⟩ := ends
  obtain ⟨base, present, noDot, named⟩ := Path.fileName_of_extension_eq extended
  rw [Path.fileName_ofChars_append starts isName, Option.some.injEq] at named
  obtain ⟨letters, behind, rfl, rfl, isBehind⟩ := List.map_eq_append_iff.mp named
  obtain ⟨c, rest, rfl, isDot, isExtension⟩ := List.map_eq_cons_iff.mp isBehind
  obtain rfl : c = '.' := Glyph.char.inj isDot
  obtain rfl : rest = extension :=
    (List.map_inj_right fun _ _ => Glyph.char.inj).mp isExtension
  have noDotChar : '.' ∉ rest := fun inside => noDot (List.mem_map_of_mem inside)
  have lettersPresent : letters ≠ [] := fun empty => present (by rw [empty]; rfl)
  rw [← List.append_assoc, stemOf_append (List.append_ne_nil_of_right_ne_nil front lettersPresent)
    noDotChar, List.append_assoc]

namespace Role

variable {name : String}

theorem isComponent_iff {role : Role} :
    role.isComponent = true ↔ role = .documentClass ∨ role = .style := by
  cases role <;> simp [isComponent]

/-- A class has the extension of classes, a style that of styles. -/
theorem extension_of_isComponent (component : (ofName name).isComponent = true) :
    ofName name = .documentClass ∧
        (Path.ofString name).extension = some ("cls".toList.map Glyph.char) ∨
      ofName name = .style ∧
        (Path.ofString name).extension = some ("sty".toList.map Glyph.char) := by
  revert component
  unfold ofName
  cases (Path.ofString name).extension with
  | none => exact nofun
  | some extension =>
      intro component
      by_cases isCls : extension = "cls".toList.map Glyph.char
      · exact Or.inl ⟨if_pos isCls, congrArg some isCls⟩
      · by_cases isSty : extension = "sty".toList.map Glyph.char
        · exact Or.inr ⟨(if_neg isCls).trans (if_pos isSty), congrArg some isSty⟩
        · simp only [if_neg isCls, if_neg isSty] at component
          cases component

/-- The name of a class or style is the name of a file if it has no separator. -/
theorem isName_of_isComponent (component : (ofName name).isComponent = true)
    (noSlash : '/' ∉ name.toList) : Path.IsName name.toList := by
  have apart : ∀ other : String, (ofName other).isComponent = false →
      name.toList ≠ other.toList := by
    intro other notComponent same
    rw [String.toList_inj.mp same, notComponent] at component
    cases component
  exact ⟨apart "" (by decide +kernel), noSlash, apart "." (by decide +kernel),
    apart ".." (by decide +kernel)⟩

end Role

namespace File

variable {file : File}

/-- The name of a class or style is its stem and the extension for its role, where it ends with
the name of a file. -/
theorem stem_append_of_isComponent (ends : EndsInName file.name.toList)
    (component : file.role.isComponent = true) :
    file.role = .documentClass ∧ file.stem ++ ".cls" = file.name ∨
      file.role = .style ∧ file.stem ++ ".sty" = file.name := by
  have whole : ∀ letters : List Char,
      (Path.ofString file.name).extension = some (letters.map Glyph.char) →
        file.stem.toList ++ '.' :: letters = file.name.toList := by
    intro letters extended
    rw [stem, String.toList_ofList]
    exact stemOf_of_extension ends extended
  rcases Role.extension_of_isComponent component with ⟨isClass, extended⟩ | ⟨isStyle, extended⟩
  · refine Or.inl ⟨isClass, String.toList_inj.mp ?_⟩
    rw [String.toList_append]
    exact whole "cls".toList extended
  · refine Or.inr ⟨isStyle, String.toList_inj.mp ?_⟩
    rw [String.toList_append]
    exact whole "sty".toList extended

/-- The name that a path gives a file has no separator. -/
theorem slash_not_mem_ofPath (path : Path) : '/' ∉ (ofPath path).name.toList := by
  rw [ofPath, String.toList_ofList]
  intro inside
  obtain ⟨glyph, inName, isShown⟩ := List.mem_map.mp inside
  cases named : path.fileName with
  | none =>
      rw [named] at inName
      cases inName
  | some name =>
      rw [named, Option.getD_some] at inName
      cases glyph with
      | char c =>
          obtain rfl : c = '/' := isShown
          exact Path.slash_not_mem_of_fileName named inName
      | broken bytes =>
          have different : '\ufffd' ≠ '/' := by decide
          exact different isShown

end File

end TexAtlas
